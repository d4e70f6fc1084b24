import ApiBlueprint.Placeholder.Interpolate

/-! Engines that replace placeholders. Their state goes on from one text to the next. -/

namespace ApiBlueprint

inductive Generator where
  | random (stream : RandomStream)
  | refusing (reason : Text)
  deriving DecidableEq, Repr

inductive InterpolationFault where
  | unknownPlaceholder (token : Text)
  | refused (reason : Text)
  deriving DecidableEq, Repr

namespace InterpolationFault

def message : InterpolationFault → Text
  | unknownPlaceholder token => "unknown placeholder '|~".toList ++ token ++ "|'".toList
  | refused reason => reason

end InterpolationFault

/-- States of an engine that replaces the placeholders of a text, or refuses to. -/
class Engine (G : Type) where
  process : G → Text → Except InterpolationFault Text × G

namespace Generator

def seeded (seed : UInt64) : Generator := .random (.seeded seed)

def process (generator : Generator) (text : Text) : Except InterpolationFault Text × Generator :=
  match generator with
  | .random stream =>
    let (result, stream) := Placeholder.interpolate text stream
    (result.mapError .unknownPlaceholder, .random stream)
  | .refusing reason => (.error (.refused reason), generator)

instance : Engine Generator := ⟨process⟩

@[simp] theorem engine_process (generator : Generator) (text : Text) :
    Engine.process generator text = generator.process text := rfl

end Generator
end ApiBlueprint

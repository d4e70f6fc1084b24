import ApiBlueprint.Document.Unit

/-! One document or several, compiled with one generator. -/

namespace ApiBlueprint

inductive Input where
  | single (document : Document)
  | batch (documents : List Document)
  deriving DecidableEq, Repr

namespace Input

def kindOf : Json → Text
  | .null => "null".toList
  | .boolean _ => "boolean".toList
  | .number _ => "number".toList
  | .string _ => "string".toList
  | .array _ => "array".toList
  | .object _ => "object".toList

def memberOfJson : Json → Except CompileError Document
  | .string text => .ok { text }
  | value => .error (.input (.notMember (kindOf value)))

def ofJson : Json → Except CompileError Input
  | .string text => .ok (.single { text })
  | .array items => do return .batch (← items.mapM memberOfJson)
  | value => .error (.input (.notDocuments (kindOf value)))

end Input

inductive Compiled where
  | single (artifact : Artifact)
  | batch (artifacts : List Artifact)
  deriving Repr

namespace Batch

/-- What a member of a batch comes to: its place in the batch and its artifact, or an error. -/
abbrev Outcome := Except CompileError (Nat × Artifact)

/-- Fills the slots from outcomes in the order of their completion; the first error ends it. -/
def fill (slots : List (Option Artifact)) : List Outcome → Except CompileError (List (Option Artifact))
  | [] => .ok slots
  | .ok (index, artifact) :: rest => fill (slots.set index (some artifact)) rest
  | .error error :: _ => .error error

def joinInOrder (total : Nat) (outcomes : List Outcome) : Except CompileError (List Artifact) := do
  let slots ← fill (List.replicate total none) outcomes
  match slots.mapM id with
  | some artifacts => return artifacts
  | none => throw .unfinished

def run {Member G : Type} (compile : Member → G → Except CompileError Artifact × G) :
    List (Member × Nat) → G → List Outcome × G
  | [], generator => ([], generator)
  | (member, index) :: rest, generator =>
    let (result, generator) := compile member generator
    let (outcomes, generator) := run compile rest generator
    (result.map (fun artifact => (index, artifact)) :: outcomes, generator)

def compileAll {Member G : Type} (compile : Member → G → Except CompileError Artifact × G)
    (members : List Member) (generator : G) : Except CompileError (List Artifact) × G :=
  let (outcomes, generator) := run compile members.zipIdx generator
  (joinInOrder members.length outcomes, generator)

end Batch

namespace Input

def compile {G : Type} [Engine G] (input : Input) (options : CompileOptions) (generator : G) :
    Except CompileError Compiled × G :=
  match input with
  | single document =>
    let (result, generator) := document.compile options generator
    (result.map .single, generator)
  | batch documents =>
    let (result, generator) :=
      Batch.compileAll (fun document => document.compile options) documents generator
    (result.map .batch, generator)

end Input
end ApiBlueprint

import ApiBlueprint.Placeholder.Kind

/-!
Replacing the placeholders of a text, which are written as a token between `|~` and `|`. Every known
placeholder takes its random words even when the text has an unknown one.
-/

namespace ApiBlueprint

inductive TextPiece where
  | literal (c : Char)
  | token (name : Text)
  deriving DecidableEq, Repr

namespace Placeholder

def isTokenCharacter (c : Char) : Bool := Text.isAlphanumeric c || c = '_' || c = '.'

def token? (text : Text) : Option (Text × Text) :=
  let name := text.takeWhile isTokenCharacter
  match text.dropWhile isTokenCharacter with
  | '|' :: rest => if name.isEmpty then none else some (name, rest)
  | _ => none

theorem token_length {text name rest : Text} (found : token? text = some (name, rest)) :
    rest.length < text.length := by
  simp only [token?] at found
  split at found
  · rename_i tail equal
    split at found
    · simp at found
    · obtain ⟨rfl, rfl⟩ := by simpa using found
      have suffix := (List.dropWhile_suffix isTokenCharacter (l := text)).length_le
      rw [equal] at suffix
      simp at suffix
      omega
  · simp at found

def pieces : Text → List TextPiece
  | [] => []
  | '|' :: '~' :: rest =>
    match _found : token? rest with
    | some (name, after) => .token name :: pieces after
    | none => .literal '|' :: pieces ('~' :: rest)
  | c :: rest => .literal c :: pieces rest
  termination_by text => text.length
  decreasing_by
    · have := token_length _found
      simp
      omega
    · simp
    · simp

def replace : List TextPiece → RandomStream → Text × RandomStream
  | [], stream => ([], stream)
  | .literal c :: rest, stream =>
    let (text, stream) := replace rest stream
    (c :: text, stream)
  | .token name :: rest, stream =>
    match ofToken? name with
    | none => replace rest stream
    | some placeholder =>
      let (value, stream) := placeholder.draw stream
      let (text, stream) := replace rest stream
      (value ++ text, stream)

def firstUnknown? (pieces : List TextPiece) : Option Text :=
  pieces.findSome? fun piece =>
    match piece with
    | .literal _ => none
    | .token name => if (ofToken? name).isNone then some name else none

/-- The text with its placeholders replaced, or its first unknown token; and the stream after it. -/
def interpolate (text : Text) (stream : RandomStream) : Except Text Text × RandomStream :=
  let parts := pieces text
  let (replaced, stream) := replace parts stream
  match firstUnknown? parts with
  | some name => (.error name, stream)
  | none => (.ok replaced, stream)

end Placeholder
end ApiBlueprint

import ApiBlueprint.Text.Basic

/-!
Include directives. A directive is written `:[label](link)`; its indentation is the white space
before it if nothing else stands there on its line.
-/

namespace ApiBlueprint

inductive DocumentPiece where
  | literal (c : Char)
  | directive (link indent : Text)
  deriving DecidableEq, Repr

namespace Directive

def splitUnless (stop at? : Char → Bool) : Text → Option (Text × Text)
  | [] => none
  | c :: rest =>
    if at? c then some ([], rest)
    else if stop c then none
    else (splitUnless stop at? rest).map fun (before, after) => (c :: before, after)

/-- The link of a directive and the text behind it, from the character after `:[` on. -/
def link? (text : Text) : Option (Text × Text) :=
  match splitUnless (· = '\n') (· = ']') text with
  | some (_, '(' :: rest) =>
    match splitUnless Text.isSpace (· = ')') rest with
    | some ([], _) => none
    | found => found
  | _ => none

theorem split_unless_length {stop at? : Char → Bool} {text before after : Text}
    (found : splitUnless stop at? text = some (before, after)) : after.length < text.length := by
  induction text generalizing before after with
  | nil => simp [splitUnless] at found
  | cons c rest ih =>
    simp only [splitUnless] at found
    split at found
    · obtain ⟨rfl, rfl⟩ := by simpa using found
      simp
    · split at found
      · simp at found
      · obtain ⟨⟨_, tail⟩, split, equal⟩ := Option.map_eq_some_iff.mp found
        obtain ⟨rfl, rfl⟩ := Prod.mk.inj equal
        have := ih split
        simp
        omega

theorem link_length {text link after : Text} (found : link? text = some (link, after)) :
    after.length < text.length := by
  unfold link? at found
  split at found
  · rename_i label rest split
    have outer := split_unless_length split
    split at found
    · simp at found
    · have inner := split_unless_length found
      simp at outer
      omega
  · simp at found

/-- The indentation after one more character of a line; `none` behind anything but white space. -/
def indentAfter (indent : Option Text) (c : Char) : Option Text :=
  if c = '\n' then some []
  else if Text.isSpace c then indent.map (· ++ [c])
  else none

def piecesFrom (indent : Option Text) : Text → List DocumentPiece
  | [] => []
  | ':' :: '[' :: rest =>
    match _found : link? rest with
    | some (link, after) => .directive link (indent.getD []) :: piecesFrom none after
    | none => .literal ':' :: piecesFrom none ('[' :: rest)
  | c :: rest => .literal c :: piecesFrom (indentAfter indent c) rest
  termination_by text => text.length
  decreasing_by
    · have := link_length _found
      simp
      omega
    · simp
    · simp

def pieces (text : Text) : List DocumentPiece := piecesFrom (some []) text

end Directive
end ApiBlueprint

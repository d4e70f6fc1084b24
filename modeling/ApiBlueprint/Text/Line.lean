import ApiBlueprint.Text.Basic

/-!
Numbered lines and the width of their indentation, where a tab is worth four columns.
-/

namespace ApiBlueprint

structure Line where
  text : Text
  number : Nat
  deriving DecidableEq, Repr

namespace Line

def columns : Char → Nat
  | ' ' => 1
  | '\t' => 4
  | _ => 0

def indentWidth : Text → Nat
  | ' ' :: rest => indentWidth rest + 1
  | '\t' :: rest => indentWidth rest + 4
  | _ => 0

/-- Takes away spaces and tabs from the start until `width` columns are gone; a tab goes as a whole. -/
def dedent : Nat → Text → Text
  | 0, text => text
  | width + 1, ' ' :: rest => dedent width rest
  | width + 1, '\t' :: rest => dedent (width - 3) rest
  | _, text => text

def isBlank (line : Line) : Bool := Text.isBlank line.text
def indent (line : Line) : Nat := indentWidth line.text

def dropReturn (text : Text) : Text :=
  if text.getLast? = some '\r' then text.dropLast else text

end Line

def splitLines (source : Text) : List Line :=
  ((source.splitOn '\n').zipIdx 1).map fun (text, number) => ⟨Line.dropReturn text, number⟩

end ApiBlueprint

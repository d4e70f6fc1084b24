import ApiBlueprint.Text.Basic

/-!
A place in a line. White space is taken by columns: a tab reaches to the next multiple of four
columns behind the tab before it, and can be taken in part.
-/

namespace ApiBlueprint.CommonMark

structure Cursor where
  rest : Text
  passed : Nat := 0
  tabbed : Nat := 0
  /-- Columns left of a tab that has been taken in part. -/
  pending : Nat := 0
  deriving DecidableEq, Repr

namespace Cursor

/-- Takes columns from the characters of a line; gives the number of columns that are missing. -/
def take (passed tabbed count : Nat) : Text → Nat × Cursor
  | ' ' :: rest =>
    if count = 0 then (0, ⟨' ' :: rest, passed, tabbed, 0⟩)
    else take (passed + 1) tabbed (count - 1) rest
  | '\t' :: rest =>
    let width := 4 - (passed - tabbed) % 4
    if count = 0 then (0, ⟨'\t' :: rest, passed, tabbed, 0⟩)
    else if count ≤ width then (0, ⟨rest, passed + 1, passed + 1, width - count⟩)
    else take (passed + 1) (passed + 1) (count - width) rest
  | rest => (count, ⟨rest, passed, tabbed, 0⟩)

def skip (cursor : Cursor) (count : Nat) : Nat × Cursor :=
  if count ≤ cursor.pending then (0, { cursor with pending := cursor.pending - count })
  else take cursor.passed cursor.tabbed (count - cursor.pending) cursor.rest

def skipAll (cursor : Cursor) : Cursor :=
  let rest := cursor.rest.dropWhile fun c => c = ' ' || c = '\t'
  { cursor with
    rest
    passed := cursor.passed + (cursor.rest.length - rest.length)
    pending := 0 }

def advance (cursor : Cursor) (count : Nat) : Cursor :=
  { cursor with rest := cursor.rest.drop count, passed := cursor.passed + count }

def atLineEnd (cursor : Cursor) : Bool :=
  cursor.rest.head?.all fun c => c = '\n' || c = '\r'

end Cursor
end ApiBlueprint.CommonMark

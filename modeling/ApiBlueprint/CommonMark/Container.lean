import ApiBlueprint.CommonMark.Cursor
import ApiBlueprint.CommonMark.Lines

/-! Quotes, lists and list items, and the marks by which a line belongs to them. -/

namespace ApiBlueprint.CommonMark

inductive Container where
  | quote
  | list (mark : Char)
  /-- An item of a list, whose content is indented by so many columns. -/
  | item (indent : Nat)
  deriving DecidableEq, Repr

namespace Container

def isList : Container → Bool
  | list _ => true
  | _ => false

def afterQuote? (cursor : Cursor) : Option Cursor :=
  let behind := (cursor.skip 3).2
  match behind.rest with
  | '>' :: _ => some ((behind.advance 1).skip 1).2
  | _ => none

/-- The content of an item starts behind the white space that follows the marker, up to four columns
of it, unless it is blank or code. -/
def itemContent (indent : Nat) (cursor : Cursor) : Nat × Cursor :=
  let (missing, behind) := cursor.skip 4
  if (afterBlankLine? cursor.rest).isSome || missing = 0 then (indent, cursor)
  else (indent + (4 - missing), behind)

def afterItem? (cursor : Cursor) : Option (Char × Nat × Cursor) :=
  let (missing, start) := cursor.skip 4
  match itemMarker? start.rest with
  | none => none
  | some (mark, _, behind) =>
    let width := start.rest.length - behind.length
    let (gap, content) := (start.advance width).skip 1
    if missing = 0 || 10 < width || (isBullet mark && (afterRule? start.rest).isSome) ||
        (gap ≠ 0 && !content.atLineEnd) then none
    else
      let (indent, content) := itemContent (4 - missing + width + 1) content
      some (mark, indent, content)

/-- How many containers, the outermost first, go on in a line, and the place behind their marks. -/
def enter : List Container → Cursor → Nat × Cursor
  | [], cursor => (0, cursor)
  | .quote :: inner, cursor =>
    match afterQuote? cursor with
    | some behind => let (count, last) := enter inner behind; (count + 1, last)
    | none => (0, cursor)
  | .list _ :: inner, cursor => let (count, last) := enter inner cursor; (count + 1, last)
  | .item indent :: inner, cursor =>
    let (missing, behind) := cursor.skip indent
    if missing = 0 || behind.atLineEnd then
      let (count, last) := enter inner behind
      (count + 1, last)
    else (0, cursor)

def behindMarks (containers : List Container) (line : Text) : Text :=
  (enter containers { rest := line }).2.rest

end Container
end ApiBlueprint.CommonMark

import ApiBlueprint.CommonMark.Punctuation

/-!
What a line is by its first characters, and what stands behind it. A line ends with a line feed, a
carriage return, both, or the text.
-/

namespace ApiBlueprint.CommonMark

def isSpace (c : Char) : Bool := c = ' ' || ('\t' ≤ c && c ≤ '\r')

def isBlank (c : Char) : Bool := c = ' ' || c = '\t' || c = '\x0b' || c = '\x0c'

def skipSpace (text : Text) : Text := text.dropWhile isSpace
def skipBlank (text : Text) : Text := text.dropWhile isBlank

def afterLineEnd? : Text → Option Text
  | [] => some []
  | '\n' :: rest => some rest
  | '\r' :: '\n' :: rest => some rest
  | '\r' :: rest => some rest
  | _ => none

def afterBlankLine? (text : Text) : Option Text := afterLineEnd? (skipBlank text)

def splitLine (text : Text) : Text × Text :=
  match Text.splitFirst (· = '\n') text with
  | none => (text, [])
  | some (line, rest) => (line ++ ['\n'], rest)

def afterMarks? (mark : Char) (count : Nat) : Text → Option Text
  | [] => if 3 ≤ count then some [] else none
  | c :: rest =>
    if c = '\n' || c = '\r' then if 3 ≤ count then afterLineEnd? (c :: rest) else none
    else if c = mark then afterMarks? mark (count + 1) rest
    else if c = ' ' || c = '\t' then afterMarks? mark count rest
    else none

def afterRule? : Text → Option Text
  | [] => none
  | mark :: rest =>
    if mark = '*' || mark = '-' || mark = '_' then afterMarks? mark 1 rest else none

def headingDepth? (text : Text) : Option Nat :=
  let depth := (text.takeWhile (· = '#')).length
  if 1 ≤ depth && depth ≤ 6 && (text.drop depth).head?.all isSpace then some depth else none

/-- The mark and length of a fence; no backtick follows backticks on their line. -/
def fence? : Text → Option (Char × Nat)
  | [] => none
  | mark :: rest =>
    let length := (rest.takeWhile (· = mark)).length + 1
    let behind := (splitLine (rest.drop (length - 1))).1
    if 3 ≤ length && (mark = '~' || mark = '\x60' && !behind.contains mark) then some (mark, length)
    else none

def closingFence? (mark : Char) (length : Nat) (text : Text) : Option Text :=
  let behind := (text.dropWhile (· = mark)).dropWhile (· = ' ')
  if text.isEmpty then some []
  else if length ≤ (text.takeWhile (· = mark)).length then
    (afterLineEnd? behind).map fun _ => behind
  else none

def afterUnderline? : Text → Option Text
  | [] => none
  | mark :: rest =>
    if mark = '=' || mark = '-' then afterBlankLine? (rest.dropWhile (· = mark)) else none

def itemMarker? : Text → Option (Char × Nat × Text)
  | [] => none
  | c :: rest =>
    if c = '-' || c = '+' || c = '*' then some (c, 0, rest)
    else
      let digits := (c :: rest).takeWhile Text.isDigit
      match (c :: rest).drop digits.length with
      | mark :: behind =>
        if !digits.isEmpty && (mark = '.' || mark = ')') then
          some (mark, Text.decimal digits, behind)
        else none
      | [] => none

def isBullet (mark : Char) : Bool := mark = '-' || mark = '+' || mark = '*'

/-- Whether a line starts a list item where text goes before. Inside the container of that text an
item has to be numbered one, if at all, and two blank lines may not stand behind its marker. -/
def breaksByItem (inside : Bool) (text : Text) : Bool :=
  match itemMarker? text with
  | none => false
  | some (mark, number, behind) =>
    let twiceBlank := ((afterBlankLine? behind) >>= afterBlankLine?).isSome
    number < Nat.pow 2 64 &&
      (behind.head?.any (fun c => c = ' ' || c = '\t') || (afterLineEnd? behind).isSome) &&
      (!inside || ((isBullet mark || number = 1) && !twiceBlank))

end ApiBlueprint.CommonMark

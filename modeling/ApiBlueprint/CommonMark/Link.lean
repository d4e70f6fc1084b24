import ApiBlueprint.CommonMark.Html
import ApiBlueprint.Text.CaseFold

/-! Links: destinations, titles, labels, definitions, and addresses in angle brackets. -/

namespace ApiBlueprint.CommonMark.Link

def afterPointed? : Text → Option Text
  | [] => none
  | '\\' :: c :: rest =>
    if isAsciiPunctuation c then afterPointed? rest else afterPointed? (c :: rest)
  | c :: rest =>
    if c = '\n' || c = '\r' || c = '<' then none
    else if c = '>' then some rest
    else afterPointed? rest

/-- The rest behind a destination without brackets: it ends at a closing parenthesis that it does not
open itself, or at white space. More than `most` + 1 parentheses may not be open. -/
def afterBare? (most depth : Nat) : Text → Option Text
  | [] => some []
  | '\\' :: c :: rest =>
    if isAsciiPunctuation c then afterBare? most depth rest else afterBare? most depth (c :: rest)
  | c :: rest =>
    if c.toNat ≤ 32 then some (c :: rest)
    else if c = '(' then if most < depth then none else afterBare? most (depth + 1) rest
    else if c = ')' then
      match depth with
      | 0 => some (c :: rest)
      | depth + 1 => afterBare? most depth rest
    else afterBare? most depth rest

def afterDestination? (most : Nat) : Text → Option Text
  | '<' :: rest => afterPointed? rest
  | text => afterBare? most 0 text

def titleEnd? (c : Char) : Option Char :=
  if c = '"' || c = '\x27' then some c else if c = '(' then some ')' else none

/-- The rest behind a title in a line of text; `follow` gives the text that follows a line end, and
`fuel` bounds the characters left. -/
def afterTitleBody? (follow : Text → Text) (start stop : Char) : Nat → Text → Option Text
  | 0, _ => none
  | _, [] => none
  | fuel + 1, c :: rest =>
    if c = stop then some rest
    else if c = start then none
    else if c = '\n' || c = '\r' then afterTitleBody? follow start stop fuel (follow (c :: rest))
    else if c = '\\' && rest.head?.any isAsciiPunctuation then
      afterTitleBody? follow start stop fuel (rest.drop 1)
    else afterTitleBody? follow start stop fuel rest

def afterTitle? (follow : Text → Text) : Text → Option Text
  | [] => none
  | c :: rest => do afterTitleBody? follow c (← titleEnd? c) rest.length.succ rest

def afterInline? (follow : Text → Text) : Text → Option Text
  | '(' :: rest => do
    let behind := skipSpace (← afterDestination? 5 (skipSpace rest))
    let behind := ((afterTitle? follow behind).map skipSpace).getD behind
    match behind with
    | ')' :: after => return after
    | _ => none
  | _ => none

/-- The rest behind white space in a label, with the number of line ends in it. `marks` takes away
what stands before the text of a line, if the label may go on there; `fuel` bounds the lines. -/
def afterLabelSpace? (marks : Text → Option Text) (ends : Nat) : Nat → Text → Option Text
  | 0, _ => none
  | fuel + 1, text =>
    match skipBlank text with
    | [] => some []
    | c :: rest =>
      if c = '\n' || c = '\r' then do
        if 1 ≤ ends then none
        else afterLabelSpace? marks (ends + 1) fuel (← marks (← afterLineEnd? (c :: rest)))
      else some (c :: rest)

def spaceWeight (text rest : Text) : Nat :=
  if text.head? = some ' ' && text.length = rest.length + 1 then 1 else text.length - rest.length

def weight (c : Char) : Nat := if c.toNat < 128 then 0 else c.utf8Size

/-- Reads a label up to its closing bracket; white space in it becomes single spaces, and brackets in
it are escaped. `length` counts up to a thousand, and `fuel` bounds the characters left. -/
def labelBody? (marks : Text → Option Text) (length : Nat) : Nat → Text → Option (Text × Text)
  | 0, _ => none
  | _, [] => none
  | fuel + 1, c :: rest =>
    if 1000 ≤ length || c = '[' then none
    else if c = ']' then some ([], rest)
    else if c = '\\' then
      match rest with
      | [] => none
      | escaped :: rest => do
        let more := escaped.utf8Size - 1
        let (label, after) ← labelBody? marks (length + 2 + more) fuel rest
        return ('\\' :: escaped :: label, after)
    else if isSpace c then do
      let behind ← afterLabelSpace? marks 0 rest.length.succ (c :: rest)
      let (label, after) ← labelBody? marks (length + spaceWeight (c :: rest) behind) fuel behind
      return (' ' :: label, after)
    else do
      let (label, after) ← labelBody? marks (length + weight c) fuel rest
      return (c :: label, after)

def label? (marks : Text → Option Text) : Text → Option (Text × Text)
  | '[' :: rest => do
    let (label, after) ← labelBody? marks 0 rest.length.succ rest
    if label.all (· = ' ') then none else return (Text.foldCase label, after)
  | _ => none

def afterDefinitionTitle? (stop : Char) : Text → Option Text
  | [] => none
  | '\\' :: _ :: rest => afterDefinitionTitle? stop rest
  | c :: rest =>
    if c = stop then some rest
    else if c = '\n' && ((skipBlank rest).head?.all (· = '\n')) then none
    else afterDefinitionTitle? stop rest

def isSchemeCharacter (c : Char) : Bool := Text.isAlphanumeric c || c = '.' || c = '-' || c = '+'

def afterUri? (text : Text) : Option Text :=
  let scheme := text.takeWhile isSchemeCharacter
  match text.dropWhile isSchemeCharacter with
  | ':' :: rest =>
    match rest.dropWhile fun c => !(c.toNat ≤ 32 || c = '<' || c = '>') with
    | '>' :: after =>
      if scheme.head?.any Text.isLetter && 2 ≤ scheme.length && scheme.length ≤ 32 then some after
      else none
    | _ => none
  | _ => none

def isMailCharacter (c : Char) : Bool :=
  Text.isAlphanumeric c || ".!#$%&*+/=?^_~-|".toList.contains c || c = '\x27' || c = '\x60' ||
    c = '{' || c = '}'

def isDomainLabel (label : Text) : Bool :=
  !label.isEmpty && label.length ≤ 63 && label.head? ≠ some '-' && label.getLast? ≠ some '-' &&
    label.all Html.isNameCharacter

def afterMail? (text : Text) : Option Text :=
  match text.dropWhile isMailCharacter with
  | '@' :: rest =>
    match Text.splitFirst (· = '>') rest with
    | some (domain, after) => if (domain.splitOn '.').all isDomainLabel then some after else none
    | none => none
  | _ => none

def afterAddress? (text : Text) : Option Text := afterUri? text <|> afterMail? text

end ApiBlueprint.CommonMark.Link

/-!
Texts are lists of characters. This module holds trimming, splitting and joining, all by the
Unicode property White_Space.
-/

namespace ApiBlueprint

abbrev Text := List Char

namespace Text

/-- White_Space of the Unicode character database. -/
def isSpace (c : Char) : Bool :=
  let code := c.toNat
  (9 ≤ code && code ≤ 13) || code == 32 || code == 0x85 || code == 0xA0 || code == 0x1680 ||
    (0x2000 ≤ code && code ≤ 0x200A) || code == 0x2028 || code == 0x2029 || code == 0x202F ||
    code == 0x205F || code == 0x3000

def dropEndWhile (drop : Char → Bool) (text : Text) : Text :=
  (text.reverse.dropWhile drop).reverse

def trimStart (text : Text) : Text := text.dropWhile isSpace
def trimEnd (text : Text) : Text := dropEndWhile isSpace text
def trim (text : Text) : Text := trimEnd (trimStart text)

def isBlank (text : Text) : Bool := text.all isSpace

def nonEmpty (text : Text) : Option Text :=
  match trim text with
  | [] => none
  | trimmed => some trimmed

section

variable {α : Type}

def splitFirst (at? : α → Bool) : List α → Option (List α × List α)
  | [] => none
  | c :: rest =>
    if at? c then some ([], rest)
    else (splitFirst at? rest).map fun (before, after) => (c :: before, after)

def splitLast (at? : α → Bool) (text : List α) : Option (List α × List α) :=
  (splitFirst at? text.reverse).map fun (after, before) => (before.reverse, after.reverse)

def joinWith (separator : List α) (parts : List (List α)) : List α := separator.intercalate parts

end

def afterStart : Text → Text → Option Text
  | [], text => some text
  | _ :: _, [] => none
  | expected :: start, c :: rest => if expected = c then afterStart start rest else none

/-- The words of a text, that is its maximal runs without white space. -/
def words (text : Text) : List Text := (text.splitOnP isSpace).filter (· ≠ [])

def squeeze (text : Text) : Text := joinWith [' '] (words text)

def startsWith (start text : Text) : Bool := start.isPrefixOf text

def isUpper (c : Char) : Bool := 'A' ≤ c && c ≤ 'Z'
def isLetter (c : Char) : Bool := isUpper c || ('a' ≤ c && c ≤ 'z')
def isDigit (c : Char) : Bool := '0' ≤ c && c ≤ '9'
def isAlphanumeric (c : Char) : Bool := isLetter c || isDigit c

def lower (c : Char) : Char := if isUpper c then Char.ofNat (c.toNat + 32) else c

def sameLetters (left right : Text) : Bool := left.map lower == right.map lower

def ofNat (n : Nat) : Text := Nat.toDigits 10 n

def digitValue (c : Char) : Nat := c.toNat - '0'.toNat

def decimal (digits : Text) : Nat := digits.foldl (fun value c => value * 10 + digitValue c) 0

def byteLength (text : Text) : Nat := text.foldl (fun length c => length + c.utf8Size) 0

def bytes (text : Text) : List UInt8 := text.flatMap String.utf8EncodeChar

end Text
end ApiBlueprint

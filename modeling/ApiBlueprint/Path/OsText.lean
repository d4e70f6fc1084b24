import ApiBlueprint.Text.Basic

/-! Names and paths as a system has them: bytes, most often a text in UTF-8 but not always. -/

namespace ApiBlueprint

abbrev OsText := List UInt8

instance : Coe Text OsText := ⟨Text.bytes⟩

namespace OsText

def slash : UInt8 := 0x2F
def point : UInt8 := 0x2E

def firstChar? (bytes : OsText) : Option Char := bytes.toByteArray.utf8DecodeChar? 0

def isTail (byte : UInt8) : Bool := 0x80 ≤ byte && byte ≤ 0xBF

def beginsWith (first second : UInt8) : Bool :=
  if first = 0xE0 then 0xA0 ≤ second && second ≤ 0xBF
  else if first = 0xED then 0x80 ≤ second && second ≤ 0x9F
  else if first = 0xF0 then 0x90 ≤ second && second ≤ 0xBF
  else if first = 0xF4 then 0x80 ≤ second && second ≤ 0x8F
  else 0xC2 ≤ first && first ≤ 0xF4 && isTail second

/-- How many bytes are passed over where no character begins: the start of one that is broken off, or
a single byte. -/
def faultLength : OsText → Nat
  | first :: second :: rest =>
    if !beginsWith first second then 1
    else if 0xF0 ≤ first && rest.head?.any isTail then 3
    else 2
  | _ => 1

/-- The characters of the bytes behind the first `passed` ones, and nothing in the place of bytes that
belong to no character. -/
def charsFrom (passed : Nat) : OsText → List (Option Char)
  | [] => []
  | byte :: rest =>
    match passed with
    | passed + 1 => charsFrom passed rest
    | 0 =>
      match firstChar? (byte :: rest) with
      | some c => some c :: charsFrom (c.utf8Size - 1) rest
      | none => none :: charsFrom (faultLength (byte :: rest) - 1) rest

def chars (bytes : OsText) : List (Option Char) := charsFrom 0 bytes

def text? (bytes : OsText) : Option Text := (chars bytes).mapM id

/-- The bytes as they are shown, with a mark in the place of what is no text. -/
def display (bytes : OsText) : Text := (chars bytes).map (Option.getD · '\uFFFD')

end OsText
end ApiBlueprint

import ApiBlueprint.Text.Basic

/-! What can be wrong with a JSON text, and where. -/

namespace ApiBlueprint

inductive JsonFault where
  | endInValue | endInList | endInObject | endInString
  | controlCharacter
  | expectedColon | expectedListEnd | expectedObjectEnd | expectedIdent | expectedValue
  | invalidEscape | invalidNumber
  | keyMustBeString
  | loneSurrogate
  | numberOutOfRange
  | tooDeep
  | trailingComma | trailingCharacters
  | unfinishedPair
  deriving DecidableEq, Repr

namespace JsonFault

def message : JsonFault → Text
  | endInValue => "EOF while parsing a value".toList
  | endInList => "EOF while parsing a list".toList
  | endInObject => "EOF while parsing an object".toList
  | endInString => "EOF while parsing a string".toList
  | controlCharacter =>
    "control character (\\u0000-\\u001F) found while parsing a string".toList
  | expectedColon => "expected \x60:\x60".toList
  | expectedListEnd => "expected \x60,\x60 or \x60]\x60".toList
  | expectedObjectEnd => "expected \x60,\x60 or \x60\x7d\x60".toList
  | expectedIdent => "expected ident".toList
  | expectedValue => "expected value".toList
  | invalidEscape => "invalid escape".toList
  | invalidNumber => "invalid number".toList
  | keyMustBeString => "key must be a string".toList
  | loneSurrogate => "lone leading surrogate in hex escape".toList
  | numberOutOfRange => "number out of range".toList
  | tooDeep => "recursion limit exceeded".toList
  | trailingComma => "trailing comma".toList
  | trailingCharacters => "trailing characters".toList
  | unfinishedPair => "unexpected end of hex escape".toList

end JsonFault

/-- A fault at a line and a column; both count from 1, columns in bytes. -/
structure JsonError where
  fault : JsonFault
  line : Nat
  column : Nat
  deriving DecidableEq, Repr

namespace JsonError

def message (error : JsonError) : Text :=
  error.fault.message ++ " at line ".toList ++ Text.ofNat error.line ++ " column ".toList ++
    Text.ofNat error.column

def locate (fault : JsonFault) (text : Text) (offset : Nat) : JsonError :=
  let before := (Text.bytes text).take offset
  ⟨fault, before.count 10 + 1, (before.reverse.takeWhile (· ≠ 10)).length⟩

end JsonError
end ApiBlueprint

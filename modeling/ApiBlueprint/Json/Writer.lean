import ApiBlueprint.Decimal.Shortest
import ApiBlueprint.Json.Basic

/-! Writing JSON, either without white space or with members on lines of their own. -/

namespace ApiBlueprint.Json

/-- Numbers from 1e-5 to below 1e16 are written positionally. -/
def layout : DecimalLayout := ⟨-5, 15⟩

def writeInteger (value : Int) : Text :=
  if value < 0 then '-' :: Text.ofNat value.natAbs else Text.ofNat value.natAbs

def writeNumber : JsonNumber → Text
  | .integer value => writeInteger value
  | .binary value => value.render layout

def hexDigit (n : Nat) : Char := Char.ofNat (if n < 10 then n + 48 else n + 87)

def writeCharacter (c : Char) : Text :=
  if c = '"' then ['\\', '"']
  else if c = '\\' then ['\\', '\\']
  else if c = '\x08' then ['\\', 'b']
  else if c = '\x0c' then ['\\', 'f']
  else if c = '\n' then ['\\', 'n']
  else if c = '\r' then ['\\', 'r']
  else if c = '\t' then ['\\', 't']
  else if c.toNat < 32 then
    ['\\', 'u', '0', '0', hexDigit (c.toNat / 16), hexDigit (c.toNat % 16)]
  else [c]

def writeString (text : Text) : Text := '"' :: text.flatMap writeCharacter ++ ['"']

mutual

def compact : Json → Text
  | null => "null".toList
  | boolean value => if value then "true".toList else "false".toList
  | number value => writeNumber value
  | string value => writeString value
  | array [] => ['[', ']']
  | array (first :: rest) => '[' :: compact first ++ compactItems rest ++ [']']
  | object [] => ['{', '}']
  | object ((key, value) :: rest) =>
    '{' :: writeString key ++ ':' :: compact value ++ compactMembers rest ++ ['}']

def compactItems : List Json → Text
  | [] => []
  | item :: rest => ',' :: compact item ++ compactItems rest

def compactMembers : List (Text × Json) → Text
  | [] => []
  | (key, value) :: rest => ',' :: writeString key ++ ':' :: compact value ++ compactMembers rest

end

def newLine (depth : Nat) : Text := '\n' :: List.replicate (2 * depth) ' '

mutual

def prettyAt (depth : Nat) : Json → Text
  | null => "null".toList
  | boolean value => if value then "true".toList else "false".toList
  | number value => writeNumber value
  | string value => writeString value
  | array [] => ['[', ']']
  | array (first :: rest) =>
    '[' :: newLine (depth + 1) ++ prettyAt (depth + 1) first ++ prettyItems (depth + 1) rest ++
      newLine depth ++ [']']
  | object [] => ['{', '}']
  | object ((key, value) :: rest) =>
    '{' :: newLine (depth + 1) ++ writeString key ++ ':' :: ' ' :: prettyAt (depth + 1) value ++
      prettyMembers (depth + 1) rest ++ newLine depth ++ ['}']

def prettyItems (depth : Nat) : List Json → Text
  | [] => []
  | item :: rest => ',' :: newLine depth ++ prettyAt depth item ++ prettyItems depth rest

def prettyMembers (depth : Nat) : List (Text × Json) → Text
  | [] => []
  | (key, value) :: rest =>
    ',' :: newLine depth ++ writeString key ++ ':' :: ' ' :: prettyAt depth value ++
      prettyMembers depth rest

end

def pretty (value : Json) : Text := prettyAt 0 value

end ApiBlueprint.Json

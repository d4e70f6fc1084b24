import ApiBlueprint.Toml.Value

/-!
Booleans, numbers and moments in TOML. Such a value ends at the first blank, line end, comma, closing
bracket or comment.
-/

namespace ApiBlueprint.TomlScalar

def grouped? (isDigit : Char → Bool) : Text → Option Text
  | [] => none
  | [c] => if isDigit c then some [c] else none
  | c :: '_' :: rest => if isDigit c then (grouped? isDigit rest).map (c :: ·) else none
  | c :: rest => if isDigit c then (grouped? isDigit rest).map (c :: ·) else none

def splitSign : Text → Bool × Text
  | '+' :: rest => (false, rest)
  | '-' :: rest => (true, rest)
  | text => (false, text)

def wholeDigits? (text : Text) : Option Text :=
  match grouped? Text.isDigit text with
  | some ('0' :: _ :: _) => none
  | found => found

def isHexDigit (c : Char) : Bool :=
  Text.isDigit c || ('a' ≤ c && c ≤ 'f') || ('A' ≤ c && c ≤ 'F')

def digitValue (c : Char) : Nat :=
  if Text.isDigit c then c.toNat - 48 else if 'a' ≤ c then c.toNat - 87 else c.toNat - 55

def inBase (base : Nat) (digits : Text) : Nat :=
  digits.foldl (fun value c => value * base + digitValue c) 0

/-- Integers have 64 bits with the sign. -/
def bounded? (value : Int) : Option Int :=
  let bound : Int := Nat.pow 2 63
  if -bound ≤ value && value < bound then some value else none

def integer? (text : Text) : Option Int :=
  match text with
  | '0' :: 'x' :: rest => do bounded? (inBase 16 (← grouped? isHexDigit rest))
  | '0' :: 'o' :: rest => do bounded? (inBase 8 (← grouped? (fun c => '0' ≤ c && c ≤ '7') rest))
  | '0' :: 'b' :: rest => do bounded? (inBase 2 (← grouped? (fun c => c = '0' || c = '1') rest))
  | _ => do
    let (negative, rest) := splitSign text
    let value := Text.decimal (← wholeDigits? rest)
    bounded? (if negative then -value else value)

def scaled? (significand : Nat) (exponent : Int) : Option Magnitude :=
  let length : Int := (Text.ofNat significand).length
  if significand = 0 || length + exponent < -330 then some .zero
  else if 310 < length + exponent then none
  else
    let (up, down) := Magnitude.tenTo exponent
    let magnitude := Magnitude.ofRatio (significand * up) down
    if magnitude.isInfinite then none else some magnitude

structure Mantissa where
  whole : Text
  fraction : Text

def mantissa? (text : Text) : Option Mantissa :=
  match Text.splitFirst (· = '.') text with
  | some (whole, fraction) => do
    return ⟨← wholeDigits? whole, ← grouped? Text.isDigit fraction⟩
  | none => do return ⟨← wholeDigits? text, []⟩

def exponent? (text : Text) : Option Int := do
  let (negative, digits) := splitSign text
  let value := Text.decimal (← grouped? Text.isDigit digits)
  return if negative then -value else value

/-- A number with a point or an exponent. One above the largest finite number is refused, but one
below the least is minus infinity. -/
def decimalFloat? (text : Text) : Option TomlFloat := do
  let (negative, unsigned) := splitSign text
  let (mantissa, exponent) ←
    match Text.splitFirst (fun c => c = 'e' || c = 'E') unsigned with
    | some (before, after) => do pure (← mantissa? before, ← exponent? after)
    | none =>
      if unsigned.contains '.' then do pure (← mantissa? unsigned, 0) else none
  let significand := Text.decimal (mantissa.whole ++ mantissa.fraction)
  match scaled? significand (exponent - mantissa.fraction.length) with
  | some magnitude => return .finite ⟨negative, magnitude⟩
  | none => if negative then return .infinite true else none

def float? (text : Text) : Option TomlFloat :=
  match splitSign text with
  | (negative, ['i', 'n', 'f']) => some (.infinite negative)
  | (_, ['n', 'a', 'n']) => some .notANumber
  | _ => decimalFloat? text

def fixedDigits? : Nat → Text → Option (Nat × Text)
  | count, text =>
    let digits := text.take count
    if digits.length = count && digits.all Text.isDigit then
      some (Text.decimal digits, text.drop count)
    else none

def pair? (least greatest : Nat) (text : Text) : Option (Nat × Text) := do
  let (value, rest) ← fixedDigits? 2 text
  if least ≤ value && value ≤ greatest then some (value, rest) else none

def mark? (mark : Char) : Text → Option Text
  | [] => none
  | c :: rest => if c = mark then some rest else none

def daysInMonth (year month : Nat) : Nat :=
  if month = 2 then
    if year % 4 = 0 && (year % 100 ≠ 0 || year % 400 = 0) then 29 else 28
  else if month = 4 || month = 6 || month = 9 || month = 11 then 30
  else 31

def afterDate? (text : Text) : Option Text := do
  let (year, text) ← fixedDigits? 4 text
  let (month, text) ← pair? 1 12 (← mark? '-' text)
  let (_, text) ← pair? 1 (daysInMonth year month) (← mark? '-' text)
  return text

def afterFraction? : Text → Option Text
  | '.' :: rest =>
    let after := rest.dropWhile Text.isDigit
    if after.length < rest.length then some after else none
  | text => some text

def afterTime? (text : Text) : Option Text := do
  let (_, text) ← pair? 0 23 text
  let (_, text) ← pair? 0 59 (← mark? ':' text)
  let (_, text) ← pair? 0 60 (← mark? ':' text)
  afterFraction? text

def isOffset (text : Text) : Bool :=
  match text with
  | [] => true
  | ['Z'] => true
  | ['z'] => true
  | c :: rest =>
    (c = '+' || c = '-') &&
      (do
        let (_, rest) ← pair? 0 23 rest
        let (_, rest) ← pair? 0 59 (← mark? ':' rest)
        return rest) == some []

def isTimeWithOffset (text : Text) : Bool := (afterTime? text).any isOffset

def isDate (text : Text) : Bool := afterDate? text == some []

def isMoment (text : Text) : Bool :=
  afterTime? text == some [] ||
    match afterDate? text with
    | none => false
    | some [] => true
    | some (c :: rest) => (c = 'T' || c = 't') && isTimeWithOffset rest

def endsToken (c : Char) : Bool :=
  c = ' ' || c = '\t' || c = '\n' || c = '\r' || c = ',' || c = ']' || c = '}' || c = '#'

def token (text : Text) : Text × Text := text.span fun c => !endsToken c

def ofToken? (text : Text) : Option TomlScalar :=
  if text = "true".toList then some (.boolean true)
  else if text = "false".toList then some (.boolean false)
  else if isMoment text then some .moment
  else
    match integer? text with
    | some value => some (.integer value)
    | none => (float? text).map .float

/-- A boolean, a number or a moment, and the text behind it. A time of day may stand one space
behind its date. -/
def read? (text : Text) : Option (TomlScalar × Text) := do
  let (first, rest) := token text
  let value ← ofToken? first
  match rest with
  | ' ' :: more =>
    let (second, after) := token more
    if isDate first && isTimeWithOffset second then return (value, after) else return (value, rest)
  | _ => return (value, rest)

end ApiBlueprint.TomlScalar

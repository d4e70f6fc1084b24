import ApiBlueprint.Json.Basic
import ApiBlueprint.Json.Fault

/-!
A strict reader of JSON texts. Values nest at most 127 deep. A number without point and exponent
that fits 64 bits is an integer; every other number is binary64.
-/

namespace ApiBlueprint

namespace JsonReader

/-- A fault where `rest` was still unread; `ahead` bytes of it are counted as read. -/
structure Failure where
  fault : JsonFault
  rest : Text
  ahead : Nat
  deriving DecidableEq, Repr

def failAt {α : Type} (fault : JsonFault) (rest : Text) (ahead : Nat := 1) : Except Failure (α × Text) :=
  .error ⟨fault, rest, ahead⟩

def isSpace (c : Char) : Bool := c = ' ' || c = '\n' || c = '\t' || c = '\r'
def skipSpace (text : Text) : Text := text.dropWhile isSpace

def word : Text → Text → Except Failure Text
  | [], text => .ok text
  | _ :: _, [] => .error ⟨.endInValue, [], 0⟩
  | expected :: more, c :: rest =>
    if expected = c then word more rest else .error ⟨.expectedIdent, c :: rest, 1⟩

def hexValue? (c : Char) : Option Nat :=
  if Text.isDigit c then some (c.toNat - 48)
  else if 'a' ≤ c && c ≤ 'f' then some (c.toNat - 87)
  else if 'A' ≤ c && c ≤ 'F' then some (c.toNat - 55)
  else none

def hexUnit? : Text → Option (Nat × Text)
  | a :: b :: c :: d :: rest => do
    return ((← hexValue? a) * 4096 + (← hexValue? b) * 256 + (← hexValue? c) * 16 + (← hexValue? d), rest)
  | _ => none

def hexUnit (text : Text) : Except Failure (Nat × Text) :=
  match hexUnit? text with
  | some result => .ok result
  | none =>
    if 4 ≤ Text.byteLength text then failAt .invalidEscape text 4 else failAt .endInString [] 0

def isHighSurrogate (unit : Nat) : Bool := 0xD800 ≤ unit && unit ≤ 0xDBFF
def isLowSurrogate (unit : Nat) : Bool := 0xDC00 ≤ unit && unit ≤ 0xDFFF

def lowHalf (high : Nat) : Text → Except Failure (Char × Text)
  | [] => failAt .endInString []
  | '\\' :: [] => failAt .endInString []
  | '\\' :: 'u' :: rest => do
    let (low, rest) ← hexUnit rest
    if isLowSurrogate low then
      .ok (Char.ofNat ((high - 0xD800) * 1024 + (low - 0xDC00) + 0x10000), rest)
    else failAt .loneSurrogate rest 0
  | '\\' :: rest => failAt .unfinishedPair rest
  | text => failAt .unfinishedPair text

def unicodeEscape (text : Text) : Except Failure (Char × Text) := do
  let (unit, rest) ← hexUnit text
  if isLowSurrogate unit then failAt .loneSurrogate rest 0
  else if isHighSurrogate unit then lowHalf unit rest
  else .ok (Char.ofNat unit, rest)

def simpleEscape? (c : Char) : Option Char :=
  if c = '"' || c = '\\' || c = '/' then some c
  else if c = 'b' then some '\x08'
  else if c = 'f' then some '\x0c'
  else if c = 'n' then some '\n'
  else if c = 'r' then some '\r'
  else if c = 't' then some '\t'
  else none

def escape : Text → Except Failure (Char × Text)
  | [] => failAt .endInString []
  | c :: rest =>
    if c = 'u' then unicodeEscape rest
    else
      match simpleEscape? c with
      | some value => .ok (value, rest)
      | none => failAt .invalidEscape (c :: rest)

def stringStep : Text → Except Failure (Option Char × Text)
  | [] => failAt .endInString []
  | c :: rest =>
    if c = '"' then .ok (none, rest)
    else if c = '\\' then do
      let (value, rest) ← escape rest
      return (some value, rest)
    else if c.toNat < 32 then failAt .controlCharacter (c :: rest)
    else .ok (some c, rest)

theorem hex_unit_length {text rest : Text} {unit : Nat} (read : hexUnit text = .ok (unit, rest)) :
    rest.length < text.length := by
  unfold hexUnit at read
  split at read
  · rename_i result found
    obtain rfl : result = (unit, rest) := by simpa using read
    unfold hexUnit? at found
    split at found
    · simp only [bind, Option.bind_eq_some_iff, pure, Option.some.injEq, Prod.mk.injEq] at found
      obtain ⟨_, _, _, _, _, _, _, _, _, rfl⟩ := found
      simp
      omega
    · simp at found
  · split at read <;> simp [failAt] at read

theorem low_half_length {high : Nat} {text rest : Text} {value : Char}
    (read : lowHalf high text = .ok (value, rest)) : rest.length < text.length := by
  unfold lowHalf at read
  split at read <;> try simp [failAt] at read
  rename_i tail
  cases unit : hexUnit tail with
  | error failure => simp [unit, bind, Except.bind] at read
  | ok result =>
    simp only [unit, bind, Except.bind] at read
    split at read
    · have shorter := hex_unit_length unit
      simp only [Except.ok.injEq, Prod.mk.injEq] at read
      rw [← read.2]
      simp
      omega
    · simp at read

theorem unicode_escape_length {text rest : Text} {value : Char}
    (read : unicodeEscape text = .ok (value, rest)) : rest.length < text.length := by
  unfold unicodeEscape at read
  cases unit : hexUnit text with
  | error failure => simp [unit, bind, Except.bind] at read
  | ok result =>
    have shorter := hex_unit_length unit
    simp only [unit, bind, Except.bind] at read
    split at read
    · simp [failAt] at read
    · split at read
      · exact Nat.lt_trans (low_half_length read) shorter
      · simp only [Except.ok.injEq, Prod.mk.injEq] at read
        rw [← read.2]
        exact shorter

theorem escape_length {text rest : Text} {value : Char} (read : escape text = .ok (value, rest)) :
    rest.length < text.length := by
  cases text with
  | nil => simp [escape, failAt] at read
  | cons c tail =>
    simp only [escape] at read
    split at read
    · have := unicode_escape_length read
      simp
      omega
    · split at read
      · simp only [Except.ok.injEq, Prod.mk.injEq] at read
        simp [← read.2]
      · simp [failAt] at read

theorem string_step_length {text rest : Text} {value : Option Char}
    (read : stringStep text = .ok (value, rest)) : rest.length < text.length := by
  cases text with
  | nil => simp [stringStep, failAt] at read
  | cons c tail =>
    simp only [stringStep] at read
    split at read
    · simp only [Except.ok.injEq, Prod.mk.injEq] at read
      simp [← read.2]
    · split at read
      · cases escaped : escape tail with
        | error failure => simp [escaped, bind, Except.bind] at read
        | ok result =>
          have := escape_length escaped
          simp only [escaped, bind, Except.bind, pure, Except.pure, Except.ok.injEq, Prod.mk.injEq]
            at read
          rw [← read.2]
          simp
          omega
      · split at read
        · simp [failAt] at read
        · simp only [Except.ok.injEq, Prod.mk.injEq] at read
          simp [← read.2]

def string (text : Text) : Except Failure (Text × Text) :=
  match _step : stringStep text with
  | .error failure => .error failure
  | .ok (none, rest) => .ok ([], rest)
  | .ok (some c, rest) => do
    let (value, rest) ← string rest
    return (c :: value, rest)
  termination_by text.length
  decreasing_by exact string_step_length _step

def maxUnsigned : Nat := Nat.pow 2 64 - 1

def digits (value : Nat) : Text → Nat × Nat × Text
  | [] => (value, 0, [])
  | c :: rest =>
    let next := value * 10 + Text.digitValue c
    if Text.isDigit c && next ≤ maxUnsigned then
      let (value, count, rest) := digits next rest
      (value, count + 1, rest)
    else (value, 0, c :: rest)

def startsWithDigit (text : Text) : Bool := text.head?.any Text.isDigit

def binary (negative : Bool) (significand : Nat) (exponent : Int) (rest : Text) :
    Except Failure (JsonNumber × Text) :=
  match (Magnitude.ofNat significand).scaleByTen exponent with
  | some magnitude => .ok (.binary ⟨negative, magnitude⟩, rest)
  | none => failAt .numberOutOfRange rest 0

def maxExponent : Nat := Nat.pow 2 31 - 1

/-- The digits of an exponent; `none` with the rest after the digit at which it gets too large. -/
def exponentDigits (value : Nat) : Text → Option Nat × Text
  | [] => (some value, [])
  | c :: rest =>
    if Text.isDigit c then
      let next := value * 10 + Text.digitValue c
      if next ≤ maxExponent then exponentDigits next rest else (none, rest)
    else (some value, c :: rest)

def exponent (negative : Bool) (significand : Nat) (start : Int) (text : Text) :
    Except Failure (JsonNumber × Text) :=
  let (down, text) :=
    match text with
    | '+' :: rest => (false, rest)
    | '-' :: rest => (true, rest)
    | _ => (false, text)
  if text.isEmpty then failAt .endInValue []
  else if !startsWithDigit text then failAt .invalidNumber text
  else
    match exponentDigits 0 text with
    | (some value, rest) =>
      binary negative significand (if down then start - value else start + value) rest
    | (none, rest) =>
      if significand ≠ 0 && !down then failAt .numberOutOfRange rest 0
      else .ok (.binary ⟨negative, .zero⟩, rest.dropWhile Text.isDigit)

def isExponentMark (c : Char) : Bool := c = 'e' || c = 'E'

def afterDigits (negative : Bool) (significand : Nat) (start : Int) :
    Text → Except Failure (JsonNumber × Text)
  | [] => binary negative significand start []
  | c :: rest =>
    if isExponentMark c then exponent negative significand start rest
    else binary negative significand start (c :: rest)

/-- What follows a decimal point. Digits beyond 64 bits are dropped. -/
def fraction (negative : Bool) (significand : Nat) (start : Int) (text : Text) :
    Except Failure (JsonNumber × Text) :=
  let (significand, count, rest) := digits significand text
  if startsWithDigit rest then
    afterDigits negative significand (start - count) (rest.dropWhile Text.isDigit)
  else if count = 0 then failAt (if rest.isEmpty then .endInValue else .invalidNumber) rest
  else afterDigits negative significand (start - count) rest

/-- An integer that fits 64 bits, signed or unsigned; all others and minus zero are binary64. -/
def integer (negative : Bool) (significand : Nat) : JsonNumber :=
  if !negative then .integer significand
  else if significand = 0 || Nat.pow 2 63 < significand then
    .binary ⟨true, Magnitude.ofNat significand⟩
  else .integer (-significand)

def afterWhole (negative : Bool) (significand : Nat) (rest : Text) : Except Failure (JsonNumber × Text) :=
  if startsWithDigit rest then
    let dropped := (rest.takeWhile Text.isDigit).length
    match rest.dropWhile Text.isDigit with
    | '.' :: rest => fraction negative significand dropped rest
    | rest => afterDigits negative significand dropped rest
  else
    match rest with
    | [] => .ok (integer negative significand, [])
    | c :: tail =>
      if c = '.' then fraction negative significand 0 tail
      else if isExponentMark c then exponent negative significand 0 tail
      else .ok (integer negative significand, rest)

def unsigned (negative : Bool) : Text → Except Failure (JsonNumber × Text)
  | [] => failAt .endInValue []
  | c :: rest =>
    if c = '0' then
      if startsWithDigit rest then failAt .invalidNumber rest else afterWhole negative 0 rest
    else if Text.isDigit c then
      let (significand, _, rest) := digits (Text.digitValue c) rest
      afterWhole negative significand rest
    else failAt .invalidNumber (c :: rest)

/-- The items after an opening bracket and white space, or after the comma between two of them. -/
def items (value : Text → Except Failure (Json × Text)) :
    Nat → Text → Except Failure (List Json × Text)
  | 0, text => failAt .tooDeep text
  | fuel + 1, text => do
    let (item, rest) ← value text
    match skipSpace rest with
    | [] => failAt .endInList []
    | ']' :: rest => .ok ([item], rest)
    | ',' :: rest =>
      match skipSpace rest with
      | [] => failAt .endInValue []
      | ']' :: rest => failAt .trailingComma (']' :: rest)
      | rest => do
        let (others, rest) ← items value fuel rest
        return (item :: others, rest)
    | rest => failAt .expectedListEnd rest

def array (value : Text → Except Failure (Json × Text)) (text : Text) :
    Except Failure (List Json × Text) :=
  match skipSpace text with
  | [] => failAt .endInList []
  | ']' :: rest => .ok ([], rest)
  | rest => items value rest.length rest

def colon (text : Text) : Except Failure Text :=
  match skipSpace text with
  | [] => .error ⟨.endInObject, [], 0⟩
  | ':' :: rest => .ok rest
  | rest => .error ⟨.expectedColon, rest, 1⟩

def members (value : Text → Except Failure (Json × Text)) :
    Nat → Text → Except Failure (List (Text × Json) × Text)
  | 0, text => failAt .tooDeep text
  | fuel + 1, text => do
    let (key, rest) ← string (text.drop 1)
    let (item, rest) ← value (← colon rest)
    match skipSpace rest with
    | [] => failAt .endInObject []
    | '}' :: rest => .ok ([(key, item)], rest)
    | ',' :: rest =>
      match skipSpace rest with
      | [] => failAt .endInValue []
      | '"' :: rest => do
        let (others, rest) ← members value fuel ('"' :: rest)
        return ((key, item) :: others, rest)
      | '}' :: rest => failAt .trailingComma ('}' :: rest)
      | rest => failAt .keyMustBeString rest
    | rest => failAt .expectedObjectEnd rest

def object (value : Text → Except Failure (Json × Text)) (text : Text) :
    Except Failure (List (Text × Json) × Text) :=
  match skipSpace text with
  | [] => failAt .endInObject []
  | '}' :: rest => .ok ([], rest)
  | '"' :: rest => members value (rest.length + 1) ('"' :: rest)
  | rest => failAt .keyMustBeString rest

def scalar : Text → Except Failure (Json × Text)
  | [] => failAt .endInValue []
  | c :: rest =>
    if c = '"' then do
      let (value, rest) ← string rest
      return (.string value, rest)
    else if c = '-' then do
      let (value, rest) ← unsigned true rest
      return (.number value, rest)
    else if Text.isDigit c then do
      let (value, rest) ← unsigned false (c :: rest)
      return (.number value, rest)
    else if c = 'n' then do return (.null, ← word "ull".toList rest)
    else if c = 't' then do return (.boolean true, ← word "rue".toList rest)
    else if c = 'f' then do return (.boolean false, ← word "alse".toList rest)
    else failAt .expectedValue (c :: rest)

def value (depth : Nat) (text : Text) : Except Failure (Json × Text) :=
  match depth, skipSpace text with
  | depth + 1, '[' :: rest => do
    let (items, rest) ← array (value depth) rest
    return (.array items, rest)
  | depth + 1, '{' :: rest => do
    let (members, rest) ← object (value depth) rest
    return (.object (Json.sortMembers members), rest)
  | 0, '[' :: rest => failAt .tooDeep ('[' :: rest)
  | 0, '{' :: rest => failAt .tooDeep ('{' :: rest)
  | _, rest => scalar rest

def maxDepth : Nat := 127

def document (text : Text) : Except Failure Json := do
  let (result, rest) ← value maxDepth text
  match skipSpace rest with
  | [] => return result
  | rest => .error ⟨.trailingCharacters, rest, 1⟩

end JsonReader

def Json.read (text : Text) : Except JsonError Json :=
  (JsonReader.document text).mapError fun failure =>
    let unread := Text.byteLength failure.rest
    JsonError.locate failure.fault text
      (Text.byteLength text - unread + min failure.ahead unread)

end ApiBlueprint

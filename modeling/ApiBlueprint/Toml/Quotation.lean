import ApiBlueprint.Toml.Scalar

/-!
Strings between quotes in TOML, on one line or on several. Double quotes allow escapes; single quotes
do not.
-/

namespace ApiBlueprint.TomlReader

def isBlank (c : Char) : Bool := c = ' ' || c = '\t'

def isPlain (c : Char) : Bool := c = '\t' || (32 ≤ c.toNat && c.toNat ≠ 127)

def newLine? : Text → Option Text
  | '\n' :: rest => some rest
  | '\r' :: '\n' :: rest => some rest
  | _ => none

def hexDigits? : Nat → Nat → Text → Option (Nat × Text)
  | 0, value, text => some (value, text)
  | _ + 1, _, [] => none
  | count + 1, value, c :: rest =>
    if TomlScalar.isHexDigit c then
      hexDigits? count (value * 16 + TomlScalar.digitValue c) rest
    else none

def codePoint? (count : Nat) (text : Text) : Option (Char × Text) := do
  let (code, rest) ← hexDigits? count 0 text
  if code < 0xD800 || (0xDFFF < code && code < 0x110000) then some (Char.ofNat code, rest) else none

def escape? : Text → Option (Char × Text)
  | 'b' :: rest => some ('\x08', rest)
  | 'f' :: rest => some ('\x0c', rest)
  | 'n' :: rest => some ('\n', rest)
  | 'r' :: rest => some ('\r', rest)
  | 't' :: rest => some ('\t', rest)
  | '"' :: rest => some ('"', rest)
  | '\\' :: rest => some ('\\', rest)
  | 'u' :: rest => codePoint? 4 rest
  | 'U' :: rest => codePoint? 8 rest
  | _ => none

theorem hex_digits_length {count value code : Nat} {text rest : Text}
    (read : hexDigits? count value text = some (code, rest)) : rest.length ≤ text.length := by
  induction count generalizing value text with
  | zero =>
    simp only [hexDigits?, Option.some.injEq, Prod.mk.injEq] at read
    simp [read.2]
  | succ count ih =>
    cases text with
    | nil => simp [hexDigits?] at read
    | cons c tail =>
      simp only [hexDigits?] at read
      split at read
      · have := ih read
        simp
        omega
      · simp at read

theorem code_point_length {count : Nat} {text rest : Text} {c : Char}
    (read : codePoint? count text = some (c, rest)) : rest.length ≤ text.length := by
  unfold codePoint? at read
  cases digits : hexDigits? count 0 text with
  | none => simp [digits, bind, Option.bind] at read
  | some result =>
    simp only [digits, bind, Option.bind] at read
    split at read
    · simp only [Option.some.injEq, Prod.mk.injEq] at read
      rw [← read.2]
      exact hex_digits_length digits
    · simp at read

theorem escape_length {text rest : Text} {c : Char} (read : escape? text = some (c, rest)) :
    rest.length < text.length := by
  unfold escape? at read
  split at read
  case h_8 | h_9 =>
    have := code_point_length read
    simp
    omega
  case h_10 => simp at read
  all_goals
    simp only [Option.some.injEq, Prod.mk.injEq] at read
    simp [← read.2]

def basic? (text : Text) : Option (Text × Text) :=
  match text with
  | [] => none
  | '"' :: rest => some ([], rest)
  | '\\' :: rest =>
    match _read : escape? rest with
    | none => none
    | some (c, rest) => (basic? rest).map fun (value, rest) => (c :: value, rest)
  | c :: rest =>
    if isPlain c then (basic? rest).map fun (value, rest) => (c :: value, rest) else none
  termination_by text.length
  decreasing_by
    · have := escape_length _read
      simp
      omega
    · simp

def literal? : Text → Option (Text × Text)
  | [] => none
  | '\x27' :: rest => some ([], rest)
  | c :: rest =>
    if isPlain c then (literal? rest).map fun (value, rest) => (c :: value, rest) else none

abbrev LineStep := Option (Text × Text)

def skipWhite : Text → Text
  | ' ' :: rest => skipWhite rest
  | '\t' :: rest => skipWhite rest
  | '\n' :: rest => skipWhite rest
  | '\r' :: '\n' :: rest => skipWhite rest
  | text => text

/-- One character, escape or line end; a backslash at the end of a line takes away the white space
up to the next character. -/
def linesStep (escapes : Bool) : Text → LineStep
  | [] => none
  | '\r' :: '\n' :: rest => some (['\n'], rest)
  | '\n' :: rest => some (['\n'], rest)
  | c :: rest =>
    if escapes && c = '\\' then
      match newLine? (rest.dropWhile isBlank) with
      | some after => some ([], skipWhite after)
      | none => (escape? rest).map fun (value, rest) => ([value], rest)
    else if isPlain c then some ([c], rest)
    else none

/-- The characters up to three closing quotes. Up to two more quotes before these belong to the
string. -/
def lines? (escapes : Bool) (quote : Char) : Nat → Text → Option (Text × Text)
  | 0, _ => none
  | fuel + 1, text =>
    let quotes := (text.takeWhile (· = quote)).length
    if 3 ≤ quotes then
      let extra := min (quotes - 3) 2
      some (List.replicate extra quote, text.drop (extra + 3))
    else do
      let (added, rest) ←
        if quotes = 0 then linesStep escapes text
        else some (List.replicate quotes quote, text.drop quotes)
      let (value, rest) ← lines? escapes quote fuel rest
      return (added ++ value, rest)

def multiline? (escapes : Bool) (quote : Char) (text : Text) : Option (Text × Text) :=
  lines? escapes quote (text.length + 1) ((newLine? text).getD text)

def quotation? : Text → Option (Text × Text)
  | '"' :: '"' :: '"' :: rest => multiline? true '"' rest
  | '"' :: rest => basic? rest
  | '\x27' :: '\x27' :: '\x27' :: rest => multiline? false '\x27' rest
  | '\x27' :: rest => literal? rest
  | _ => none

end ApiBlueprint.TomlReader

import ApiBlueprint.CommonMark.CharacterReference
import ApiBlueprint.CommonMark.Emphasis
import ApiBlueprint.CommonMark.Lines
import ApiBlueprint.CommonMark.Source

/-!
The tokens of a line of text: the marks that may be markup, and the text between them. What the
marks come to is seen only when the whole text is known.
-/

namespace ApiBlueprint.CommonMark

structure Part where
  start : Nat
  stop : Nat
  isLineEnd : Bool := false
  deriving DecidableEq, Repr

inductive TokenBody where
  | text
  | given (text : Text)
  | run (run : Run)
  | ticks (count : Nat) (escaped : Bool)
  | angle
  | linkOpen
  | imageOpen
  | bracketClose
  | lineEnd
  | block (text : Text) (parts : List Part)
  deriving DecidableEq, Repr

/-- A paragraph that begins with the token, if it is one behind other text, is kept as `opens`. -/
structure Token where
  start : Nat
  stop : Nat
  body : TokenBody
  opens : Option Part := none
  deriving DecidableEq, Repr

namespace Token

def parts (token : Token) : List Part :=
  token.opens.toList ++
    match token.body with
    | .block _ parts => parts
    | .lineEnd => [⟨token.start, token.stop, true⟩]
    | _ => [⟨token.start, token.stop, false⟩]

def ofText (start stop : Nat) : List Token :=
  if start < stop then [{ start, stop, body := .text }] else []

end Token

structure TokenLine where
  tokens : List Token := []
  ending : Option Token := none
  rest : Text := []

namespace TokenLine

def prepend (tokens : List Token) (line : TokenLine) : TokenLine :=
  { line with tokens := tokens ++ line.tokens }

/-- The end of a line at `rest`. A backslash or two blanks before it belong to it, unless the
backslash stands at the end of the text. -/
def atEnd (source : Source) (start : Nat) (rest : Text) : TokenLine :=
  let position := source.positionOf rest
  let behind := (afterLineEnd? rest).getD []
  let slashes := source.runBefore position (· = '\\')
  let blanks := source.runBefore position isBlank
  let stop := source.positionOf behind
  let begin :=
    if slashes % 2 = 1 && !behind.isEmpty then position - 1
    else if 2 ≤ blanks then position - blanks
    else position
  ⟨Token.ofText start begin, some { start := begin, stop, body := .lineEnd }, behind⟩

def read (source : Source) (start : Nat) (text : Text) : TokenLine :=
  match text with
  | [] => { tokens := Token.ofText start source.size }
  | c :: rest =>
    let position := source.positionOf (c :: rest)
    let before := Token.ofText start position
    let single (body : TokenBody) : List Token :=
      before ++ [{ start := position, stop := position + 1, body }]
    if c = '\n' || c = '\r' then atEnd source start (c :: rest)
    else if c = '\\' then
      match rest with
      | [] => read source start []
      | '\x60' :: more =>
        let count := (more.takeWhile (· = '\x60')).length + 1
        let token : Token :=
          { start := position + 1, stop := position + 1 + count, body := .ticks count true }
        (read source token.stop (more.drop (count - 1))).prepend (before ++ [token])
      | next :: more =>
        if isAsciiPunctuation next then (read source (position + 1) more).prepend before
        else read source start (next :: more)
    else if c = '*' || c = '_' then
      let count := (rest.takeWhile (· = c)).length + 1
      let behind := rest.drop (count - 1)
      let previous := source.before? position
      let canOpen := Run.opens c previous behind.head?
      let canClose := Run.closes c previous behind.head?
      if canOpen || canClose then
        let token : Token :=
          { start := position
            stop := position + count
            body := .run ⟨c, count, canOpen, canClose⟩ }
        (read source token.stop behind).prepend (before ++ [token])
      else read source start behind
    else if c = '\x60' then
      let count := (rest.takeWhile (· = c)).length + 1
      let token : Token :=
        { start := position, stop := position + count, body := .ticks count false }
      (read source token.stop (rest.drop (count - 1))).prepend (before ++ [token])
    else if c = '<' then (read source (position + 1) rest).prepend (single .angle)
    else if c = '[' then (read source (position + 1) rest).prepend (single .linkOpen)
    else if c = ']' then (read source (position + 1) rest).prepend (single .bracketClose)
    else if c = '!' && rest.head? = some '[' then
      let token : Token := { start := position, stop := position + 2, body := .imageOpen }
      (read source token.stop (rest.drop 1)).prepend (before ++ [token])
    else if c = '&' then
      match reference? rest with
      | some (value, after) =>
        let token : Token :=
          { start := position, stop := source.positionOf after, body := .given value }
        (read source token.stop (rest.drop (rest.length - after.length))).prepend (before ++ [token])
      | none => read source start rest
    else read source start rest
  termination_by text.length

end TokenLine
end ApiBlueprint.CommonMark

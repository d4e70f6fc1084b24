import ApiBlueprint.Grammar.Blueprint
import ApiBlueprint.Grammar.Error
import ApiBlueprint.Text.Line

/-!
Payload items: the line that opens one, the indented lines that belong to it, and the sections
among them.
-/

namespace ApiBlueprint

inductive Section where
  | headers | body | schema
  deriving DecidableEq, Repr

inductive PayloadKind where
  | request | response
  deriving DecidableEq, Repr

structure PayloadItem where
  signature : Signature
  mediaType : Option Text
  deriving DecidableEq, Repr

namespace PayloadItem

def marked? (text : Text) : Option Text :=
  if 3 < (text.takeWhile Text.isSpace).length then none
  else
    match Text.trimStart text with
    | [] => none
    | marker :: rest =>
      if (marker = '+' || marker = '*' || marker = '-') && rest.head?.any Text.isSpace then
        some (Text.trimStart rest)
      else none

def parenthesis? (text : Text) : Option (Text × Option Text) :=
  match Text.splitFirst (· = '(') text with
  | none => some (text, none)
  | some (before, rest) =>
    match Text.splitFirst (· = ')') rest with
    | none => none
    | some (media, after) => if Text.isBlank after then some (before, some media) else none

def request? (rest : Text) : Option PayloadItem := do
  let (name, media) ← parenthesis? rest
  return ⟨.request (Text.nonEmpty name), media >>= Text.nonEmpty⟩

/-- A status is three digits, from 100 to 599. -/
def status? (token : Text) : Option Nat :=
  let status := Text.decimal token
  if token.length = 3 && token.all Text.isDigit && 100 ≤ status && status ≤ 599 then some status
  else none

/-- The token that stands for the status, and the media type; the token has no white space. -/
def response? (rest : Text) : Option (Text × Option Text) := do
  let (before, media) ← parenthesis? rest
  let token := Text.trim before
  if token.any Text.isSpace then none else return (token, media >>= Text.nonEmpty)

def keyword? (text : Text) : Option (PayloadKind × Text) := do
  let item ← marked? text
  let (kind, rest) ←
    ((Text.afterStart "Request".toList item).map fun rest => (PayloadKind.request, rest)) <|>
      ((Text.afterStart "Response".toList item).map fun rest => (PayloadKind.response, rest))
  if rest.isEmpty || rest.head?.any Text.isSpace then some (kind, rest) else none

def ofRest (kind : PayloadKind) (rest : Text) : Except GrammarFault PayloadItem :=
  match kind with
  | .request =>
    match request? rest with
    | some item => .ok item
    | none => .error (.requestSignature rest)
  | .response =>
    match response? rest with
    | none => .error (.responseSignature rest)
    | some ([], media) => .ok ⟨.response 200, media⟩
    | some (token, media) =>
      match status? token with
      | some status => .ok ⟨.response status, media⟩
      | none => .error (.responseStatus token)

def section? (text : Text) : Option Section :=
  match (marked? text).map Text.trimEnd with
  | none => none
  | some name =>
    if name = "Headers".toList then some .headers
    else if name = "Body".toList then some .body
    else if name = "Schema".toList then some .schema
    else none

end PayloadItem

namespace Payload

def isContent (indent : Nat) (line : Line) : Bool := line.isBlank || indent + 4 ≤ line.indent

def content (item : Line) (rest : List Line) : List Line := rest.takeWhile (isContent item.indent)

/-- The block without its common indentation, blank lines around it and white space at line ends. -/
def dedentBlock (block : List Line) : Option Text :=
  match ((block.filter fun line => !line.isBlank).map Line.indent).min? with
  | none => none
  | some common =>
    let lines := block.map fun line => Text.trimEnd (Line.dedent common line.text)
    let trimmed := ((lines.dropWhile List.isEmpty).reverse.dropWhile List.isEmpty).reverse
    some (Text.joinWith ['\n'] trimmed)

def headerOfLine (line : Line) : Except GrammarError Header :=
  let text := Text.trim line.text
  match Text.splitFirst (· = ':') text with
  | some (name, value) => .ok ⟨Text.trim name, Text.trim value⟩
  | none => .error ⟨line.number, .headerLine text⟩

def withSection (payload : Payload) (kind : Section) (block : List Line) :
    Except GrammarError Payload :=
  match kind with
  | .headers => do
    let headers ← (block.filter fun line => !line.isBlank).mapM headerOfLine
    return { payload with headers := payload.headers ++ headers }
  | .body => .ok { payload with body := dedentBlock block }
  | .schema => .ok { payload with schema := dedentBlock block }

def preamble (block : List Line) : List Line :=
  block.takeWhile fun line => (PayloadItem.section? line.text).isNone

def sections : List Line → List (Section × List Line)
  | [] => []
  | line :: rest =>
    match PayloadItem.section? line.text with
    | some kind => (kind, preamble rest) :: sections rest
    | none => sections rest

def withContentType (payload : Payload) : Payload :=
  match payload.mediaType with
  | some media =>
    if (payload.header? "Content-Type".toList).isSome then payload
    else { payload with headers := ⟨"Content-Type".toList, media⟩ :: payload.headers }
  | none => payload

def build (item : PayloadItem) (first : Line) (content : List Line) : Except GrammarError Payload := do
  let block := content.map fun line =>
    { line with text := Line.dedent (first.indent + 4) line.text }
  let payload : Payload := ⟨item.signature, item.mediaType, [], [], none, none, first.number⟩
  match sections block with
  | [] => return withContentType { payload with body := dedentBlock block }
  | parts =>
    let payload ← parts.foldlM (fun payload (kind, lines) => payload.withSection kind lines) payload
    let description := (dedentBlock (preamble block)).getD []
    return withContentType { payload with description }

end Payload
end ApiBlueprint

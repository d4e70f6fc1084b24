import ApiBlueprint.CommonMark.PlainText
import ApiBlueprint.Grammar.Blueprint
import ApiBlueprint.Text.Line

/-!
Headings, either marked by number signs or underlined, and what a heading declares: a group, an
action, a resource or an endpoint.
-/

namespace ApiBlueprint

structure Heading where
  depth : Nat
  raw : Text
  text : Text
  /-- Lines taken after the first. -/
  extraLines : Nat
  deriving DecidableEq, Repr

namespace Heading

def dropClosing (content : Text) : Text :=
  let stripped := Text.dropEndWhile (· = '#') content
  if stripped.length < content.length && stripped.getLast?.any Text.isSpace then
    Text.trimEnd stripped
  else content

def marked? (line : Line) : Option Heading :=
  let start := Text.trimStart line.text
  let depth := (start.takeWhile (· = '#')).length
  let content := start.dropWhile (· = '#')
  if line.indent ≤ 3 && 1 ≤ depth && depth ≤ 6 && (content.isEmpty || content.head?.any Text.isSpace) then
    let raw := dropClosing (Text.trim content)
    some ⟨depth, raw, CommonMark.plainText raw, 0⟩
  else none

def isListMarker (c : Char) : Bool := c = '+' || c = '-' || c = '*'

/-- The depth that a line gives to the one before it: three or more equals signs or hyphens. -/
def underlineDepth? (line : Line) : Option Nat :=
  let text := Text.trim line.text
  if line.indent > 3 || text.length < 3 then none
  else if text.all (· = '=') then some 1
  else if text.all (· = '-') then some 2
  else none

def underlined? (line : Line) (next : Option Line) : Option Heading :=
  if line.isBlank || line.indent > 3 then none
  else
    let raw := Text.trim line.text
    if raw.head?.any isListMarker then none
    else do
      let depth ← underlineDepth? (← next)
      some ⟨depth, raw, CommonMark.plainText raw, 1⟩

def detect? (line : Line) (next : Option Line) : Option Heading :=
  marked? line <|> underlined? line next

def render (heading : Heading) : Text := List.replicate heading.depth '#' ++ ' ' :: heading.raw

end Heading

inductive Declaration where
  | group (name : Text)
  | action (name : Option Text) (method : Method) (uriTemplate : Option Text)
  | resource (name : Option Text) (uriTemplate : Text)
  | endpoint (method : Method) (uriTemplate : Text)
  | plain
  deriving DecidableEq, Repr

namespace Declaration

def bracketed? : Text → Option Text
  | '[' :: rest => if rest.getLast? = some ']' then some rest.dropLast else none
  | _ => none

def uri? : Text → Option Text
  | '/' :: rest => if rest.any Text.isSpace then none else some ('/' :: rest)
  | _ => none

def capitals? (text : Text) : Option (Text × Option Text) :=
  let word := text.takeWhile Text.isUpper
  let rest := text.dropWhile Text.isUpper
  if word.isEmpty then none
  else if rest.isEmpty then some (word, none)
  else if rest.head?.any Text.isSpace then
    (uri? (Text.trimStart rest)).map fun uri => (word, some uri)
  else none

/-- The shortest name such that `read` accepts what follows it and some white space. -/
def afterName {α : Type} (read : Text → Option α) : Text → Option (Text × α)
  | [] => none
  | c :: rest =>
    let longer := (afterName read rest).map fun (name, value) => (c :: name, value)
    if Text.isSpace c then
      match read (Text.trimStart rest) with
      | some value => some ([], value)
      | none => longer
    else longer

def named {α : Type} (read : Text → Option α) (text : Text) : Option (Option Text × α) :=
  match afterName read text with
  | some (name, value) => some (some name, value)
  | none => (read text).map fun value => (none, value)

def group? (text : Text) : Option Declaration :=
  (Text.afterStart "Group ".toList text).map fun name => group (Text.trim name)

def action? (text : Text) : Option Declaration := do
  let (name, word, uri) ← named (fun rest => bracketed? rest >>= capitals?) text
  let method ← Method.ofName? word
  return action name method uri

def resource? (text : Text) : Option Declaration := do
  let (name, uri) ← named (fun rest => bracketed? rest >>= uri?) text
  if uri.contains ']' then none else resource name uri

def endpoint? (text : Text) : Option Declaration := do
  let (word, uri) ← capitals? text
  return endpoint (← Method.ofName? word) (← uri)

def ofHeading (text : Text) : Declaration :=
  (group? text <|> action? text <|> resource? text <|> endpoint? text).getD plain

end Declaration
end ApiBlueprint

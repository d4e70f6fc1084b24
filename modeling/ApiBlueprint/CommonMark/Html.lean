import ApiBlueprint.CommonMark.Lines

/-!
HTML in Markdown: tags, comments, instructions and declarations inside a line, and the lines at which
an HTML block starts and ends. A tag may run over several lines where `marks` is given, which takes
away what stands before the text of a line.
-/

namespace ApiBlueprint.CommonMark.Html

abbrev LineMarks := Option (Text → Text)

def isNameCharacter (c : Char) : Bool := Text.isAlphanumeric c || c = '-'

def afterSpace? (marks : LineMarks) : Nat → Text → Option Text
  | 0, text => some text
  | fuel + 1, text =>
    match skipBlank text with
    | [] => some []
    | c :: rest =>
      if c = '\n' || c = '\r' then
        match marks, afterLineEnd? (c :: rest) with
        | some behind, some line => afterSpace? marks fuel (behind line)
        | _, _ => none
      else some (c :: rest)

def isAttributeStart (c : Char) : Bool := Text.isLetter c || c = '_' || c = ':'
def isAttributeCharacter (c : Char) : Bool :=
  Text.isAlphanumeric c || c = '_' || c = '.' || c = ':' || c = '-'

def isUnquoted (c : Char) : Bool :=
  !(c = ' ' || c = '\n' || c = '\r' || c = '"' || c = '\x27' || c = '=' || c = '<' || c = '>' ||
    c = '\x60')

def afterQuoted? (marks : LineMarks) (quote : Char) : Nat → Text → Option Text
  | 0, _ => none
  | _, [] => none
  | fuel + 1, c :: rest =>
    if c = quote then some rest
    else if c = '\n' || c = '\r' then
      match marks, afterLineEnd? (c :: rest) with
      | some behind, some line => afterQuoted? marks quote fuel (behind line)
      | _, _ => none
    else afterQuoted? marks quote fuel rest

def afterValue? (marks : LineMarks) : Text → Option Text
  | [] => none
  | c :: rest =>
    if c = '"' || c = '\x27' then afterQuoted? marks c rest.length.succ rest
    else if isUnquoted c then some (rest.dropWhile isUnquoted)
    else none

def afterAttribute? (marks : LineMarks) : Text → Option Text
  | [] => none
  | c :: rest =>
    if isAttributeStart c then do
      let behind := rest.dropWhile isAttributeCharacter
      match ← afterSpace? marks behind.length behind with
      | '=' :: value => afterValue? marks (← afterSpace? marks value.length value)
      | _ => return behind
    else none

def afterAttributes? (marks : LineMarks) : Nat → Text → Option Text
  | 0, _ => none
  | fuel + 1, text => do
    match ← afterSpace? marks text.length text with
    | [] => none
    | '>' :: rest => return rest
    | '/' :: '>' :: rest => return rest
    | '/' :: _ => none
    | next =>
      if next.length = text.length then none
      else afterAttributes? marks fuel (← afterAttribute? marks next)

def afterTag? (marks : LineMarks) (text : Text) : Option Text :=
  match text with
  | '/' :: c :: rest =>
    if Text.isLetter c then
      match skipBlank (rest.dropWhile isNameCharacter) with
      | '>' :: after => some after
      | _ => none
    else none
  | c :: rest =>
    if Text.isLetter c then
      afterAttributes? marks rest.length.succ (rest.dropWhile isNameCharacter)
    else none
  | [] => none

def afterHyphens? : Text → Option Text
  | '-' :: '-' :: '>' :: rest => some rest
  | '-' :: '-' :: _ => none
  | _ :: rest => afterHyphens? rest
  | [] => none

/-- The rest behind a comment, which starts with two hyphens or more; no bracket follows them. -/
def afterComment? (text : Text) : Option Text :=
  let behind := text.dropWhile (· = '-')
  if 2 ≤ (text.takeWhile (· = '-')).length && behind.head? ≠ some '>' then afterHyphens? behind
  else none

/-- The rest behind a section of characters; its first closing bracket begins its end. -/
def afterSection? (text : Text) : Option Text := do
  let closing := (← Text.afterStart "[CDATA[".toList text).dropWhile (· ≠ ']')
  match closing, closing.dropWhile (· = ']') with
  | ']' :: _, '>' :: rest => return rest
  | _, _ => none

def afterDeclaration? (text : Text) : Option Text := do
  match text.dropWhile Text.isUpper with
  | c :: rest => if isSpace c then (← Text.splitFirst (· = '>') rest).2 else none
  | [] => none

def afterInstruction? : Text → Option Text
  | '?' :: '>' :: rest => some rest
  | _ :: rest => afterInstruction? rest
  | [] => none

def afterInline? (marks : LineMarks) (text : Text) : Option Text :=
  match text with
  | '!' :: '-' :: rest => afterComment? ('-' :: rest)
  | '!' :: '[' :: rest => afterSection? ('[' :: rest)
  | '!' :: rest => if rest.head?.any Text.isUpper then afterDeclaration? rest else none
  | '?' :: rest => afterInstruction? rest
  | _ => afterTag? marks text

inductive BlockEnd where
  | marker (text : Text)
  | blankLine
  deriving DecidableEq, Repr

def verbatimTags : List Text := ["pre", "style", "script", "textarea"].map String.toList

def markedEnd? (text : Text) : Option Text :=
  let startsTag (tag : Text) : Bool :=
    Text.sameLetters (text.take tag.length) tag &&
      (text.drop tag.length).head?.all fun c => isSpace c || c = '>'
  match verbatimTags.find? startsTag with
  | some tag => some ("</".toList ++ tag ++ ['>'])
  | none =>
    match text with
    | '!' :: '-' :: '-' :: _ => some "-->".toList
    | '?' :: _ => some "?>".toList
    | '!' :: rest =>
      if Text.startsWith "[CDATA[".toList rest then some "]]>".toList
      else if rest.head?.any Text.isUpper then some ['>']
      else none
    | _ => none

def blockTags : List Text :=
  ["address", "article", "aside", "base", "basefont", "blockquote", "body", "caption", "center",
    "col", "colgroup", "dd", "details", "dialog", "dir", "div", "dl", "dt", "fieldset",
    "figcaption", "figure", "footer", "form", "frame", "frameset", "h1", "h2", "h3", "h4", "h5",
    "h6", "head", "header", "hr", "html", "iframe", "legend", "li", "link", "main", "menu",
    "menuitem", "nav", "noframes", "ol", "optgroup", "option", "p", "param", "section",
    "source", "summary", "table", "tbody", "td", "tfoot", "th", "thead", "title", "tr", "track",
    "ul"].map String.toList

def startsBlockTag (text : Text) : Bool :=
  let text := if text.head? = some '/' then text.drop 1 else text
  let name := (text.takeWhile Text.isAlphanumeric).map Text.lower
  let rest := text.dropWhile Text.isAlphanumeric
  blockTags.contains name &&
    match rest with
    | [] => true
    | '/' :: '>' :: _ => true
    | c :: _ => c = ' ' || c = '\t' || c = '\r' || c = '\n' || c = '>'

def breakingEnd? (text : Text) : Option BlockEnd :=
  match markedEnd? text with
  | some marker => some (.marker marker)
  | none => if startsBlockTag text then some .blankLine else none

/-- The end of the HTML block that a line opens. A tag of any other element opens one only alone on
its line and not behind text. -/
def blockEnd? (text : Text) : Option BlockEnd :=
  match breakingEnd? text with
  | some ending => some ending
  | none => if ((afterTag? none text) >>= afterBlankLine?).isSome then some .blankLine else none

def hasMarker (marker : Text) : Text → Bool
  | [] => marker.isEmpty
  | c :: rest => Text.startsWith marker (c :: rest) || hasMarker marker rest

end ApiBlueprint.CommonMark.Html

import ApiBlueprint.Toml.Quotation
import ApiBlueprint.Toml.Table

/-!
Reading of TOML documents. Keys have fewer than 80 parts, and arrays and tables in braces nest fewer
than 80 deep.
-/

namespace ApiBlueprint

namespace TomlReader

def skipBlanks (text : Text) : Text := text.dropWhile isBlank

def lineEnd? (text : Text) : Option Text :=
  let rest :=
    match skipBlanks text with
    | '#' :: rest => rest.dropWhile isPlain
    | rest => rest
  if rest.isEmpty then some [] else newLine? rest

def skipFiller (comment : Bool) : Text → Option Text
  | [] => some []
  | '\n' :: rest => skipFiller false rest
  | '\r' :: '\n' :: rest => skipFiller false rest
  | c :: rest =>
    if comment then if isPlain c then skipFiller true rest else none
    else if isBlank c then skipFiller false rest
    else if c = '#' then skipFiller true rest
    else some (c :: rest)

def isBare (c : Char) : Bool := Text.isAlphanumeric c || c = '-' || c = '_'

def keyPart? (text : Text) : Option (TomlKey × Text) := do
  let (name, rest) ←
    match text with
    | '"' :: rest => basic? rest
    | '\x27' :: rest => literal? rest
    | _ =>
      match text.span isBare with
      | ([], _) => none
      | (name, rest) => some (name, rest)
  return (⟨name, ⟨text.length, rest.length⟩⟩, rest)

def keyParts? : Nat → Text → Option (List TomlKey × Text)
  | 0, _ => none
  | room + 1, text => do
    let (part, rest) ← keyPart? (skipBlanks text)
    match skipBlanks rest with
    | '.' :: rest => do
      let (parts, rest) ← keyParts? room rest
      return (part :: parts, rest)
    | rest => return ([part], rest)

def maxParts : Nat := 79

def key? (text : Text) : Option ((List TomlKey × TomlKey) × Text) := do
  let (parts, rest) ← keyParts? maxParts text
  let last ← parts.getLast?
  return ((parts.dropLast, last), rest)

structure Pair where
  path : List TomlKey
  key : TomlKey
  value : Toml

def pair? (value : Text → Option (Toml × Text)) (text : Text) : Option (Pair × Text) := do
  let ((path, key), rest) ← key? text
  match rest with
  | '=' :: rest => do
    let (value, rest) ← value (skipBlanks rest)
    return (⟨path, key, value⟩, rest)
  | _ => none

def arrayItems? (value : Text → Option (Toml × Text)) : Nat → Text → Option (List Toml × Text)
  | 0, _ => none
  | fuel + 1, text => do
    match ← skipFiller false text with
    | ']' :: rest => return ([], rest)
    | text => do
      let (item, rest) ← value text
      match ← skipFiller false rest with
      | ']' :: rest => return ([item], rest)
      | ',' :: rest => do
        let (items, rest) ← arrayItems? value fuel rest
        return (item :: items, rest)
      | _ => none

def bracePairs? (value : Text → Option (Toml × Text)) : Nat → Text → Option (List Pair × Text)
  | 0, _ => none
  | fuel + 1, text => do
    let (pair, rest) ← pair? value text
    match skipBlanks rest with
    | '}' :: rest => return ([pair], rest)
    | ',' :: rest => do
      let (pairs, rest) ← bracePairs? value fuel rest
      return (pair :: pairs, rest)
    | _ => none

/-- The entries of a table in braces, which stand on one line without a comma at the end. -/
def braceEntries? (value : Text → Option (Toml × Text)) (text : Text) : Option (TomlEntries × Text) := do
  match skipBlanks text with
  | '}' :: rest => return ([], rest)
  | text => do
    let (pairs, rest) ← bracePairs? value text.length text
    let entries ← pairs.foldlM
      (fun entries pair => TomlEntries.insert .braces pair.path pair.key pair.value entries) []
    return (entries, rest)

def value? (depth : Nat) (text : Text) : Option (Toml × Text) :=
  match depth, text with
  | depth + 1, '[' :: rest => do
    let (items, rest) ← arrayItems? (value? depth) (text.length + 1) rest
    return (.array ⟨text.length, rest.length⟩ items, rest)
  | depth + 1, '{' :: rest => do
    let (entries, rest) ← braceEntries? (value? depth) rest
    return (.table (some ⟨text.length, rest.length⟩) .braces entries, rest)
  | _, c :: _ => do
    let (value, rest) ←
      if c = '"' || c = '\x27' then (quotation? text).map fun (value, rest) => (.string value, rest)
      else TomlScalar.read? text
    return (.scalar ⟨text.length, rest.length⟩ value, rest)
  | _, [] => none

def maxDepth : Nat := 79

inductive Header where
  | document
  | table (path : List TomlKey) (key : TomlKey)
  | tables (path : List TomlKey) (key : TomlKey)

/-- A document up to a line: what stands under the headers before the last one, and the entries
under that one with the place that they take. -/
structure State where
  closed : TomlEntries := []
  header : Header := .document
  extent : Option Extent := none
  entries : TomlEntries := []

namespace State

def close? (state : State) : Option TomlEntries :=
  let table := Toml.table state.extent .header state.entries
  match state.header with
  | .document => some state.entries
  | .table path key => TomlEntries.closeTable path key table state.closed
  | .tables path key => TomlEntries.closeTables path key table state.closed

def openTable? (state : State) (path : List TomlKey) (key : TomlKey) (extent : Extent) :
    Option State := do
  let (entries, closed) ← TomlEntries.openTable path key (← state.close?)
  return ⟨closed, .table path key, some extent, entries⟩

def openTables? (state : State) (path : List TomlKey) (key : TomlKey) (extent : Extent) :
    Option State := do
  let closed ← TomlEntries.openTables path key (← state.close?)
  return ⟨closed, .tables path key, some extent, []⟩

/-- Adds an entry; the place of a table goes from its header to its last entry. -/
def insert? (state : State) (pair : Pair) : Option State := do
  let entries ← TomlEntries.insert .header pair.path pair.key pair.value state.entries
  let extent :=
    match state.extent, pair.value.extent? with
    | some first, some last => some ⟨first.fromStart, last.fromEnd⟩
    | extent, _ => extent
  return { state with extent, entries }

end State

def line? (state : State) (text : Text) : Option (State × Text) :=
  match text with
  | '[' :: '[' :: rest => do
    let ((path, key), rest) ← key? rest
    match rest with
    | ']' :: ']' :: rest => do
      let after ← lineEnd? rest
      return (← state.openTables? path key ⟨text.length, rest.length⟩, after)
    | _ => none
  | '[' :: rest => do
    let ((path, key), rest) ← key? rest
    match rest with
    | ']' :: rest => do
      let after ← lineEnd? rest
      return (← state.openTable? path key ⟨text.length, rest.length⟩, after)
    | _ => none
  | _ => do
    let (pair, rest) ← pair? (value? maxDepth) text
    let after ← lineEnd? rest
    return (← state.insert? pair, after)

def document? (fuel : Nat) (state : State) (text : Text) : Option State :=
  match fuel, skipBlanks text with
  | _, [] => some state
  | 0, _ => none
  | fuel + 1, text =>
    match text with
    | '#' :: _ => do document? fuel state (← lineEnd? text)
    | _ =>
      match newLine? text with
      | some rest => document? fuel state rest
      | none => do
        let (state, rest) ← line? state text
        document? fuel state rest

end TomlReader

def dropByteOrderMark : Text → Text
  | '\ufeff' :: rest => rest
  | text => text

def TomlEntries.read? (text : Text) : Option TomlEntries := do
  let text := dropByteOrderMark text
  let state ← TomlReader.document? (text.length + 1) {} text
  state.close?

end ApiBlueprint

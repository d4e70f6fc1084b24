import ApiBlueprint.CommonMark.Definition
import ApiBlueprint.CommonMark.Token

/-!
The blocks of a Markdown text, read one after another. Paragraphs, headings and code hold tokens;
quotes and lists hold blocks.
-/

namespace ApiBlueprint.CommonMark

inductive LeafKind where
  | paragraph
  | heading
  | code
  /-- A rule or a line of HTML, of which the text takes only what is left of a tab before it. -/
  | silent
  deriving DecidableEq, Repr

inductive Block where
  | leaf (kind : LeafKind) (start stop : Nat) (tokens : List Token)
  /-- A list is tight if no blank lines part its items or the blocks in them. -/
  | group (container : Container) (tight : Bool) (start stop : Nat) (blocks : List Block)
  deriving Repr

/-- An open container with the blocks in it, the last one first. -/
structure Frame where
  container : Container
  start : Nat
  tight : Bool := true
  blocks : List Block := []
  deriving Repr

structure Outline where
  frames : List Frame := []
  blocks : List Block := []
  labels : List Text := []
  /-- Whether a blank line has been read behind the last block of an item. -/
  blankLine : Bool := false
  emptyItem : Bool := false
  deriving Repr

namespace Outline

def containers (state : Outline) : List Container := state.frames.reverse.map Frame.container

def add (state : Outline) (block : Block) : Outline :=
  match state.frames with
  | [] => { state with blocks := block :: state.blocks }
  | frame :: outer =>
    { state with frames := { frame with blocks := block :: frame.blocks } :: outer }

def enter (state : Outline) (container : Container) (start : Nat) : Outline :=
  { state with frames := { container, start } :: state.frames }

def leave (state : Outline) (stop : Nat) : Outline :=
  match state.frames with
  | [] => state
  | frame :: outer =>
    ({ state with frames := outer }).add
      (.group frame.container frame.tight frame.start stop frame.blocks.reverse)

def leaveMany (state : Outline) (stop : Nat) : Nat → Outline
  | 0 => state
  | count + 1 => (state.leave stop).leaveMany stop count

def atList (state : Outline) : Bool :=
  match state.frames with
  | { container := .list _, .. } :: _ => true
  | _ => false

def loosenOuter (state : Outline) : Outline :=
  match state.frames with
  | inner :: { container := .list mark, start, blocks, .. } :: outer =>
    { state with frames := inner :: ⟨.list mark, start, false, blocks⟩ :: outer }
  | _ => state

/-- Closes a list in which the next block is no item. A block behind a blank line makes the list
around it loose. -/
def finishList (state : Outline) (stop : Nat) : Outline :=
  let state := if state.atList then state.leave stop else state
  if state.blankLine then { state.loosenOuter with blankLine := false } else state

def continueList (state : Outline) (start : Nat) (mark : Char) : Outline :=
  let fresh : Outline :=
    { (state.finishList start).enter (.list mark) start with blankLine := false }
  match state.frames with
  | { container := .list other, start, tight, blocks } :: outer =>
    if other = mark then
      { state with
        frames := ⟨.list other, start, tight && !state.blankLine, blocks⟩ :: outer
        blankLine := false }
    else fresh
  | [] => { state.enter (.list mark) start with blankLine := false }
  | _ => fresh

/-- Opens the containers that start in a line; says whether the last one is an item with nothing
behind its marker. `fuel` bounds the characters left. -/
def openContainers (source : Source) (lineStart : Nat) :
    Nat → Outline → Cursor → Outline × Cursor × Bool
  | 0, state, cursor => (state, cursor, false)
  | fuel + 1, state, cursor =>
    let start := source.positionOf cursor.rest
    match Container.afterItem? cursor with
    | some (mark, indent, behind) =>
      let state := (state.continueList start mark).enter (.item indent) start
      if (afterBlankLine? behind.rest).isSome then ({ state with emptyItem := true }, behind, true)
      else openContainers source lineStart fuel state behind
    | none =>
      match Container.afterQuote? cursor with
      | some behind =>
        openContainers source lineStart fuel ((state.finishList lineStart).enter .quote start) behind
      | none => (state, cursor, false)

def trimLast (source : Source) (tokens : List Token) : List Token :=
  match tokens.reverse with
  | [] => []
  | last :: others =>
    let stop := last.stop - source.runBefore last.stop isBlank
    (({ last with stop } : Token) :: others).reverse

def keptBackslash (source : Source) (ending : Option Token) : List Token :=
  match ending with
  | none => []
  | some token =>
    if source.text[token.start]? = some '\\' then Token.ofText token.start (token.start + 1) else []

/-- Reads the lines of a paragraph, of which `tokens` have been read; the underline of a heading is
read with them. `fuel` bounds the characters left. -/
def readParagraph (source : Source) (containers : List Container) : Nat → List Token → Text →
    LeafKind × List Token × Text
  | 0, tokens, text => (.paragraph, tokens, text)
  | fuel + 1, tokens, text =>
    let line := TokenLine.read source (source.positionOf text) text
    let tokens := tokens ++ line.tokens
    let (count, cursor) := Container.enter containers { rest := line.rest }
    let inside := count = containers.length
    let (missing, behind) := cursor.skip 4
    let underline := if missing ≠ 0 && inside then afterUnderline? behind.rest else none
    match underline with
    | some after => (.heading, trimLast source tokens ++ keptBackslash source line.ending, after)
    | none =>
      let next := behind.skipAll
      if (missing ≠ 0 && breaksText inside behind.rest) || next.atLineEnd then
        (.paragraph, tokens, line.rest)
      else readParagraph source containers fuel (tokens ++ line.ending.toList) next.rest

def headingStop (source : Source) (start stop : Nat) : Nat :=
  let text := Text.dropEndWhile (fun c => c = '\n' || c = '\r' || c = ' ') (source.slice start stop)
  let opened := Text.dropEndWhile (· = '#') text
  let blanks := opened.length - (Text.dropEndWhile (· = ' ') opened).length
  if opened.isEmpty then start
  else if blanks = 0 then start + text.length
  else start + opened.length - blanks

def appendText (tokens : List Token) (start stop : Nat) : List Token :=
  match tokens.reverse with
  | ⟨first, last, .text, opens⟩ :: others =>
    if last = start then (⟨first, stop, .text, opens⟩ :: others).reverse
    else tokens ++ Token.ofText start stop
  | _ => tokens ++ Token.ofText start stop

def readHeading (source : Source) (text : Text) : List Token × Text :=
  match afterLineEnd? text with
  | some after => ([], after)
  | none =>
    let text := skipBlank text
    let start := source.positionOf text
    let line := TokenLine.read source start text
    let isHard (token : Token) : Bool :=
      !(source.text[token.start]?.all fun c => c = '\n' || c = '\r')
    let tokens :=
      match line.ending with
      | some token =>
        if isHard token then appendText line.tokens token.start token.stop else line.tokens
      | none => line.tokens
    let stop := headingStop source start (source.positionOf line.rest)
    match tokens.reverse with
    | [] => ([], line.rest)
    | last :: others => ((({ last with stop } : Token) :: others).reverse, line.rest)

def leftColumns (pending start : Nat) : List Token :=
  if pending = 0 then []
  else [{ start, stop := start, body := .given (List.replicate pending ' ') }]

/-- The tokens of a line of code; a carriage return before its last character does not belong to it,
if that is one of ASCII. -/
def codeLine (source : Source) (pending : Nat) (start stop : Nat) : List Token :=
  let blanks := leftColumns pending start
  if start + 2 ≤ stop && source.text[stop - 2]? = some '\r' &&
      source.text[stop - 1]?.any fun c => c.toNat < 128 then
    blanks ++ Token.ofText start (stop - 2) ++ Token.ofText (stop - 1) stop
  else blanks ++ Token.ofText start stop

def dropBlankLines (lines : List (Bool × List Token)) : List Token :=
  ((lines.reverse.dropWhile Prod.fst).reverse).flatMap Prod.snd

def readIndented (source : Source) (containers : List Container) : Nat → Nat → Text →
    List (Bool × List Token) × Text
  | 0, _, text => ([], text)
  | fuel + 1, pending, text =>
    let rest := (splitLine text).2
    let tokens := codeLine source pending (source.positionOf text) (source.positionOf rest)
    let blank := (afterBlankLine? text).isSome
    let (count, cursor) := Container.enter containers { rest }
    let (missing, behind) := cursor.skip 4
    if count ≠ containers.length || (missing ≠ 0 && !behind.atLineEnd) || behind.rest.isEmpty then
      ([(blank, tokens)], rest)
    else
      let (lines, after) := readIndented source containers fuel behind.pending behind.rest
      ((blank, tokens) :: lines, after)

def readFenced (source : Source) (containers : List Container) (mark : Char) (length indent : Nat) :
    Nat → Text → List Token × Text
  | 0, text => ([], text)
  | fuel + 1, text =>
    let (count, cursor) := Container.enter containers { rest := text }
    if count ≠ containers.length then ([], text)
    else
      let content := (cursor.skip indent).2
      let (missing, behind) := content.skip 4
      match if missing ≠ 0 then closingFence? mark length behind.rest else none with
      | some after => ([], after)
      | none =>
        let rest := (splitLine content.rest).2
        let tokens :=
          codeLine source content.pending (source.positionOf content.rest) (source.positionOf rest)
        let (more, after) := readFenced source containers mark length indent fuel rest
        (tokens ++ more, after)

def htmlLine (pending start stop : Nat) : List Block :=
  (leftColumns pending start).map (fun token => .leaf .silent start start [token]) ++
    [.leaf .silent start stop []]

def readHtml (source : Source) (containers : List Container) (ending : Html.BlockEnd) :
    Nat → Nat → Text → List Block × Text
  | 0, _, text => ([], text)
  | fuel + 1, pending, text =>
    let (line, rest) := splitLine text
    let blocks := htmlLine pending (source.positionOf text) (source.positionOf rest)
    let (count, cursor) := Container.enter containers { rest }
    let ends :=
      match ending with
      | .marker marker => Html.hasMarker marker line
      | .blankLine => cursor.atLineEnd || (afterBlankLine? cursor.rest).isSome
    if count ≠ containers.length || ends || cursor.rest.isEmpty then (blocks, rest)
    else
      let (more, after) := readHtml source containers ending fuel cursor.pending cursor.rest
      (blocks ++ more, after)

def readLeaf (source : Source) (state : Outline) (cursor : Cursor) : Outline × Text :=
  let containers := state.containers
  let (missing, start) := cursor.skip 4
  let text := start.rest
  let fuel := text.length.succ
  let position := source.positionOf text
  let leaf (kind : LeafKind) (tokens : List Token) (rest : Text) : Outline × Text :=
    (state.add (.leaf kind position (source.positionOf rest) tokens), rest)
  if missing = 0 then
    let (lines, rest) := readIndented source containers fuel start.pending text
    let (state, rest) := leaf .code (dropBlankLines lines) rest
    ({ state with blankLine := lines.getLast?.any Prod.fst }, rest)
  else
    match if text.head? = some '<' then Html.blockEnd? (text.drop 1) else none with
    | some ending =>
      let (blocks, rest) := readHtml source containers ending fuel cursor.pending text
      (blocks.foldl add state, rest)
    | none =>
      match afterRule? text, headingDepth? text, Definition.read? containers text, fence? text with
      | some rest, _, _, _ => leaf .silent [] rest
      | none, some depth, _, _ =>
        let (tokens, rest) := readHeading source (text.drop depth)
        leaf .heading tokens rest
      | none, none, some (label, rest), _ => ({ state with labels := label :: state.labels }, rest)
      | none, none, none, some (mark, length) =>
        let behind := (splitLine (skipBlank (text.drop length))).2
        let (tokens, rest) := readFenced source containers mark length (4 - missing) fuel behind
        let (state, rest) := leaf .code tokens rest
        (state, (afterBlankLine? rest).getD rest)
      | none, none, none, none =>
        let (kind, tokens, rest) := readParagraph source containers fuel [] text
        leaf kind tokens rest

/-- Reads the line behind the marks of containers, if only white space is left there. An item begins
with one blank line at most. -/
def readBlank (state : Outline) (lineStart : Nat) : Outline :=
  match state.frames with
  | [] => state
  | frame :: _ =>
    if frame.container = .quote then state
    else
      let state := if state.emptyItem then state.leave lineStart else state
      { state with blankLine := true }

def readBlock (source : Source) (state : Outline) (text : Text) : Outline × Text :=
  let lineStart := source.positionOf text
  let (count, cursor) := Container.enter state.containers { rest := text }
  let state := state.leaveMany lineStart (state.frames.length - count)
  let (state, cursor, empty) := openContainers source lineStart text.length.succ state cursor
  match afterBlankLine? cursor.rest with
  | some rest => if empty then (state, rest) else (state.readBlank lineStart, rest)
  | none => readLeaf source ({ state with emptyItem := false }.finishList lineStart) cursor

def readBlocks (source : Source) : Nat → Outline → Text → Outline
  | 0, state, _ => state
  | _, state, [] => state.leaveMany source.size state.frames.length
  | fuel + 1, state, text =>
    let (state, rest) := readBlock source state text
    readBlocks source fuel state rest

def ofText (text : Text) : Outline := readBlocks { text } text.length.succ {} text

end Outline
end ApiBlueprint.CommonMark

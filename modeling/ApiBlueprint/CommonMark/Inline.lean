import ApiBlueprint.CommonMark.Container
import ApiBlueprint.CommonMark.Link
import ApiBlueprint.CommonMark.Token

/-!
The plain text of tokens. Markup vanishes; the text of links and images, code and escaped characters
stay, and a line end becomes a space.
-/

namespace ApiBlueprint.CommonMark

structure InlineContext where
  source : Source
  containers : List Container
  labels : List Text
  stop : Nat

namespace InlineContext

def textFrom (context : InlineContext) (position : Nat) : Text :=
  context.source.slice position context.stop

def positionOf (context : InlineContext) (rest : Text) : Nat := context.stop - rest.length

def behindMarks (context : InlineContext) (line : Text) : Text :=
  Container.behindMarks context.containers line

end InlineContext

/-- An opening bracket, with the position of the label behind it. A link does not open at one that is
not active. -/
structure Bracket where
  image : Bool
  active : Bool := true
  label : Nat
  deriving DecidableEq, Repr

namespace Bracket

def text (bracket : Bracket) : Text := if bracket.image then ['!', '['] else ['[']

end Bracket

inductive InlinePiece where
  | piece (piece : EmphasisPiece)
  | bracket (bracket : Bracket)
  deriving DecidableEq, Repr

namespace Inline

def plain (text : Text) : InlinePiece := .piece (.plain text)

def asEmphasis : InlinePiece → EmphasisPiece
  | .piece piece => piece
  | .bracket bracket => .plain bracket.text

def textOf (pieces : List InlinePiece) : Text := Emphasis.resolve (pieces.reverse.map asEmphasis)

def dropTo (position : Nat) : List Token → List Token
  | [] => []
  | token :: rest =>
    if token.stop ≤ position then dropTo position rest
    else { token with start := max token.start position } :: rest

theorem length_dropTo_le (position : Nat) (tokens : List Token) :
    (dropTo position tokens).length ≤ tokens.length := by
  induction tokens with
  | nil => simp [dropTo]
  | cons token rest ih =>
    simp only [dropTo]
    split
    · simp only [List.length_cons]
      omega
    · simp

def isTicks (count : Nat) (token : Token) : Bool :=
  match token.body with
  | .ticks other _ => other == count
  | _ => false

def splitTicks (count : Nat) : List Token → Option (List Token × Token × List Token)
  | [] => none
  | token :: rest =>
    if isTicks count token then some ([], token, rest)
    else
      (splitTicks count rest).map fun (inner, closing, after) => (token :: inner, closing, after)

theorem length_splitTicks_lt {count : Nat} {tokens inner after : List Token} {closing : Token}
    (found : splitTicks count tokens = some (inner, closing, after)) :
    after.length < tokens.length := by
  induction tokens generalizing inner with
  | nil => simp [splitTicks] at found
  | cons token rest ih =>
    simp only [splitTicks] at found
    split at found
    · simp only [Option.some.injEq, Prod.mk.injEq] at found
      obtain ⟨_, _, rfl⟩ := found
      simp
    · simp only [Option.map_eq_some_iff, Prod.mk.injEq, Prod.exists] at found
      obtain ⟨_, _, _, step, _, rfl, rfl⟩ := found
      have := ih step
      simp only [List.length_cons]
      omega

structure CodeSpan where
  start : Nat
  stop : Nat
  trimmed : Bool

/-- The text of code, as far as it has been put together, and where the rest of it starts. It is put
together from stretches as soon as one of them is a line end, which becomes a space. -/
def codeParts (source : Source) (span : CodeSpan) (closing : Nat) (first : Bool) (start : Nat)
    (text : Option Text) : List Part → Nat × Option Text
  | [] => (start, text)
  | part :: rest =>
    if part.isLineEnd then
      if span.trimmed && first then
        let next := (rest.head?.map Part.start).getD closing
        codeParts source span closing false (min span.stop next) text rest
      else if span.trimmed && rest.isEmpty then (start, text)
      else
        let line := (source.text.drop part.start).takeWhile fun c => c ≠ '\n' && c ≠ '\r'
        let before :=
          match text with
          | some text => text ++ line
          | none => source.slice start (part.start + line.length)
        codeParts source span closing false start (some (before ++ [' '])) rest
    else
      let stop := if rest.isEmpty then span.stop else part.stop
      codeParts source span closing false start (text.map (· ++ source.slice part.start stop)) rest

def codeText (source : Source) (start stop : Nat) (parts : List Part) : Text :=
  let raw := source.slice start stop
  let isEdge (c : Char) : Bool := c = ' ' || c = '\n' || c = '\r'
  if raw.all (· = ' ') then raw
  else
    let trimmed := raw.head?.any isEdge && raw.getLast?.any isEdge
    let first := if trimmed then start + 1 else start
    let last := if trimmed && first < stop then stop - 1 else stop
    let (first, text) := codeParts source ⟨first, last, trimmed⟩ stop true first none parts
    text.getD (source.slice first last)

def deactivate (pieces : List InlinePiece) : List InlinePiece :=
  pieces.map fun
    | .bracket bracket => .bracket { bracket with active := bracket.image && bracket.active }
    | piece => piece

def splitBracket : List InlinePiece → Option (List InlinePiece × Bracket × List InlinePiece)
  | [] => none
  | .bracket bracket :: below => some ([], bracket, below)
  | .piece piece :: below =>
    (splitBracket below).map fun (inner, bracket, rest) => (.piece piece :: inner, bracket, rest)

def followLine (context : InlineContext) (tokens : List Token) (text : Text) : Text :=
  let position := context.positionOf text
  match tokens.find? fun token => position + 1 < token.stop with
  | some token => if position < token.start then context.textFrom token.start else text.drop 1
  | none => text.drop 1

def afterInline? (context : InlineContext) (position : Nat) (tokens : List Token) :
    Option (List Token) :=
  (Link.afterInline? (followLine context tokens) (context.textFrom position)).map fun rest =>
    dropTo (context.positionOf rest) tokens

/-- The label that a closing bracket refers to, and the tokens behind the reference: a label in
brackets of its own, the last of which is a token, or else the label that the bracket closes. -/
def reference? (context : InlineContext) (start stop : Nat) (tokens : List Token) :
    Option (Text × List Token) :=
  let marks (line : Text) : Option Text := some (context.behindMarks line)
  let tail :=
    match tokens with
    | [] => []
    | token :: _ => context.textFrom token.start
  let own? : Option Text := do
    let (label, after) ← Link.label? marks (context.source.slice start stop)
    if after.isEmpty then some label else none
  match tail with
  | '[' :: ']' :: _ => own?.map fun label => (label, tokens.drop 2)
  | _ =>
    match Link.label? marks tail with
    | some (label, after) =>
      match dropTo (context.positionOf after - 1) tokens with
      | [] => none
      | _ :: behind => some (label, behind)
    | none => own?.map fun label => (label, tokens)

def afterLink? (context : InlineContext) (start stop : Nat) (tokens : List Token) :
    Option (List Token) :=
  match afterInline? context stop tokens with
  | some after => some after
  | none =>
    match reference? context start stop tokens with
    | some (label, after) => if context.labels.contains label then some after else none
    | none => none

theorem length_afterLink_le {context : InlineContext} {start stop : Nat} {tokens after : List Token}
    (found : afterLink? context start stop tokens = some after) :
    after.length ≤ tokens.length := by
  unfold afterLink? at found
  split at found
  · rename_i behind inline
    simp only [afterInline?, Option.map_eq_some_iff] at inline
    obtain ⟨_, _, rfl⟩ := inline
    cases found
    exact length_dropTo_le _ _
  · split at found
    · rename_i label behind reference
      split at found
      · cases found
        unfold reference? at reference
        simp only at reference
        split at reference
        · simp only [Option.map_eq_some_iff, Prod.mk.injEq] at reference
          obtain ⟨_, _, _, rfl⟩ := reference
          simp
        · split at reference
          · split at reference
            · simp at reference
            · rename_i dropped
              simp only [Option.some.injEq, Prod.mk.injEq] at reference
              obtain ⟨_, rfl⟩ := reference
              have := length_dropTo_le (context.positionOf ‹_› - 1) tokens
              rw [dropped] at this
              simp only [List.length_cons] at this
              omega
          · simp only [Option.map_eq_some_iff, Prod.mk.injEq] at reference
            obtain ⟨_, _, _, rfl⟩ := reference
            simp
      · simp at found
    · simp at found

def closeBracket (context : InlineContext) (pieces : List InlinePiece) (stop : Nat)
    (tokens : List Token) : List InlinePiece × List Token :=
  match splitBracket pieces with
  | none => (plain [']'] :: pieces, tokens)
  | some (inner, bracket, below) =>
    match if bracket.active then afterLink? context bracket.label stop tokens else none with
    | none => (plain [']'] :: inner ++ plain bracket.text :: below, tokens)
    | some after =>
      (plain (textOf inner) :: (if bracket.image then below else deactivate below), after)

theorem length_closeBracket_le (context : InlineContext) (pieces : List InlinePiece) (stop : Nat)
    (tokens : List Token) :
    (closeBracket context pieces stop tokens).2.length ≤ tokens.length := by
  unfold closeBracket
  split
  · simp
  · split
    · simp
    · rename_i found
      split at found
      · exact length_afterLink_le found
      · simp at found

def readAngle (context : InlineContext) (start : Nat) (tokens : List Token) :
    Option (Text × List Token) :=
  let next := (tokens.head?.map Token.start).getD context.stop
  let text := context.textFrom next
  match Link.afterAddress? text with
  | some rest =>
    let position := context.positionOf rest
    some (context.source.slice (start + 1) (position - 1), dropTo position tokens)
  | none =>
    (Html.afterInline? (some context.behindMarks) text).map fun rest =>
      ([], dropTo (context.positionOf rest) tokens)

theorem length_readAngle_le {context : InlineContext} {start : Nat} {tokens after : List Token}
    {text : Text} (found : readAngle context start tokens = some (text, after)) :
    after.length ≤ tokens.length := by
  unfold readAngle at found
  simp only at found
  split at found
  · simp only [Option.some.injEq, Prod.mk.injEq] at found
    obtain ⟨_, rfl⟩ := found
    exact length_dropTo_le _ _
  · simp only [Option.map_eq_some_iff, Prod.mk.injEq] at found
    obtain ⟨_, _, _, rfl⟩ := found
    exact length_dropTo_le _ _

def read (context : InlineContext) (pieces : List InlinePiece) (tokens : List Token) :
    List InlinePiece :=
  match tokens with
  | [] => pieces
  | token :: rest =>
    let own := context.source.slice token.start token.stop
    match token.body with
    | .text => read context (plain own :: pieces) rest
    | .given text => read context (plain text :: pieces) rest
    | .run run => read context (.piece (.run run) :: pieces) rest
    | .lineEnd => read context (plain [' '] :: pieces) rest
    | .block text _ => read context (plain text :: pieces) rest
    | .linkOpen => read context (.bracket { image := false, label := token.stop - 1 } :: pieces) rest
    | .imageOpen => read context (.bracket { image := true, label := token.stop - 1 } :: pieces) rest
    | .ticks count escaped =>
      let wanted := if escaped then count - 1 else count
      match found : splitTicks wanted rest with
      | some (inner, closing, after) =>
        have := length_splitTicks_lt found
        if wanted = 0 then read context (plain own :: pieces) rest
        else
          let parts := inner.flatMap Token.parts ++ closing.opens.toList
          let code := codeText context.source token.stop closing.start parts
          read context (plain (if escaped then '\x60' :: code else code) :: pieces) after
      | none => read context (plain own :: pieces) rest
    | .angle =>
      match found : readAngle context token.start rest with
      | some (text, after) =>
        have := length_readAngle_le found
        read context (plain text :: pieces) after
      | none => read context (plain own :: pieces) rest
    | .bracketClose =>
      have := length_closeBracket_le context pieces token.stop rest
      let closed := closeBracket context pieces token.stop rest
      read context closed.1 closed.2
  termination_by tokens.length

def toText (context : InlineContext) (tokens : List Token) : Text := textOf (read context [] tokens)

end Inline
end ApiBlueprint.CommonMark

import ApiBlueprint.CommonMark.Punctuation

/-!
Emphasis. A run of asterisks or underscores opens or closes emphasis by what stands around it; the
marks of matched runs vanish from the text and the others stay.
-/

namespace ApiBlueprint.CommonMark

structure Run where
  mark : Char
  count : Nat
  canOpen : Bool
  canClose : Bool
  deriving DecidableEq, Repr

namespace Run

def opens (mark : Char) (before after : Option Char) : Bool :=
  match after with
  | none => false
  | some next =>
    if Text.isSpace next then false
    else
      match before with
      | none => true
      | some previous =>
        (mark = '*' && !isPunctuation next) || Text.isSpace previous || isPunctuation previous

def closes (mark : Char) (before after : Option Char) : Bool :=
  match before with
  | none => false
  | some previous =>
    if Text.isSpace previous then false
    else
      match after with
      | none => true
      | some next =>
        (mark = '*' && !isPunctuation previous) || Text.isSpace next || isPunctuation next

def text (run : Run) : Text := List.replicate run.count run.mark

end Run

/-- The number of openers, from the first one on, among which no match is looked for again. It is
kept by kinds of closing runs. -/
structure Passed where
  underscores : Nat := 0
  openUnderscores : Nat := 0
  asterisks : Nat := 0
  lengths : List Nat := [0, 0, 0]
  deriving DecidableEq, Repr

namespace Passed

def get (passed : Passed) (closer : Run) : Nat :=
  let both := closer.canOpen && closer.canClose
  if closer.mark = '_' then if both then passed.openUnderscores else passed.underscores
  else
    let length := passed.lengths.getD (closer.count % 3) 0
    if both then length else min length passed.asterisks

def set (passed : Passed) (closer : Run) (count : Nat) : Passed :=
  let both := closer.canOpen && closer.canClose
  if closer.mark = '_' then
    if both then { passed with openUnderscores := count } else { passed with underscores := count }
  else
    { passed with
      lengths := passed.lengths.set (closer.count % 3) count
      asterisks := if both then passed.asterisks else count }

end Passed

inductive EmphasisPiece where
  | plain (text : Text)
  | run (run : Run)
  deriving DecidableEq, Repr

structure Emphasis where
  pieces : List EmphasisPiece := []
  passed : Passed := {}
  deriving DecidableEq, Repr

namespace Emphasis

def literal : EmphasisPiece → Text
  | .plain text => text
  | .run run => run.text

def isRun : EmphasisPiece → Bool
  | .plain _ => false
  | .run _ => true

/-- Lengths whose sum is a multiple of three do not match if one of the runs could both open and
close, unless both are multiples of three. -/
def isMatch (closer opener : Run) : Bool :=
  opener.mark = closer.mark &&
    (!(closer.canOpen && closer.canClose) && !(opener.canOpen && opener.canClose) ||
      (closer.count + opener.count) % 3 ≠ 0 || closer.count % 3 = 0)

/-- The nearest opener that matches among the last `count` ones: the text behind it, itself and the
pieces before it. -/
def findOpener (closer : Run) (count : Nat) : List EmphasisPiece →
    Option (Text × Run × List EmphasisPiece)
  | [] => none
  | .plain text :: below =>
    (findOpener closer count below).map fun (inner, opener, rest) => (inner ++ text, opener, rest)
  | .run run :: below =>
    match count with
    | 0 => none
    | count + 1 =>
      if isMatch closer run then some ([], run, below)
      else
        (findOpener closer count below).map fun (inner, opener, rest) =>
          (inner ++ run.text, opener, rest)

def close (closer : Run) : Nat → Emphasis → Emphasis × Run
  | 0, state => (state, closer)
  | fuel + 1, state =>
    if closer.count = 0 then (state, closer)
    else
      let openers := state.pieces.countP isRun
      match findOpener closer (openers - state.passed.get closer) state.pieces with
      | none => ({ state with passed := state.passed.set closer openers }, closer)
      | some (inner, opener, below) =>
        let used := min closer.count opener.count
        let rest : Run :=
          { opener with
            count := opener.count - used
            canClose := closer.canOpen && closer.canClose }
        let below := if rest.count = 0 then below else .run rest :: below
        close { closer with count := closer.count - used } fuel
          { state with pieces := .plain inner :: below }

def step (state : Emphasis) (piece : EmphasisPiece) : Emphasis :=
  match piece with
  | .plain text => { state with pieces := .plain text :: state.pieces }
  | .run run =>
    let (state, rest) := if run.canClose then close run run.count.succ state else (state, run)
    if rest.count = 0 then state
    else
      let piece : EmphasisPiece := if rest.canOpen then .run rest else .plain rest.text
      { state with pieces := piece :: state.pieces }

def resolve (pieces : List EmphasisPiece) : Text :=
  ((pieces.foldl step {}).pieces.reverse).flatMap literal

end Emphasis
end ApiBlueprint.CommonMark

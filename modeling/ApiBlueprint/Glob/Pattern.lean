import ApiBlueprint.Text.Basic

/-!
Glob patterns and their reading. A `**` is recursive at the start of a pattern or alternative, at
its end, and between slashes; elsewhere it is two stars.
-/

namespace ApiBlueprint

inductive GlobToken where
  | literal (c : Char)
  | any
  | star
  /-- A `**` at the start, with the slash behind it. -/
  | anyFolders
  /-- A `**` at the end, with the slash before it. -/
  | anyBelow
  /-- A `**` between two slashes, which belong to it. -/
  | anyBetween
  | oneOf (negated : Bool) (ranges : List (Char × Char))
  | alternatives (branches : List (List GlobToken))
  deriving Repr

structure Glob where
  text : Text
  tokens : List GlobToken
  deriving Repr

inductive GlobFault where
  | unclosedClass
  | invalidRange (first last : Char)
  | unopenedGroup
  | unclosedGroup
  | danglingEscape
  deriving DecidableEq, Repr

structure GlobError where
  pattern : Text
  fault : GlobFault
  deriving DecidableEq, Repr

namespace GlobFault

def message : GlobFault → Text
  | unclosedClass => "unclosed character class; missing ']'".toList
  | invalidRange first last =>
    "invalid range; '".toList ++ first :: "' > '".toList ++ last :: ['\x27']
  | unopenedGroup =>
    "unopened alternate group; missing '\x7b' (maybe escape '\x7d' with '[\x7d]'?)".toList
  | unclosedGroup =>
    "unclosed alternate group; missing '\x7d' (maybe escape '\x7b' with '[\x7b]'?)".toList
  | danglingEscape => "dangling '\\'".toList

end GlobFault

def GlobError.message (error : GlobError) : Text :=
  "error parsing glob '".toList ++ error.pattern ++ "': ".toList ++ error.fault.message

namespace Glob

structure Frame where
  branches : List (List GlobToken) := []
  tokens : List GlobToken := []

structure Reading where
  innermost : Frame := {}
  outer : List Frame := []

namespace Reading

def push (state : Reading) (token : GlobToken) : Reading :=
  { state with innermost := { state.innermost with tokens := token :: state.innermost.tokens } }

def openGroup (state : Reading) : Reading := ⟨{}, state.innermost :: state.outer⟩

def inGroup (state : Reading) : Bool := !state.outer.isEmpty

def nextBranch (state : Reading) : Reading :=
  { state with
    innermost := ⟨state.innermost.tokens.reverse :: state.innermost.branches, []⟩ }

def closeGroup? (state : Reading) : Option Reading :=
  match state.outer with
  | [] => none
  | frame :: outer =>
    let branches := (state.innermost.tokens.reverse :: state.innermost.branches).reverse
    some (push ⟨frame, outer⟩ (.alternatives branches))

/-- Replaces the slash before a recursive `**`; two of them in a row are one. -/
def recur (state : Reading) (token : GlobToken) : Reading :=
  match state.innermost.tokens with
  | .anyFolders :: _ => state
  | .anyBelow :: _ => state
  | tokens => { state with innermost := { state.innermost with tokens := token :: tokens.drop 1 } }

def twoStars (state : Reading) : Reading := (state.push .star).push .star

def doubleStar (state : Reading) (before : Option Char) (rest : Text) : Reading × Text :=
  if state.innermost.tokens.isEmpty then
    match rest with
    | [] => (state.push .anyFolders, [])
    | '/' :: after => (state.push .anyFolders, after)
    | _ => (state.twoStars, rest)
  else if before ≠ some '/' && !(state.inGroup && (before = some ',' || before = some '{')) then
    (state.twoStars, rest)
  else
    match rest with
    | [] => (state.recur .anyBelow, [])
    | '/' :: after => (state.recur .anyBetween, after)
    | c :: _ =>
      if state.inGroup && (c = ',' || c = '}') then (state.recur .anyBelow, rest)
      else (state.twoStars, rest)

end Reading

/-- The ranges of a class read so far, the last one first, and whether a hyphen was just read that
may join two characters. -/
structure ClassReading where
  ranges : List (Char × Char) := []
  joining : Bool := false

namespace ClassReading

/-- A hyphen joins unless it stands first or, as `finish` says, last. -/
def step (state : ClassReading) (c : Char) : Except GlobFault ClassReading :=
  match state.ranges with
  | [] => .ok ⟨[(c, c)], false⟩
  | (first, last) :: others =>
    if state.joining then
      if c < first then .error (.invalidRange first c) else .ok ⟨(first, c) :: others, false⟩
    else if c = '-' then .ok { state with joining := true }
    else .ok ⟨(c, c) :: (first, last) :: others, false⟩

def finish (state : ClassReading) : List (Char × Char) :=
  (if state.joining then ('-', '-') :: state.ranges else state.ranges).reverse

end ClassReading

def ranges (content : Text) : Except GlobFault (List (Char × Char)) := do
  let state ← content.foldlM ClassReading.step {}
  return state.finish

/-- The characters of a class up to the bracket that closes it, and what follows; a bracket that
comes first belongs to the class. -/
def classContent : Text → Text × Option Text
  | [] => ([], none)
  | first :: rest =>
    match Text.splitFirst (· = ']') rest with
    | none => (first :: rest, none)
    | some (inner, after) => (first :: inner, some after)

def readClass (text : Text) : Except GlobFault (GlobToken × Text) :=
  let (negated, text) :=
    match text with
    | '!' :: rest => (true, rest)
    | '^' :: rest => (true, rest)
    | _ => (false, text)
  let (content, after) := classContent text
  match ranges content, after with
  | .error fault, _ => .error fault
  | .ok _, none => .error .unclosedClass
  | .ok ranges, some after => .ok (.oneOf negated ranges, after)

def readFrom (state : Reading) (before : Option Char) (fuel : Nat) (text : Text) :
    Except GlobFault (List GlobToken) :=
  match fuel, text with
  | 0, _ | _, [] =>
    if state.inGroup then .error .unclosedGroup else .ok state.innermost.tokens.reverse
  | fuel + 1, c :: rest =>
    if c = '?' then readFrom (state.push .any) (some c) fuel rest
    else if c = '*' then
      match rest with
      | '*' :: rest =>
        let (state, after) := state.doubleStar before rest
        readFrom state (some (if after.length < rest.length then '/' else '*')) fuel after
      | _ => readFrom (state.push .star) (some c) fuel rest
    else if c = '[' then
      match readClass rest with
      | .error fault => .error fault
      | .ok (token, after) => readFrom (state.push token) (some ']') fuel after
    else if c = '{' then readFrom state.openGroup (some c) fuel rest
    else if c = '}' then
      match state.closeGroup? with
      | none => .error .unopenedGroup
      | some state => readFrom state (some c) fuel rest
    else if c = ',' && state.inGroup then readFrom state.nextBranch (some c) fuel rest
    else if c = '\\' then
      match rest with
      | [] => .error .danglingEscape
      | escaped :: rest => readFrom (state.push (.literal escaped)) (some escaped) fuel rest
    else readFrom (state.push (.literal c)) (some c) fuel rest

def read (pattern : Text) : Except GlobError Glob :=
  match readFrom {} none pattern.length pattern with
  | .ok tokens => .ok ⟨pattern, tokens⟩
  | .error fault => .error ⟨pattern, fault⟩

end Glob
end ApiBlueprint

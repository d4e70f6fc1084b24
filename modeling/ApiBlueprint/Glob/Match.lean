import ApiBlueprint.Glob.Pattern
import ApiBlueprint.Path.OsText

/-!
Matching of paths against glob patterns, byte by byte. With a separator, `*` and `?` stop at slashes.
-/

namespace ApiBlueprint

open OsText (slash)

namespace GlobToken

mutual

/-- A token that matches the empty text only, for want of alternatives. -/
def isEmpty : GlobToken → Bool
  | alternatives branches => allBranchesEmpty branches
  | _ => false

def allEmpty : List GlobToken → Bool
  | [] => true
  | token :: rest => token.isEmpty && allEmpty rest

def allBranchesEmpty : List (List GlobToken) → Bool
  | [] => true
  | branch :: rest => allEmpty branch && allBranchesEmpty rest

end

/-- A range from its first character to its last as bytes: the last byte of the one and the first
byte of the other bound it, and the other bytes of both stand alone. -/
def rangeHas (first last : Char) (byte : UInt8) : Bool :=
  let lower := String.utf8EncodeChar first
  if first = last then lower.contains byte
  else
    let upper := String.utf8EncodeChar last
    lower.contains byte || upper.contains byte ||
      (lower.getLastD 0 ≤ byte && byte ≤ upper.headD 0)

def classHas (negated : Bool) (ranges : List (Char × Char)) (byte : UInt8) : Bool :=
  (ranges.any fun (first, last) => rangeHas first last byte) != negated

def skipRun (skip : UInt8 → Bool) : List UInt8 → List (List UInt8)
  | [] => [[]]
  | byte :: rest => (byte :: rest) :: if skip byte then skipRun skip rest else []

def afterSlashes : List UInt8 → List (List UInt8)
  | [] => []
  | byte :: rest => if byte = slash then rest :: afterSlashes rest else afterSlashes rest

def afterByte (accept : UInt8 → Bool) : List UInt8 → List (List UInt8)
  | [] => []
  | byte :: rest => if accept byte then [rest] else []

def afterBytes : List UInt8 → List UInt8 → List (List UInt8)
  | [], text => [text]
  | _ :: _, [] => []
  | expected :: more, byte :: rest => if expected = byte then afterBytes more rest else []

mutual

def remainders (separator : Bool) (token : GlobToken) (text : List UInt8) : List (List UInt8) :=
  match token with
  | literal c => afterBytes (String.utf8EncodeChar c) text
  | any => afterByte (fun byte => !(separator && byte = slash)) text
  | star => skipRun (fun byte => !(separator && byte = slash)) text
  | anyFolders => text :: afterSlashes text
  | anyBelow =>
    match text with
    | [] => []
    | byte :: rest => if byte = slash then skipRun (fun _ => true) rest else []
  | anyBetween =>
    match text with
    | [] => []
    | byte :: rest => if byte = slash then rest :: afterSlashes rest else []
  | oneOf negated ranges => afterByte (classHas negated ranges) text
  | alternatives branches =>
    if allBranchesEmpty branches then [text] else branchRemainders separator branches text

def listRemainders (separator : Bool) (tokens : List GlobToken) (texts : List (List UInt8)) :
    List (List UInt8) :=
  match tokens with
  | [] => texts
  | token :: rest =>
    listRemainders separator rest (texts.flatMap (remainders separator token)).eraseDups

def branchRemainders (separator : Bool) (branches : List (List GlobToken)) (text : List UInt8) :
    List (List UInt8) :=
  match branches with
  | [] => []
  | branch :: rest =>
    (if allEmpty branch then [] else listRemainders separator branch [text]) ++
      branchRemainders separator rest text

end

end GlobToken

namespace Glob

def isEverything (glob : Glob) : Bool :=
  match glob.tokens with
  | [.anyFolders] => true
  | _ => false

/-- Whether the pattern matches a path, `*` and `?` stopping at slashes if `separator` says so. -/
def accepts (glob : Glob) (separator : Bool) (path : OsText) : Bool :=
  glob.isEverything ||
    (GlobToken.listRemainders separator glob.tokens [path]).any List.isEmpty

end Glob
end ApiBlueprint

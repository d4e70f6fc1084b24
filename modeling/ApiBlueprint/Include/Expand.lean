import ApiBlueprint.Include.Directive
import ApiBlueprint.Path.Basic

/-!
Transclusion: every include directive is replaced by the document it links to, with the directives
of that document expanded in turn.
-/

namespace ApiBlueprint

/-- A document that a link leads to. Links in its text are seen from the folder of its location. -/
structure Inclusion where
  location : Path
  text : Text
  deriving DecidableEq, Repr

/-- Finds the document of a link, seen from a folder if one is known; the error is a reason. -/
abbrev Loader := Text → Option Path → Except Text Inclusion

inductive TransclusionFault where
  | noText
  | noOutput
  | remote (link : Text)
  | tooDeep (limit : Nat) (link : Text)
  | notLoaded (link reason : Text)
  | circular (chain : List Path)
  deriving DecidableEq, Repr

namespace TransclusionFault

def message : TransclusionFault → Text
  | noText => "valid markdown required for transclusion".toList
  | noOutput => "resolving include directives produced no output".toList
  | remote link => "remote include '".toList ++ link ++ "' is not supported".toList
  | tooDeep limit link =>
    "include depth exceeds ".toList ++ Text.ofNat limit ++ " at '".toList ++ link ++ ['\x27']
  | notLoaded link reason => "failed to include '".toList ++ link ++ "': ".toList ++ reason
  | circular chain =>
    "circular include: ".toList ++ Text.joinWith " -> ".toList (chain.map Path.text)

end TransclusionFault

namespace Transclusion

def locate (link : Text) (base : Option Path) : Path :=
  match base with
  | some base => (base.join ⟨link⟩).normalize
  | none => Path.normalize ⟨link⟩

def isRemote (link : Text) : Bool :=
  Text.startsWith "http://".toList link || Text.startsWith "https://".toList link

def dropLast (c : Char) (text : Text) : Text :=
  if text.getLast? = some c then text.dropLast else text

def trimTrailingNewline (text : Text) : Text := dropLast '\r' (dropLast '\n' text)

def indentFollowingLines (indent text : Text) : Text :=
  if indent.isEmpty then text
  else
    match text.splitOn '\n' with
    | [] => []
    | first :: rest =>
      Text.joinWith ['\n']
        (first :: rest.map fun line => if Text.isBlank line then line else indent ++ line)

def splice (indent nested : Text) : Text := indentFollowingLines indent (trimTrailingNewline nested)

structure Context where
  loader : Loader
  maxDepth : Nat

def assemble (replacement : Text → Text → Except TransclusionFault Text) :
    List DocumentPiece → Except TransclusionFault Text
  | [] => .ok []
  | .literal c :: rest => do return c :: (← assemble replacement rest)
  | .directive link indent :: rest => do
    let text ← replacement link indent
    return text ++ (← assemble replacement rest)

def load (context : Context) (stack : List Path) (base : Option Path) (link : Text) :
    Except TransclusionFault Inclusion :=
  match context.loader link base with
  | .error reason => .error (.notLoaded link reason)
  | .ok inclusion =>
    if stack.any inclusion.location.same then .error (.circular (stack ++ [inclusion.location]))
    else .ok inclusion

/-- Expands the directives of a text, where `room` more documents may be nested and `stack` holds
the locations of the documents that lead here. -/
def expand (context : Context) (room : Nat) (stack : List Path) (base : Option Path) (text : Text) :
    Except TransclusionFault Text :=
  assemble
    (fun link indent =>
      if isRemote link then .error (.remote link)
      else
        match room with
        | 0 => .error (.tooDeep context.maxDepth link)
        | room + 1 => do
          let inclusion ← load context stack base link
          let nested ← expand context room (stack ++ [inclusion.location])
            inclusion.location.parent? inclusion.text
          return splice indent nested)
    (Directive.pieces text)
  termination_by structural room

end Transclusion

def transclude (loader : Loader) (maxDepth : Nat) (base : Option Path) (text : Text) :
    Except TransclusionFault Text :=
  if text.isEmpty then .error .noText
  else
    match Transclusion.expand ⟨loader, maxDepth⟩ maxDepth [] base text with
    | .error fault => .error fault
    | .ok [] => .error .noOutput
    | .ok resolved => .ok resolved

end ApiBlueprint

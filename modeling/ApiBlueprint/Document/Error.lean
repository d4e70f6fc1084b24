import ApiBlueprint.Files.Fault
import ApiBlueprint.Fixture.Extract
import ApiBlueprint.Glob.Pattern
import ApiBlueprint.Grammar.Error
import ApiBlueprint.Include.Expand
import ApiBlueprint.Placeholder.Generator

/-! What can go wrong when documents are found, compiled and written. -/

namespace ApiBlueprint

inductive InputFault where
  | noMarkdown
  | noPath
  | notDocuments (kind : Text)
  | notMember (kind : Text)
  | noArtifact
  | pattern (error : GlobError)
  deriving DecidableEq, Repr

inductive CompileError where
  | input (fault : InputFault)
  | transclusion (fault : TransclusionFault)
  | interpolation (fault : InterpolationFault)
  | fixture (error : FixtureError) (origin : Option Path)
  | grammar (error : GrammarError)
  | unsupportedFormat (key : Text)
  | invalidDestination (path : Path)
  | file (path : Path) (fault : FileFault)
  /-- A batch ended without an artifact for each of its members. -/
  | unfinished
  deriving DecidableEq, Repr

namespace InputFault

def message : InputFault → Text
  | noMarkdown => "markdown data required".toList
  | noPath => "file path required".toList
  | notDocuments kind => "documents must be represented as a string or array, got ".toList ++ kind
  | notMember kind => "batch documents must be strings, got ".toList ++ kind
  | noArtifact => "document has no compiled artifact".toList
  | pattern error =>
    "invalid glob pattern '".toList ++ error.pattern ++ "': ".toList ++ error.message

end InputFault

namespace CompileError

def originText : Option Path → Text
  | none => []
  | some origin => " in ".toList ++ origin.text

def message : CompileError → Text
  | input fault => "invalid input: ".toList ++ fault.message
  | transclusion fault => "transclusion failed: ".toList ++ fault.message
  | interpolation fault => "interpolation failed: ".toList ++ fault.message
  | fixture error origin =>
    "invalid JSON fixture ".toList ++ error.fragment ++ originText origin ++ " at line ".toList ++
      Text.ofNat error.line ++ ": ".toList ++ error.fault.message
  | grammar error => "failed to parse blueprint: ".toList ++ error.message
  | unsupportedFormat key => "unsupported format '".toList ++ key ++ ['\x27']
  | invalidDestination path =>
    "file destinations must contain an extension, got '".toList ++ path.text ++ ['\x27']
  | file path fault => "i/o error at ".toList ++ path.text ++ ": ".toList ++ fault.message
  | unfinished => "compile task failed: batch member finished without an artifact".toList

def exitCode : CompileError → Nat
  | input _ => 2
  | transclusion _ => 3
  | interpolation _ => 4
  | fixture _ _ => 5
  | grammar _ => 6
  | unsupportedFormat _ => 7
  | invalidDestination _ => 8
  | file _ _ => 9
  | unfinished => 10

end CompileError
end ApiBlueprint

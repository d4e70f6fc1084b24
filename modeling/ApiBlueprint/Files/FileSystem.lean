import ApiBlueprint.Document.Error
import ApiBlueprint.Glob.Match

/-! What compiling needs of a place where files are: reading, writing and listing. -/

namespace ApiBlueprint

structure GlobOptions where
  exclude : List Text := []
  includeHidden : Bool := false
  deriving DecidableEq, Repr

/-- Files in a state of type `State`. A write gives the new state also when it fails. -/
structure FileSystem (State : Type) where
  read : State → Path → Except CompileError Text
  write : State → Path → Text → Except CompileError Unit × State
  glob : State → Text → GlobOptions → Except CompileError (List Path)

structure PathFilter where
  wanted : Glob
  unwanted : List Glob

namespace PathFilter

def readPattern (pattern : Text) : Except CompileError Glob :=
  (Glob.read pattern).mapError fun error => .input (.pattern error)

def ofPatterns (pattern : Text) (options : GlobOptions) : Except CompileError PathFilter := do
  let wanted ← readPattern pattern
  let unwanted ← options.exclude.mapM readPattern
  return ⟨wanted, unwanted⟩

/-- Stars stop at the slashes of a path. -/
def accepts (filter : PathFilter) (path : Path) : Bool :=
  filter.wanted.accepts true path.bytes && !(filter.unwanted.any fun glob => glob.accepts true path.bytes)

end PathFilter
end ApiBlueprint

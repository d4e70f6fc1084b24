import ApiBlueprint.Document.Batch
import ApiBlueprint.Files.FileSystem

/-! Compiling the files of a file system. -/

namespace ApiBlueprint.FileSystem

variable {State G : Type} [Engine G]

def compileFile (system : FileSystem State) (files : State) (options : CompileOptions) (path : Path)
    (generator : G) : Except CompileError Artifact × G :=
  if path.isEmpty then (.error (.input .noPath), generator)
  else
    match system.read files path with
    | .error error => (.error error, generator)
    | .ok text => ({ text, origin := path } : Document).compile options generator

def compileFiles (system : FileSystem State) (files : State) (options : CompileOptions)
    (paths : List Path) (generator : G) :
    Except CompileError (List (Path × Artifact)) × G :=
  let (result, generator) := Batch.compileAll (system.compileFile files options) paths generator
  (result.map paths.zip, generator)

def compileGlob (system : FileSystem State) (files : State) (pattern : Text) (glob : GlobOptions)
    (options : CompileOptions) (generator : G) :
    Except CompileError (List (Path × Artifact)) × G :=
  match system.glob files pattern glob with
  | .error error => (.error error, generator)
  | .ok paths => system.compileFiles files options paths generator

/-- The paths that match one of several patterns, in path order and each once. -/
def globAny (system : FileSystem State) (files : State) (patterns : List Text) (glob : GlobOptions) :
    Except CompileError (List Path) := do
  let found ← patterns.mapM fun pattern => system.glob files pattern glob
  return Path.sorted found.flatten

def compileSources (system : FileSystem State) (files : State) (patterns : List Text)
    (glob : GlobOptions) (options : CompileOptions) (generator : G) :
    Except CompileError (List (Path × Artifact)) × G :=
  match system.globAny files patterns glob with
  | .error error => (.error error, generator)
  | .ok paths => system.compileFiles files options paths generator

def distDocument (system : FileSystem State) (files : State) (document : Document) (target : Path)
    (options : CompileOptions) (generator : G) : CompilationUnit.DistOutcome State G :=
  ({ document } : CompilationUnit).dist system files target options generator

end ApiBlueprint.FileSystem

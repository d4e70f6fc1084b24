import ApiBlueprint.Config.Settings
import ApiBlueprint.Document.Unit
import ApiBlueprint.Files.Tree

/-! The files of a project in a tree of folders, and the options that its configuration gives. -/

namespace ApiBlueprint

namespace Project

def read (project : Project) (tree : FileTree) (path : Path) : Except CompileError Text :=
  let resolved := project.resolve path
  (tree.read resolved).mapError (.file resolved)

def write (project : Project) (tree : FileTree) (path : Path) (text : Text) :
    Except CompileError Unit × FileTree :=
  let resolved := project.resolve path
  let (result, tree) := tree.write resolved text
  (result.mapError (.file resolved), tree)

/-- The paths of the files below the root, seen from there. A root that is a file has the empty path;
a root that is a link is followed to a folder only. -/
def filesBelow (project : Project) (tree : FileTree) (hidden : Bool) : Except FileFault (List Path) := do
  let found ← tree.find project.root true
  match ← tree.find project.root false, found with
  | .link _, .file _ => return []
  | _, found =>
    return (found.files hidden).map fun location => ⟨Text.joinWith [OsText.slash] location⟩

def glob (project : Project) (tree : FileTree) (pattern : Text) (options : GlobOptions) :
    Except CompileError (List Path) := do
  let filter ← PathFilter.ofPatterns pattern options
  let paths ← (project.filesBelow tree options.includeHidden).mapError fun fault =>
    .file project.root (.walking project.root fault)
  return Path.sorted (paths.filter fun path =>
    filter.accepts path && !Glob.anyAccepts project.exclude path)

def fileSystem (project : Project) : FileSystem FileTree where
  read := project.read
  write := project.write
  glob := project.glob

def loader (project : Project) (tree : FileTree) : Loader := fun link base => do
  let location := Transclusion.locate link base
  let text ← (tree.read (project.root.join location)).mapError FileFault.message
  return ⟨location, text⟩

end Project

namespace Config

def compileOptions (config : Config) (tree : FileTree) : CompileOptions where
  loader := config.project.loader tree
  maxDepth := config.maxDepth

def globOptions (config : Config) : GlobOptions where
  exclude := config.excludePatterns.map Glob.text

end Config
end ApiBlueprint

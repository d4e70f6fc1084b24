import ApiBlueprint.Config.Settings
import ApiBlueprint.Files.Tree

/-!
Finding the configuration files that hold in a working folder: one in the nearest folder above with
a `.git`, one in the working folder, and one that is named.
-/

namespace ApiBlueprint.Config

def fileName : Path := ⟨".apib.toml".toList⟩

def gitRoot? (tree : FileTree) (workingFolder : Path) : Option Path :=
  workingFolder.ancestors.find? fun folder => tree.contains (folder.join ⟨".git".toList⟩)

def candidates (tree : FileTree) (workingFolder : Path) : List LayerSource :=
  let above :=
    match gitRoot? tree workingFolder with
    | some root =>
      if root.same workingFolder then [] else [.ofFile .gitRoot (root.join fileName)]
    | none => []
  above ++ [.ofFile .workingFolder (workingFolder.join fileName)]

/-- Whether a candidate is a file other than the one that is named. -/
def counts (tree : FileTree) (named : Option Path) (source : LayerSource) : Bool :=
  source.path.any fun path => tree.isFile path && !named.any path.same

def discover (tree : FileTree) (workingFolder : Path) (named : Option Path) :
    Except ConfigError (List LayerSource) :=
  let named := named.map workingFolder.join
  let found := (candidates tree workingFolder).filter (counts tree named)
  match named with
  | none => .ok found
  | some path =>
    if tree.isFile path then .ok (found ++ [.ofFile .override path])
    else .error (.overrideMissing path)

def pushFile (tree : FileTree) (stack : LayerStack) (source : LayerSource) :
    Except ConfigError LayerStack :=
  let path := source.path.getD ⟨[]⟩
  match tree.read path with
  | .error fault => .error (.unreadable path fault)
  | .ok text => stack.push source text

/-- The configuration that holds in a working folder. The folder may be spelled in any way; a named
file is seen from it. -/
def load (tree : FileTree) (folder : Path) (named : Option Path) : Except ConfigError Config := do
  let workingFolder ← (tree.canonical folder).mapError (.workingFolder folder)
  let sources ← discover tree workingFolder named
  let stack ← sources.foldlM (pushFile tree) (.ofDefaults workingFolder)
  stack.resolve workingFolder

end ApiBlueprint.Config

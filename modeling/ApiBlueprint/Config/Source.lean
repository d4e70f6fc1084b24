import ApiBlueprint.Path.Basic

/-! Where the layers of a configuration come from. -/

namespace ApiBlueprint

inductive LayerKind where
  | defaults
  | gitRoot
  | workingFolder
  | override
  deriving DecidableEq, Repr

namespace LayerKind

def name : LayerKind → Text
  | defaults => "defaults".toList
  | gitRoot => "git-root config".toList
  | workingFolder => "local config".toList
  | override => "override config".toList

def rank : LayerKind → Nat
  | defaults => 0
  | gitRoot => 1
  | workingFolder => 2
  | override => 3

end LayerKind

/-- Relative paths in a layer are seen from `base`. -/
structure LayerSource where
  kind : LayerKind
  path : Option Path := none
  base : Path
  deriving DecidableEq, Repr

namespace LayerSource

def ofFile (kind : LayerKind) (path : Path) : LayerSource :=
  ⟨kind, some path, path.parent?.getD ⟨[OsText.point]⟩⟩

def describe (source : LayerSource) : Text :=
  match source.kind, source.path with
  | .defaults, _ => "built-in defaults".toList
  | kind, some path => kind.name ++ " at ".toList ++ path.text
  | kind, none => kind.name

end LayerSource
end ApiBlueprint

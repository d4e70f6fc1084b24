import ApiBlueprint.Files.FileSystem

/-! Documents kept by path, with a log of the paths written. -/

namespace ApiBlueprint

structure Store where
  files : List (Path × Text) := []
  writes : List Path := []
  deriving DecidableEq, Repr

namespace Store

/-- Puts a file into its place; an equal path keeps its spelling and gets the new contents. -/
def insertFile (path : Path) (text : Text) : List (Path × Text) → List (Path × Text)
  | [] => [(path, text)]
  | (other, held) :: rest =>
    if path.same other then (other, text) :: rest
    else if path.less other then (path, text) :: (other, held) :: rest
    else (other, held) :: insertFile path text rest

def insert (store : Store) (path : Path) (text : Text) : Store :=
  { store with files := insertFile path text store.files }

def ofList (files : List (Path × Text)) : Store :=
  files.foldl (fun store (path, text) => store.insert path text) {}

def find? (store : Store) (path : Path) : Option Text :=
  (store.files.find? fun file => file.1.same path).map Prod.snd

def read (store : Store) (path : Path) : Except CompileError Text :=
  match store.find? path with
  | some text => .ok text
  | none => .error (.file path .unregistered)

def write (store : Store) (path : Path) (text : Text) : Store :=
  let store := store.insert path text
  { store with writes := store.writes ++ [path] }

def glob (store : Store) (pattern : Text) (options : GlobOptions) :
    Except CompileError (List Path) := do
  let filter ← PathFilter.ofPatterns pattern options
  return (store.files.map Prod.fst).filter fun path =>
    (options.includeHidden || !path.isHidden) && filter.accepts path

def fileSystem : FileSystem Store where
  read := read
  write store path text := (.ok ⟨⟩, store.write path text)
  glob := glob

end Store
end ApiBlueprint

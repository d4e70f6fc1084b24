import ApiBlueprint.Path.OsText

/-!
Paths are kept as written; they are compared, ordered and taken apart by their components.
-/

namespace ApiBlueprint

open OsText (slash point)

inductive Component where
  | root
  | current
  | parent
  | name (bytes : OsText)
  deriving DecidableEq, Repr

structure Path where
  bytes : OsText
  deriving DecidableEq, Repr

namespace Component

def ofPiece (piece : OsText) : Component :=
  if piece = [point] then current
  else if piece = [point, point] then parent
  else name piece

def bytes : Component → OsText
  | root => [slash]
  | current => [point]
  | parent => [point, point]
  | name bytes => bytes

def rank : Component → Nat
  | root => 0
  | current => 1
  | parent => 2
  | name _ => 3

def less : Component → Component → Bool
  | name left, name right => left < right
  | left, right => left.rank < right.rank

end Component

namespace Path

def ofText (text : Text) : Path := ⟨text⟩

def text (path : Path) : Text := OsText.display path.bytes

def isAbsolute (path : Path) : Bool := path.bytes.head? = some slash
def isEmpty (path : Path) : Bool := path.bytes.isEmpty

/-- Components; empty pieces are skipped, and so are single dots except one at the start of a
relative path. -/
def components (path : Path) : List Component :=
  let pieces := (path.bytes.splitOn slash).filter (· ≠ [])
  if path.isAbsolute then
    .root :: (pieces.map Component.ofPiece).filter (· ≠ .current)
  else
    match pieces with
    | [] => []
    | first :: rest =>
      Component.ofPiece first :: (rest.map Component.ofPiece).filter (· ≠ .current)

def ofComponents : List Component → Path
  | .root :: rest => ⟨slash :: Text.joinWith [slash] (rest.map Component.bytes)⟩
  | components => ⟨Text.joinWith [slash] (components.map Component.bytes)⟩

def same (left right : Path) : Bool := left.components = right.components

def componentsLess : List Component → List Component → Bool
  | _, [] => false
  | [], _ :: _ => true
  | left :: lefts, right :: rights => left.less right || (left = right && componentsLess lefts rights)

def less (left right : Path) : Bool := componentsLess left.components right.components

def isFiller (piece : OsText) : Bool := piece.isEmpty || piece = [point]

/-- The path without its last component, spelled as in the path; the root and the empty path have no
parent. -/
def parent? (path : Path) : Option Path :=
  match path.components.getLast?, path.bytes.splitOn slash with
  | none, _ => none
  | some .root, _ => none
  | some _, [] => none
  | some _, first :: rest =>
    match rest.reverse.dropWhile isFiller with
    | [] => some ⟨[]⟩
    | _ :: above =>
      match (above.dropWhile isFiller).reverse with
      | [] => some ⟨if first.isEmpty then [slash] else first⟩
      | kept => some ⟨Text.joinWith [slash] (first :: kept)⟩

def ancestorsFrom : Nat → Path → List Path
  | 0, _ => []
  | fuel + 1, path =>
    path ::
      match path.parent? with
      | none => []
      | some parent => ancestorsFrom fuel parent

def ancestors (path : Path) : List Path := ancestorsFrom (path.bytes.length + 1) path

def fileName? (path : Path) : Option OsText :=
  match path.components.getLast? with
  | some (.name name) => some name
  | _ => none

/-- A file name split at its last point, unless the point comes first. -/
def splitExtension (name : OsText) : OsText × Option OsText :=
  match Text.splitLast (· = point) name with
  | none => (name, none)
  | some ([], _) => (name, none)
  | some (stem, extension) => (stem, some extension)

def stem? (path : Path) : Option OsText := path.fileName?.map fun name => (splitExtension name).1
def extension? (path : Path) : Option OsText := path.fileName? >>= fun name => (splitExtension name).2

def join (base path : Path) : Path :=
  if path.isAbsolute then path
  else if base.isEmpty || base.bytes.getLast? = some slash then ⟨base.bytes ++ path.bytes⟩
  else ⟨base.bytes ++ slash :: path.bytes⟩

/-- Adds a component to a path without `.` components, given from the last to the first. A `..`
takes away what stands before it. -/
def climb (above : List Component) (component : Component) : List Component :=
  match component with
  | .current => above
  | .root => [.root]
  | .name name => .name name :: above
  | .parent =>
    match above with
    | [] => [.parent]
    | [.root] => [.parent, .root]
    | _ :: rest => rest

def normalize (path : Path) : Path :=
  ofComponents (path.components.foldl climb []).reverse

/-- A component other than `.` and `..` that is a text and starts with a dot. -/
def isHidden (path : Path) : Bool :=
  path.components.any fun component =>
    match component with
    | .name name => (OsText.text? name).any (·.head? = some '.')
    | _ => false

def insert (path : Path) : List Path → List Path
  | [] => [path]
  | other :: rest =>
    if path.same other then other :: rest
    else if path.less other then path :: other :: rest
    else other :: insert path rest

def sorted (paths : List Path) : List Path := paths.foldl (fun kept path => insert path kept) []

end Path
end ApiBlueprint

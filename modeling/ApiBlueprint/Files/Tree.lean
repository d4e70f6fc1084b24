import ApiBlueprint.Files.Fault
import ApiBlueprint.Path.Basic

/-!
Folders with files, links and folders in them. Paths are walked from the root folder, name by name,
and links on the way are followed.
-/

namespace ApiBlueprint

open OsText (slash point)

inductive FileContents where
  | text (text : Text)
  | undecodable
  deriving DecidableEq, Repr

inductive FileTree where
  | file (contents : FileContents)
  | link (target : Path)
  | folder (entries : List (OsText × FileTree))
  deriving Repr

abbrev Location := List OsText

namespace FileTree

def lookup (entries : List (OsText × FileTree)) (name : OsText) : Option FileTree :=
  (entries.find? fun entry => entry.1 = name).map Prod.snd

/-- What stands at a location; links are not followed. -/
def at? : FileTree → Location → Option FileTree
  | tree, [] => some tree
  | folder entries, name :: rest => lookup entries name >>= fun tree => tree.at? rest
  | _, _ :: _ => none

def setEntry (entries : List (OsText × FileTree)) (name : OsText) (tree : FileTree) :
    List (OsText × FileTree) :=
  if (lookup entries name).isSome then
    entries.map fun entry => if entry.1 = name then (name, tree) else entry
  else entries ++ [(name, tree)]

def put (added : FileTree) : FileTree → Location → FileTree
  | _, [] => added
  | folder entries, name :: rest =>
    folder (setEntry entries name (put added ((lookup entries name).getD (folder [])) rest))
  | tree, _ :: _ => tree

def isFolderAt (tree : FileTree) (location : Location) : Bool :=
  match tree.at? location with
  | some (folder _) => true
  | _ => false

def longestName : Nat := 255
def longestPath : Nat := 4095
def mostLinks : Nat := 40

/-- Walks from a location along the pieces of a path. At most `links` links are followed; one in the
last place is so only if `followLast` says so. -/
def walk (tree : FileTree) (followLast : Bool) (links : Nat) (here : Location) (pieces : List OsText) :
    Except FileFault Location :=
  match pieces with
  | [] => .ok here
  | piece :: rest =>
    match tree.at? here with
    | some (folder entries) =>
      if Path.isFiller piece then walk tree followLast links here rest
      else if piece = [point, point] then walk tree followLast links here.dropLast rest
      else if longestName < piece.length then .error .nameTooLong
      else
        match lookup entries piece with
        | none => .error .notFound
        | some (link target) =>
          if rest.isEmpty && !followLast then .ok (here ++ [piece])
          else
            match links with
            | 0 => .error .tooManyLinks
            | links + 1 =>
              walk tree followLast links (if target.isAbsolute then [] else here)
                (target.bytes.splitOn slash ++ rest)
        | some _ => walk tree followLast links (here ++ [piece]) rest
    | _ => .error .notFolder
  termination_by (links, pieces.length)

def checkPath (path : Path) : Except FileFault Unit :=
  if path.bytes.contains 0 then .error .zeroCharacter
  else if path.isEmpty then .error .notFound
  else if longestPath < path.bytes.length then .error .nameTooLong
  else .ok ⟨⟩

def locate (tree : FileTree) (path : Path) (followLast : Bool) : Except FileFault Location := do
  checkPath path
  tree.walk followLast mostLinks [] (path.bytes.splitOn slash)

def find (tree : FileTree) (path : Path) (followLast : Bool) : Except FileFault FileTree := do
  match tree.at? (← tree.locate path followLast) with
  | some found => return found
  | none => throw .notFound

def contains (tree : FileTree) (path : Path) : Bool := (tree.find path true).isOk

def isFile (tree : FileTree) (path : Path) : Bool :=
  match tree.find path true with
  | .ok (file _) => true
  | _ => false

def isFolder (tree : FileTree) (path : Path) : Bool :=
  match tree.find path true with
  | .ok (folder _) => true
  | _ => false

def read (tree : FileTree) (path : Path) : Except FileFault Text := do
  match ← tree.find path true with
  | file (.text text) => return text
  | file .undecodable => throw .notUtf8
  | folder _ => throw .isFolder
  | link _ => throw .notFound

def pathTo (location : Location) : Path := ⟨slash :: Text.joinWith [slash] location⟩

def canonical (tree : FileTree) (path : Path) : Except FileFault Path := do
  return pathTo (← tree.locate path true)

/-- Whether a name starts with a dot; it need not be a text. -/
def isHiddenName (name : OsText) : Bool := (OsText.display name).head? = some '.'

mutual

/-- The locations of the files in a tree. Links are not followed, and names that start with a dot are
passed over unless `hidden` says otherwise. -/
def files (hidden : Bool) : FileTree → List Location
  | file _ => [[]]
  | link _ => []
  | folder entries => filesBelow hidden entries

def filesBelow (hidden : Bool) : List (OsText × FileTree) → List Location
  | [] => []
  | (name, tree) :: rest =>
    (if hidden || !isHiddenName name then (files hidden tree).map (name :: ·) else []) ++
      filesBelow hidden rest

end

structure PathEnd where
  before : List OsText
  last : OsText
  slash : Bool

def pathEnd? (path : Path) : Option PathEnd :=
  let pieces := (path.bytes.splitOn slash).reverse
  match pieces.dropWhile List.isEmpty with
  | [] => none
  | last :: before => some ⟨before.reverse, last, pieces.head?.any List.isEmpty⟩

def isEntryName (piece : OsText) : Bool := piece ≠ [point] && piece ≠ [point, point]

def folderBefore (tree : FileTree) (pathEnd : PathEnd) : Except FileFault Location := do
  let location ← tree.walk true mostLinks [] pathEnd.before
  if tree.isFolderAt location then return location else throw .notFolder

def makeFolder (tree : FileTree) (path : Path) : Except FileFault FileTree := do
  checkPath path
  match pathEnd? path with
  | none => throw .alreadyExists
  | some pathEnd => do
    let location ← tree.folderBefore pathEnd
    if !isEntryName pathEnd.last then throw .alreadyExists
    if longestName < pathEnd.last.length then throw .nameTooLong
    if (tree.at? (location ++ [pathEnd.last])).isSome then throw .alreadyExists
    return put (folder []) tree (location ++ [pathEnd.last])

/-- Makes a folder and the folders above it that are missing; the path comes first, then its parents.
Folders made before a fault stay. -/
def makeFolders (tree : FileTree) : List Path → Except FileFault Unit × FileTree
  | [] => (.ok ⟨⟩, tree)
  | path :: above =>
    let finish (tree : FileTree) (fault : FileFault) : Except FileFault Unit × FileTree :=
      if tree.isFolder path then (.ok ⟨⟩, tree) else (.error fault, tree)
    match tree.makeFolder path with
    | .ok tree => (.ok ⟨⟩, tree)
    | .error .notFound =>
      match makeFolders tree above with
      | (.error fault, tree) => (.error fault, tree)
      | (.ok _, tree) =>
        match tree.makeFolder path with
        | .ok tree => (.ok ⟨⟩, tree)
        | .error fault => finish tree fault
    | .error fault => finish tree fault

/-- Puts a file where a path leads; a file or a link there is replaced. -/
def placeFile (tree : FileTree) (path : Path) (contents : FileContents) : Except FileFault FileTree := do
  checkPath path
  match pathEnd? path with
  | none => throw .busy
  | some pathEnd => do
    let location ← tree.folderBefore pathEnd
    if !isEntryName pathEnd.last then throw .busy
    if longestName < pathEnd.last.length then throw .nameTooLong
    if pathEnd.slash then throw .notFolder
    let target := location ++ [pathEnd.last]
    if tree.isFolderAt target then throw .isFolder
    return put (file contents) tree target

def write (tree : FileTree) (path : Path) (text : Text) : Except FileFault Unit × FileTree :=
  let parent : Path :=
    match path.parent? with
    | some parent => if parent.isEmpty then ⟨[point]⟩ else parent
    | none => ⟨[point]⟩
  match tree.makeFolders parent.ancestors with
  | (.error fault, tree) => (.error fault, tree)
  | (.ok _, tree) =>
    match tree.placeFile path (.text text) with
    | .ok tree => (.ok ⟨⟩, tree)
    | .error fault => (.error fault, tree)

def graft (tree : FileTree) (path : Path) (added : FileTree) : FileTree :=
  let above := (path.parent?.getD path).ancestors
  added.put (tree.makeFolders above).2 ((path.bytes.splitOn slash).filter fun piece => !Path.isFiller piece)

def changes (before after : FileTree) : List (Location × Text) :=
  (after.files true).filterMap fun location =>
    match before.at? location, after.at? location with
    | some (file held), some (file (.text text)) =>
      if held = .text text then none else some (location, text)
    | _, some (file (.text text)) => some (location, text)
    | _, _ => none

end FileTree
end ApiBlueprint

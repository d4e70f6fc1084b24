import ApiBlueprint.CommandLine.Run

/-!
The program. It takes a picture of the folders that a command may look into, runs the command on the
picture and writes the files that are different afterwards.
-/

namespace ApiBlueprint.Program

def contentsOf (bytes : ByteArray) : FileContents :=
  match String.fromUTF8? bytes with
  | some text => .text text.toList
  | none => .undecodable

/-- What stands in a folder under a name; nothing if it is missing or cannot be read. -/
partial def look (entry : IO.FS.DirEntry) : IO (Option FileTree) := do
  try
    match (← entry.path.symlinkMetadata).type with
    | .file => return some (.file (contentsOf (← IO.FS.readBinFile entry.path)))
    | .dir =>
      let inner ← (← entry.path.readDir).toList.filterMapM fun entry => do
        return (← look entry).map fun tree => ((entry.fileName.toList : OsText), tree)
      return some (.folder inner)
    | .symlink =>
      let target ← IO.FS.realPath entry.path
      return some (.link ⟨target.toString.toList⟩)
    | .other => return none
  catch _ => return none

def textOf (path : Path) : String := String.ofList path.text

def addTo (tree : FileTree) (path : Path) : IO FileTree := do
  match path.parent?, path.fileName? with
  | some parent, some name =>
    match ← look { root := textOf parent, fileName := String.ofList (OsText.display name) } with
    | some added => return tree.graft path added
    | none => return tree
  | _, _ =>
    match ← look { root := textOf path, fileName := "." } with
    | some added => return added
    | none => return tree

def addGit (tree : FileTree) (folder : Path) : IO FileTree := do
  let path := folder.join ⟨".git".toList⟩
  match ← (try some <$> IO.FS.realPath (textOf path) catch _ => pure none) with
  | some _ => return tree.graft path (.folder [])
  | none => return tree

def configPicture (folder : Path) (named : Option Path) : IO FileTree := do
  let (_, start) := (FileTree.folder []).makeFolders folder.ancestors
  let marked ← folder.ancestors.foldlM addGit start
  let tree ← (folder.ancestors.map (Path.join · Config.fileName)).foldlM addTo marked
  named.toList.foldlM (fun tree path => addTo tree (folder.join path)) tree

def namedPaths : Command → List Path
  | .compile paths _ => paths
  | .parse path => [path]
  | .dist source target => source :: target.toList
  | .glob _ => []

def commandPicture (folder : Path) (invocation : Invocation) : IO FileTree := do
  let tree ← configPicture folder invocation.config
  match Config.load tree folder invocation.config with
  | .error _ => return tree
  | .ok config =>
    let tree ← addTo tree config.project.root
    ((namedPaths invocation.command).map config.project.resolve).foldlM addTo tree

/-- Writes a file through a file beside it. -/
def save (change : Location × Text) : IO Unit := do
  let target := textOf (FileTree.pathTo change.1)
  IO.FS.createDirAll (textOf (FileTree.pathTo change.1.dropLast))
  IO.FS.writeFile (target ++ ".apib-new") (String.ofList change.2)
  IO.FS.rename (target ++ ".apib-new") target

def randomGenerator : IO Generator := do
  let bytes ← IO.getRandomBytes 8
  return .seeded (bytes.foldl (fun seed byte => seed * 256 + byte.toUInt64) 0)

end ApiBlueprint.Program

open ApiBlueprint ApiBlueprint.Program in
def main (arguments : List String) : IO UInt32 := do
  let arguments := arguments.map fun argument => Text.bytes argument.toList
  let folder : Path := ⟨(← IO.currentDir).toString.toList⟩
  let tree ←
    match Request.ofArguments arguments with
    | .run invocation => commandPicture folder invocation
    | _ => pure (.folder [])
  let outcome := runProgram arguments tree folder (← randomGenerator)
  (tree.changes outcome.tree).forM save
  IO.print (String.ofList outcome.output)
  IO.eprint (String.ofList outcome.error)
  return UInt32.ofNat outcome.code

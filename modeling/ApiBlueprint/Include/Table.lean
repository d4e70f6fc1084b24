import ApiBlueprint.Include.Expand

/-! A table of documents under normalized locations, and the loader that looks links up in it. -/

namespace ApiBlueprint

structure IncludeTable where
  entries : List (Path × Text) := []
  deriving DecidableEq, Repr

namespace IncludeTable

/-- Puts a document under the location of a link; a later document replaces an earlier one. -/
def insert (table : IncludeTable) (link text : Text) : IncludeTable :=
  let location := Path.normalize ⟨link⟩
  ⟨(location, text) :: table.entries.filter fun entry => entry.1 ≠ location⟩

def ofList (entries : List (Text × Text)) : IncludeTable :=
  entries.foldl (fun table (link, text) => table.insert link text) {}

def find? (table : IncludeTable) (location : Path) : Option Text :=
  (table.entries.find? fun entry => entry.1 = location).map Prod.snd

def loader (table : IncludeTable) : Loader := fun link base =>
  let location := Transclusion.locate link base
  match table.find? location with
  | some text => .ok ⟨location, text⟩
  | none => .error ("no document registered at ".toList ++ location.text)

end IncludeTable
end ApiBlueprint

import ApiBlueprint.Files.Store

/-! What a write changes in a store: the contents under its path and the log, and nothing else. -/

namespace ApiBlueprint

theorem Path.same_comm (left right : Path) : left.same right = right.same left := by
  simp only [same, eq_comm]

namespace Store

def otherFiles (path : Path) (files : List (Path × Text)) : List (Path × Text) :=
  files.filter fun file => !file.1.same path

theorem find?_insertFile (path : Path) (text : Text) (files : List (Path × Text)) :
    ((insertFile path text files).find? fun file => file.1.same path).map Prod.snd = some text := by
  have self : path.same path = true := by simp [Path.same]
  induction files with
  | nil => simp [insertFile, self]
  | cons file rest ih =>
    obtain ⟨other, held⟩ := file
    simp only [insertFile]
    split
    case isTrue equal =>
      rw [Path.same_comm] at equal
      simp [equal]
    case isFalse different =>
      rw [Path.same_comm, Bool.not_eq_true] at different
      split
      case isTrue => simp [self]
      case isFalse => simpa [different] using ih

theorem otherFiles_insertFile (path : Path) (text : Text) (files : List (Path × Text)) :
    otherFiles path (insertFile path text files) = otherFiles path files := by
  have self : path.same path = true := by simp [Path.same]
  induction files with
  | nil => simp [insertFile, otherFiles, self]
  | cons file rest ih =>
    obtain ⟨other, held⟩ := file
    simp only [insertFile]
    split
    case isTrue equal =>
      rw [Path.same_comm] at equal
      simp [otherFiles, equal]
    case isFalse =>
      split
      case isTrue => simp [otherFiles, self]
      case isFalse =>
        simp only [otherFiles, List.filter_cons] at ih ⊢
        rw [ih]

/-- The second store comes from the first by one write. -/
structure Wrote (before : Store) (path : Path) (text : Text) (after : Store) : Prop where
  logged : after.writes = before.writes ++ [path]
  contents : after.find? path = some text
  others : otherFiles path after.files = otherFiles path before.files

theorem wrote_write (store : Store) (path : Path) (text : Text) :
    Wrote store path text (store.write path text) where
  logged := rfl
  contents := find?_insertFile path text store.files
  others := otherFiles_insertFile path text store.files

end Store
end ApiBlueprint

import ApiBlueprint.Include.Expand
import ApiBlueprint.Proofs.Path.Rise

/-! The place that a link denotes, which is where its path leads, and the location it is kept under. -/

namespace ApiBlueprint.Transclusion

def linked (link : Text) (base : Option Path) : Path :=
  match base with
  | some base => base.join ⟨link⟩
  | none => ⟨link⟩

theorem locate_eq (link : Text) (base : Option Path) : locate link base = (linked link base).normalize := by
  cases base <;> rfl

/-- A normalized path leads to the same place as the relative path itself exactly if that leads up one
folder at most. Two links have the same location exactly if they lead down by the same names, and up by
numbers of folders that are both even or both odd; then they denote the same place if neither leads up
more than one. -/
theorem locate_keeps_place_iff (path otherPath : Path) (relative : path.isAbsolute = false)
    (otherRelative : otherPath.isAbsolute = false) :
    (∀ folder : List OsText, path.components.count .parent ≤ folder.length →
      (path.normalize.walkFrom folder = path.walkFrom folder ↔ path.rise ≤ 1)) ∧
    ∀ (link other : Text) (base otherBase : Option Path), linked link base = path →
      linked other otherBase = otherPath →
        ((locate link base).same (locate other otherBase) = true ↔
          path.rise % 2 = otherPath.rise % 2 ∧ path.descent = otherPath.descent) ∧
        (path.rise ≤ 1 → otherPath.rise ≤ 1 → (locate link base).same (locate other otherBase) = true →
          ∀ folder, path.walkFrom folder = otherPath.walkFrom folder) := by
  constructor
  · exact fun folder deep => Path.normalize_walkFrom_iff relative deep
  · rintro link other base otherBase rfl rfl
    have kept : (locate link base).same (locate other otherBase) = true ↔
        (linked link base).rise % 2 = (linked other otherBase).rise % 2 ∧
          (linked link base).descent = (linked other otherBase).descent := by
      rw [locate_eq, locate_eq]
      exact Path.normalize_same_iff_descent relative otherRelative
    refine ⟨kept, fun low otherLow same folder => ?_⟩
    obtain ⟨parity, down⟩ := kept.mp same
    rw [Nat.mod_eq_of_lt (Nat.lt_succ_of_le low), Nat.mod_eq_of_lt (Nat.lt_succ_of_le otherLow)] at parity
    rw [Path.walkFrom_eq relative, Path.walkFrom_eq otherRelative, parity, down]

/-- Two folders up is kept under the location of no folder up; one folder up may be spelled in two ways. -/
theorem locate_keeps_place_iff_twoUp :
    let up : Path := ⟨"../../x".toList⟩
    let here : Path := ⟨"x".toList⟩
    let folder : List OsText := ["a".toList, "b".toList]
    let around : Path := linked "n/../../x".toList none
    let beside : Path := linked ['x'] (some ⟨"./..".toList⟩)
    (up.components.count .parent ≤ folder.length ∧ up.normalize.walkFrom folder ≠ up.walkFrom folder) ∧
      ((locate "../../x".toList none).same (locate ['x'] none) = true ∧
        up.walkFrom folder ≠ here.walkFrom folder) ∧
      (locate "n/../../x".toList none).same (locate ['x'] (some ⟨"./..".toList⟩)) = true ∧
        around.walkFrom folder = beside.walkFrom folder := by
  intro up here folder around beside
  obtain ⟨walks, links⟩ := locate_keeps_place_iff up here rfl rfl
  have deep : up.components.count .parent ≤ folder.length := by decide
  have high : ¬ up.rise ≤ 1 := by decide
  have moved := mt (walks folder deep).mp high
  obtain ⟨kept, -⟩ := links "../../x".toList ['x'] none none rfl rfl
  obtain ⟨-, spellings⟩ := locate_keeps_place_iff around beside rfl rfl
  obtain ⟨-, placed⟩ := spellings "n/../../x".toList ['x'] none (some ⟨"./..".toList⟩) rfl rfl
  have same : (locate "n/../../x".toList none).same (locate ['x'] (some ⟨"./..".toList⟩)) = true := by decide
  exact ⟨⟨deep, moved⟩, ⟨kept.mpr (by decide), by decide⟩, same, placed (by decide) (by decide) same folder⟩

end ApiBlueprint.Transclusion

import ApiBlueprint.Path.Basic
import Mathlib.Data.List.Lex
import Mathlib.Data.List.Sort
import Mathlib.Data.Prod.Lex

/-!
Paths are ordered as the lists of their components. Sorting lists each of them once in this order, so
it gives the same list for any two lists that hold the same paths.
-/

namespace ApiBlueprint

instance byteOrder : LinearOrder UInt8 where
  le_refl := UInt8.le_refl
  le_trans _ _ _ := UInt8.le_trans
  lt_iff_le_not_ge _ _ := by
    rw [UInt8.not_le]
    exact ⟨fun less => ⟨UInt8.le_of_lt less, less⟩, And.right⟩
  le_antisymm _ _ := UInt8.le_antisymm
  le_total := UInt8.le_total
  toDecidableLE := inferInstance

/-- What a component is ordered by: its rank, and its bytes if it is a name. -/
def Component.sortKey (component : Component) : Nat ×ₗ OsText :=
  match component with
  | .name bytes => toLex (component.rank, bytes)
  | _ => toLex (component.rank, [])

theorem Component.less_iff {left right : Component} :
    left.less right = true ↔ left.sortKey < right.sortKey := by
  cases left <;> cases right <;> simp [less, sortKey, rank, Prod.Lex.toLex_lt_toLex]

theorem Component.sortKey_injective : Function.Injective Component.sortKey := by
  intro left right
  cases left <;> cases right <;> simp [sortKey, rank]

namespace Path

theorem componentsLess_iff {left right : List Component} :
    componentsLess left right = true ↔
      left.map Component.sortKey < right.map Component.sortKey := by
  induction left generalizing right with
  | nil => cases right <;> simp [componentsLess]
  | cons first rest ih =>
    cases right with
    | nil => simp [componentsLess]
    | cons other more =>
      simp only [componentsLess, Bool.or_eq_true, Bool.and_eq_true, decide_eq_true_eq, List.map_cons,
        List.cons_lt_cons_iff, Component.less_iff, ih, Component.sortKey_injective.eq_iff]

def sortKeys (path : Path) : List (Nat ×ₗ OsText) := path.components.map Component.sortKey

theorem less_iff {left right : Path} : left.less right = true ↔ left.sortKeys < right.sortKeys :=
  componentsLess_iff

theorem same_iff {left right : Path} : left.same right = true ↔ left.sortKeys = right.sortKeys := by
  unfold same sortKeys
  rw [decide_eq_true_iff, (List.map_injective_iff.mpr Component.sortKey_injective).eq_iff]

/-- Each path comes before all paths behind it. -/
def Rises (paths : List Path) : Prop := paths.Pairwise fun left right => left.less right = true

theorem Rises.nodup_sortKeys {paths : List Path} (rising : Rises paths) :
    (paths.map sortKeys).Nodup := by
  apply List.pairwise_map.mpr
  apply rising.imp
  intro first second before
  rw [less_iff] at before
  exact ne_of_lt before

theorem Rises.eq_of_mem_iff {left right : List Path} (rising : Rises left) (other : Rises right)
    (members : ∀ path, path ∈ left ↔ path ∈ right) : left = right := by
  have asymmetric (first second : Path) (before : first.less second = true)
      (behind : second.less first = true) : first = second := by
    rw [less_iff] at before behind
    exact absurd before behind.asymm
  have distinct := rising.nodup_sortKeys.of_map sortKeys
  have distinct' := other.nodup_sortKeys.of_map sortKeys
  have permuted := (List.perm_ext_iff_of_nodup distinct distinct').mpr members
  exact permuted.eq_of_pairwise (fun first second _ _ => asymmetric first second) rising other

theorem Rises.eq_of_same {paths : List Path} (rising : Rises paths) {left right : Path}
    (inLeft : left ∈ paths) (inRight : right ∈ paths) (same : left.same right = true) :
    left = right :=
  List.inj_on_of_nodup_map rising.nodup_sortKeys inLeft inRight (same_iff.mp same)

theorem mem_of_mem_insert {path other : Path} {paths : List Path} (member : other ∈ insert path paths) :
    other = path ∨ other ∈ paths := by
  induction paths with
  | nil => exact .inl (List.mem_singleton.mp member)
  | cons held rest ih =>
    simp only [insert] at member
    split at member
    · exact .inr member
    · split at member
      · exact List.mem_cons.mp member
      · rcases List.mem_cons.mp member with rfl | later
        · exact .inr List.mem_cons_self
        · exact (ih later).imp_right (List.mem_cons_of_mem held)

theorem Rises.insert {paths : List Path} (rising : Rises paths) (path : Path) :
    Rises (insert path paths) := by
  induction paths with
  | nil => exact List.pairwise_singleton _ _
  | cons held rest ih =>
    obtain ⟨first, more⟩ := List.pairwise_cons.mp rising
    simp only [Path.insert]
    split
    case isTrue => exact rising
    case isFalse different =>
      rw [same_iff] at different
      split
      case isTrue less =>
        refine List.pairwise_cons.mpr ⟨?_, rising⟩
        intro other member
        rcases List.mem_cons.mp member with rfl | later
        · exact less
        · have behind := first other later
          rw [less_iff] at less behind ⊢
          exact less.trans behind
      case isFalse notLess =>
        refine List.pairwise_cons.mpr ⟨?_, ih more⟩
        intro other member
        rcases mem_of_mem_insert member with rfl | later
        · rw [less_iff] at notLess ⊢
          exact lt_of_le_of_ne (not_lt.mp notLess) (Ne.symm different)
        · exact first other later

theorem sorted_rises (paths : List Path) : Rises (sorted paths) := by
  have inserted (kept : List Path) (rising : Rises kept) :
      Rises (paths.foldl (fun kept path => insert path kept) kept) := by
    induction paths generalizing kept with
    | nil => exact rising
    | cons path rest ih => exact ih _ (rising.insert path)
  exact inserted [] List.Pairwise.nil

theorem subset_insert (path : Path) (paths : List Path) : paths ⊆ insert path paths := by
  induction paths with
  | nil => exact List.nil_subset _
  | cons held rest ih =>
    simp only [insert]
    split
    · exact List.Subset.refl _
    · split
      · exact List.subset_cons_self _ _
      · exact List.cons_subset_cons held ih

/-- A path that is inserted is there in some spelling. -/
theorem exists_same_insert (path : Path) (paths : List Path) :
    ∃ other ∈ insert path paths, path.same other = true := by
  have self : path.same path = true := by simp [same]
  induction paths with
  | nil => exact ⟨path, by simp [insert], self⟩
  | cons held rest ih =>
    simp only [insert]
    split
    case isTrue equal => exact ⟨held, List.mem_cons_self, equal⟩
    case isFalse =>
      split
      case isTrue => exact ⟨path, List.mem_cons_self, self⟩
      case isFalse =>
        obtain ⟨other, inside, equal⟩ := ih
        exact ⟨other, List.mem_cons_of_mem held inside, equal⟩

theorem foldl_insert_subset (paths kept : List Path) :
    paths.foldl (fun kept path => insert path kept) kept ⊆ paths ++ kept := by
  induction paths generalizing kept with
  | nil => exact List.Subset.refl _
  | cons path rest ih =>
    intro other member
    rcases List.mem_append.mp (ih _ member) with later | here
    · exact List.mem_append_left _ (List.mem_cons_of_mem path later)
    · rcases mem_of_mem_insert here with rfl | earlier
      · exact List.mem_append_left _ List.mem_cons_self
      · exact List.mem_append_right _ earlier

theorem subset_foldl_insert (paths kept : List Path) :
    kept ⊆ paths.foldl (fun kept path => insert path kept) kept := by
  induction paths generalizing kept with
  | nil => exact List.Subset.refl _
  | cons path rest ih => exact List.Subset.trans (subset_insert path kept) (ih _)

theorem sorted_subset (paths : List Path) : sorted paths ⊆ paths := by
  have within := foldl_insert_subset paths []
  rwa [List.append_nil] at within

theorem exists_same_sorted {paths : List Path} {path : Path} (member : path ∈ paths) :
    ∃ other ∈ sorted paths, path.same other = true := by
  have found (kept : List Path) :
      ∃ other ∈ paths.foldl (fun kept path => insert path kept) kept, path.same other = true := by
    induction paths generalizing kept with
    | nil => contradiction
    | cons first rest ih =>
      rcases List.mem_cons.mp member with rfl | later
      · obtain ⟨other, inside, equal⟩ := exists_same_insert path kept
        exact ⟨other, subset_foldl_insert rest _ inside, equal⟩
      · exact ih later _
  exact found []

section Members

variable {path other : Path} {paths kept : List Path}

/-- Two spellings of one path are one member, so a path gets in if it is spelled in only one way. -/
theorem mem_insert (distinct : ∀ held ∈ paths, path.same held = true → path = held) :
    other ∈ insert path paths ↔ other = path ∨ other ∈ paths := by
  induction paths with
  | nil => simp [insert]
  | cons held rest ih =>
    simp only [insert]
    split
    case isTrue equal =>
      obtain rfl := distinct held List.mem_cons_self equal
      exact (or_iff_right_of_imp fun same => same ▸ List.mem_cons_self).symm
    case isFalse =>
      split
      case isTrue => exact List.mem_cons
      case isFalse =>
        rw [List.mem_cons, ih fun held member => distinct held (List.mem_cons_of_mem _ member),
          List.mem_cons]
        exact or_left_comm

theorem mem_foldl_insert
    (distinct : ∀ left ∈ paths ++ kept, ∀ right ∈ paths ++ kept, left.same right = true → left = right) :
    other ∈ paths.foldl (fun kept path => insert path kept) kept ↔ other ∈ paths ∨ other ∈ kept := by
  induction paths generalizing kept with
  | nil => simp
  | cons path rest ih =>
    have here (other : Path) : other ∈ insert path kept ↔ other = path ∨ other ∈ kept :=
      mem_insert fun held member => distinct path (by simp) held (by simp [member])
    rw [List.foldl_cons, ih, here, List.mem_cons]
    · tauto
    · intro left leftIn right rightIn
      apply distinct
      · simpa [here, or_left_comm] using leftIn
      · simpa [here, or_left_comm] using rightIn

theorem mem_sorted
    (distinct : ∀ left ∈ paths, ∀ right ∈ paths, left.same right = true → left = right) :
    other ∈ sorted paths ↔ other ∈ paths := by
  unfold sorted
  rw [mem_foldl_insert (by simpa using distinct)]
  simp

end Members

end Path
end ApiBlueprint

import ApiBlueprint.Proofs.Path.Normal
import Mathlib.Data.List.DropRight

/-!
Walking along a path from a folder, name by name. A relative path leads up some folders and then down by
the names that no `..` takes away. Its normalized form leads down by the same names, but up only by none
or one: there a second `..` at the start takes away the first.
-/

namespace ApiBlueprint

open OsText (slash point)

namespace Component

/-- The folder that a component leads to from a folder, both given by the names from the top down. -/
def follow (folder : List OsText) : Component → List OsText
  | root => []
  | current => folder
  | parent => folder.dropLast
  | name text => folder ++ [text]

/-- How many folders up the components lead before they lead down. -/
def rise : List Component → Nat
  | [] => 0
  | parent :: rest => rise rest + 1
  | name _ :: rest => rise rest - 1
  | _ :: rest => rise rest

/-- The names that no `..` behind them takes away. -/
def descent : List Component → List OsText
  | [] => []
  | name text :: rest => if rise rest = 0 then text :: descent rest else descent rest
  | _ :: rest => descent rest

theorem rise_le_count (components : List Component) : rise components ≤ components.count .parent := by
  fun_induction rise components with
  | case1 => exact Nat.le_refl 0
  | case2 rest ih =>
    rw [List.count_cons_self]
    exact Nat.succ_le_succ ih
  | case3 text rest ih =>
    rw [List.count_cons_of_ne (by simp)]
    exact (Nat.sub_le _ 1).trans ih
  | case4 component rest notParent notName ih =>
    rw [List.count_cons_of_ne (by simpa using notParent)]
    exact ih

theorem rdrop_dropLast (folder : List OsText) (n : Nat) : folder.dropLast.rdrop n = folder.rdrop (n + 1) := by
  rcases List.eq_nil_or_concat' folder with rfl | ⟨front, last, rfl⟩
  · simp
  · rw [List.dropLast_concat, List.rdrop_concat_succ]

theorem not_mem_of_cons {component : Component} {rest : List Component}
    (relative : .root ∉ component :: rest) : .root ≠ component ∧ .root ∉ rest :=
  not_or.mp (mt List.mem_cons.mpr relative)

/-- By induction along the components: what is left of the folder, and the names behind it. -/
theorem foldl_follow {components : List Component} (relative : .root ∉ components) (folder : List OsText) :
    components.foldl follow folder = folder.rdrop (rise components) ++ descent components := by
  induction components generalizing folder with
  | nil => simp [rise, descent]
  | cons component rest ih =>
    obtain ⟨notRoot, later⟩ := not_mem_of_cons relative
    rw [List.foldl_cons, ih later]
    cases component with
    | root => contradiction
    | current => rfl
    | parent =>
      change folder.dropLast.rdrop (rise rest) ++ descent rest = folder.rdrop (rise rest + 1) ++ descent rest
      rw [rdrop_dropLast]
    | name text =>
      rw [follow, rise, descent]
      cases rise rest with
      | zero => simp
      | succ n => simp

def stacked (up : Nat) (names : List OsText) : List Component :=
  List.replicate up .parent ++ names.map .name

theorem stacked_concat (up : Nat) (names : List OsText) (text : OsText) :
    stacked up (names ++ [text]) = stacked up names ++ [.name text] := by
  simp [stacked]

theorem climb_parent_of_concat (up : Nat) (names : List OsText) (text : OsText) :
    Path.climb (stacked up (names ++ [text])).reverse .parent = (stacked up names).reverse := by
  rw [stacked_concat, List.reverse_append]
  rfl

theorem stacked_inj {up up' : Nat} {names names' : List OsText} :
    stacked up names = stacked up' names' ↔ up = up' ∧ names = names' := by
  have counted (up : Nat) (names : List OsText) : (stacked up names).count .parent = up := by
    rw [stacked, List.count_append, List.count_replicate_self, List.count_eq_zero.mpr (by simp), Nat.add_zero]
  constructor
  · intro equal
    obtain rfl : up = up' := by rw [← counted up names, equal, counted]
    have named : Function.Injective name := fun _ _ same => name.inj same
    exact ⟨rfl, named.list_map (List.append_cancel_left equal)⟩
  · rintro ⟨rfl, rfl⟩
    rfl

theorem foldl_follow_stacked (up : Nat) (names folder : List OsText) :
    (stacked up names).foldl follow folder = folder.rdrop up ++ names := by
  have down (folder : List OsText) : (names.map name).foldl follow folder = folder ++ names := by
    induction names generalizing folder with
    | nil => simp
    | cons text names ih => rw [List.map_cons, List.foldl_cons, ih, follow, List.append_assoc]; rfl
  rw [stacked, List.foldl_append, down]
  congr 1
  induction up generalizing folder with
  | zero => exact (List.rdrop_zero _).symm
  | succ up ih => rw [List.replicate_succ, List.foldl_cons, ih, follow, rdrop_dropLast]

theorem climb_parent_of_nil {up : Nat} (atMost : up ≤ 1) :
    Path.climb (stacked up []).reverse .parent = (stacked ((up + 1) % 2) []).reverse := by
  rcases Nat.le_one_iff_eq_zero_or_eq_one.mp atMost with rfl | rfl <;> rfl

/-- By induction along the components: what they make of a stack with at most one `..`. -/
theorem foldl_climb {components : List Component} (relative : .root ∉ components) {up : Nat}
    (atMost : up ≤ 1) (names : List OsText) :
    components.foldl Path.climb (stacked up names).reverse =
      (stacked ((up + (rise components - names.length)) % 2)
        (names.rdrop (rise components) ++ descent components)).reverse := by
  induction components generalizing up names with
  | nil =>
    have small : up % 2 = up := Nat.mod_eq_of_lt (Nat.lt_succ_of_le atMost)
    simp [rise, descent, small]
  | cons component rest ih =>
    obtain ⟨notRoot, later⟩ := not_mem_of_cons relative
    rw [List.foldl_cons]
    cases component with
    | root => contradiction
    | current => exact ih later atMost names
    | parent =>
      change _ = (stacked ((up + (rise rest + 1 - names.length)) % 2)
        (names.rdrop (rise rest + 1) ++ descent rest)).reverse
      rcases List.eq_nil_or_concat' names with rfl | ⟨front, last, rfl⟩
      · have less : (up + 1) % 2 ≤ 1 := Nat.le_of_lt_succ (Nat.mod_lt _ Nat.two_pos)
        have parity : ((up + 1) % 2 + rise rest) % 2 = (up + (rise rest + 1)) % 2 := by omega
        rw [climb_parent_of_nil atMost, ih later less]
        simp [parity]
      · rw [climb_parent_of_concat, ih later atMost, List.rdrop_concat_succ, List.length_append,
          List.length_singleton, Nat.add_sub_add_right]
    | name text =>
      have pushed : Path.climb (stacked up names).reverse (.name text) =
          (stacked up (names ++ [text])).reverse := by
        rw [stacked_concat, List.reverse_append]
        rfl
      rw [pushed, ih later atMost, rise, descent]
      cases rise rest with
      | zero => simp
      | succ n => simp

end Component

namespace Path

def walkFrom (folder : List OsText) (path : Path) : List OsText := path.components.foldl Component.follow folder

def rise (path : Path) : Nat := Component.rise path.components

def descent (path : Path) : List OsText := Component.descent path.components

section Relative

variable {path : Path} (relative : path.isAbsolute = false)

include relative

theorem root_not_mem_components : .root ∉ path.components := by
  intro member
  cases split : path.pieces with
  | nil =>
    unfold pieces at split
    simp only [components, relative, Bool.false_eq_true, if_false, split, List.not_mem_nil] at member
  | cons first rest =>
    rw [components_of_relative relative split] at member
    rcases List.mem_cons.mp member with same | later
    · exact Component.ofPiece_ne_root first same.symm
    · obtain ⟨text, -, same⟩ := List.mem_map.mp (List.mem_filter.mp later).1
      exact Component.ofPiece_ne_root text same

theorem walkFrom_eq (folder : List OsText) : path.walkFrom folder = folder.rdrop path.rise ++ path.descent :=
  Component.foldl_follow (root_not_mem_components relative) folder

theorem components_normalize_relative :
    path.normalize.components = Component.stacked (path.rise % 2) path.descent := by
  have climbed := Component.foldl_climb (root_not_mem_components relative) (Nat.zero_le 1) []
  rw [components_normalize]
  simpa [Component.stacked, rise, descent] using congrArg List.reverse climbed

theorem normalize_walkFrom_eq (folder : List OsText) :
    path.normalize.walkFrom folder = folder.rdrop (path.rise % 2) ++ path.descent := by
  rw [walkFrom, components_normalize_relative relative, Component.foldl_follow_stacked]

theorem normalize_same_iff_descent {other : Path} (relative' : other.isAbsolute = false) :
    path.normalize.same other.normalize = true ↔
      path.rise % 2 = other.rise % 2 ∧ path.descent = other.descent := by
  rw [same, decide_eq_true_iff, components_normalize_relative relative,
    components_normalize_relative relative', Component.stacked_inj]

/-- The way up is the same only if it is at most one folder. -/
theorem normalize_walkFrom_iff {folder : List OsText} (deep : path.components.count .parent ≤ folder.length) :
    path.normalize.walkFrom folder = path.walkFrom folder ↔ path.rise ≤ 1 := by
  have high : path.rise ≤ folder.length := (Component.rise_le_count path.components).trans deep
  rw [normalize_walkFrom_eq relative, walkFrom_eq relative, List.append_left_inj]
  constructor
  · intro same
    have lengths := congrArg List.length same
    simp only [List.rdrop, List.length_take] at lengths
    omega
  · intro low
    rw [Nat.mod_eq_of_lt (Nat.lt_succ_of_le low)]

end Relative

end Path

end ApiBlueprint

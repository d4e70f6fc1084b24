import Mathlib.Tactic.SplitIfs
import ApiBlueprint.Path.Basic
import ApiBlueprint.Proofs.Text.Split

/-!
A normalized path is spelled by its components and the components are read back from the spelling,
so two normalized paths are the same only if they are equal.
-/

namespace ApiBlueprint

open OsText (slash point)

/-- A component of a normalized path behind the root: its text is one piece and reads back. -/
structure Component.IsPlain (component : Component) : Prop where
  notRoot : component ≠ .root
  notCurrent : component ≠ .current
  nonempty : component.bytes ≠ []
  noSlash : slash ∉ component.bytes
  reads : Component.ofPiece component.bytes = component

theorem Component.plain_parent : Component.IsPlain .parent := by
  constructor <;> decide

theorem Component.plain_or_current_of_piece {piece : OsText} (nonempty : piece ≠ [])
    (noSlash : slash ∉ piece) :
    Component.ofPiece piece = .current ∨ (Component.ofPiece piece).IsPlain := by
  unfold Component.ofPiece
  split
  · exact Or.inl rfl
  · rename_i single
    right
    split
    · exact plain_parent
    · rename_i double
      refine ⟨by simp, by simp, nonempty, noSlash, ?_⟩
      simp [Component.ofPiece, Component.bytes, single, double]

theorem Component.ofPiece_ne_root (piece : OsText) : Component.ofPiece piece ≠ .root := by
  unfold Component.ofPiece
  split_ifs <;> simp

theorem Component.ofPiece_eq_current {piece : OsText} :
    Component.ofPiece piece = .current ↔ piece = [point] := by
  unfold Component.ofPiece
  split_ifs <;> simp_all

theorem Component.ofPiece_eq_parent {piece : OsText} :
    Component.ofPiece piece = .parent ↔ piece = [point, point] := by
  unfold Component.ofPiece
  split_ifs <;> simp_all

namespace Path

/-- Plain components, of which the first may be the root instead. -/
def IsNormal : List Component → Prop
  | [] => True
  | first :: rest => (first = .root ∨ first.IsPlain) ∧ ∀ component ∈ rest, component.IsPlain

theorem pieces_joined {components : List Component} (plain : ∀ c ∈ components, c.IsPlain) :
    ((Text.joinWith [slash] (components.map Component.bytes)).splitOn slash).filter (· ≠ []) =
      components.map Component.bytes := by
  have kept : (components.map Component.bytes).filter (· ≠ []) = components.map Component.bytes := by
    rw [List.filter_eq_self]
    intro text member
    obtain ⟨component, inside, rfl⟩ := List.mem_map.mp member
    simpa using (plain component inside).nonempty
  cases components with
  | nil => rfl
  | cons first rest =>
    unfold Text.joinWith
    rw [List.splitOn_intercalate, kept]
    · intro text member
      obtain ⟨component, inside, rfl⟩ := List.mem_map.mp member
      exact (plain component inside).noSlash
    · simp

theorem read_pieces {components : List Component} (plain : ∀ c ∈ components, c.IsPlain) :
    (components.map Component.bytes).map Component.ofPiece = components := by
  rw [List.map_map]
  calc
    components.map (Component.ofPiece ∘ Component.bytes) = components.map id :=
      List.map_congr_left fun component member => (plain component member).reads
    _ = components := List.map_id components

theorem filter_current {components : List Component} (plain : ∀ c ∈ components, c.IsPlain) :
    components.filter (· ≠ .current) = components := by
  rw [List.filter_eq_self]
  intro component member
  simpa using (plain component member).notCurrent

def pieces (path : Path) : List OsText := (path.bytes.splitOn slash).filter (· ≠ [])

theorem components_of_absolute {path : Path} (absolute : path.isAbsolute = true) :
    path.components = .root :: (path.pieces.map Component.ofPiece).filter (· ≠ .current) := by
  simp only [components, absolute, if_true, pieces]

theorem components_of_relative {path : Path} (relative : path.isAbsolute = false) {first : OsText}
    {rest : List OsText} (split : path.pieces = first :: rest) :
    path.components = Component.ofPiece first :: (rest.map Component.ofPiece).filter (· ≠ .current) := by
  unfold pieces at split
  simp only [components, relative, Bool.false_eq_true, if_false, split]

theorem components_root {rest : List Component} (plain : ∀ c ∈ rest, c.IsPlain) :
    components (ofComponents (.root :: rest)) = .root :: rest := by
  have split : (ofComponents (.root :: rest)).pieces = rest.map Component.bytes := by
    rw [pieces, ofComponents, List.splitOn_cons_eq_if_modifyHead, if_pos (beq_self_eq_true slash)]
    rw [List.filter_cons_of_neg (by simp)]
    exact pieces_joined plain
  rw [components_of_absolute rfl, split, read_pieces plain, filter_current plain]

theorem ofComponents_relative {first : Component} {rest : List Component} (plain : first.IsPlain) :
    ofComponents (first :: rest) =
      ⟨Text.joinWith [slash] ((first :: rest).map Component.bytes)⟩ := by
  cases first with
  | root => exact absurd rfl plain.notRoot
  | _ => rfl

theorem isAbsolute_relative {first : Component} {rest : List Component} (plain : first.IsPlain) :
    (ofComponents (first :: rest)).isAbsolute = false := by
  obtain ⟨c, more, equal⟩ := List.exists_cons_of_ne_nil plain.nonempty
  have noSlash : c ≠ slash := fun same => plain.noSlash (by rw [equal, same]; exact List.mem_cons_self)
  have starts : (ofComponents (first :: rest)).bytes.head? = some c := by
    rw [ofComponents_relative plain]
    unfold Text.joinWith
    cases rest <;> simp [equal, List.intercalate_cons_cons]
  simp [isAbsolute, starts, noSlash]

theorem isAbsolute_name {name : OsText} (plain : (Component.name name).IsPlain) :
    isAbsolute ⟨name⟩ = false := by
  have starts : name.head? ≠ some slash := fun starts => plain.noSlash (List.mem_of_mem_head? starts)
  simpa [isAbsolute] using starts

theorem components_relative {first : Component} {rest : List Component} (plain : first.IsPlain)
    (plains : ∀ c ∈ rest, c.IsPlain) :
    components (ofComponents (first :: rest)) = first :: rest := by
  have split : (ofComponents (first :: rest)).pieces = first.bytes :: rest.map Component.bytes := by
    rw [pieces, ofComponents_relative plain]
    exact pieces_joined (List.forall_mem_cons.mpr ⟨plain, plains⟩)
  rw [components_of_relative (isAbsolute_relative plain) split, plain.reads, read_pieces plains,
    filter_current plains]

theorem components_ofComponents {components : List Component} (normal : IsNormal components) :
    (ofComponents components).components = components := by
  cases components with
  | nil => rfl
  | cons first rest =>
    rcases normal.1 with rfl | plain
    · exact components_root normal.2
    · exact components_relative plain normal.2

theorem mem_components {path : Path} {component : Component} (member : component ∈ path.components) :
    component = .root ∨ component = .current ∨ component.IsPlain := by
  have reads {piece : OsText} (inside : piece ∈ path.pieces) :
      Component.ofPiece piece = .current ∨ (Component.ofPiece piece).IsPlain := by
    obtain ⟨split, nonempty⟩ := List.mem_filter.mp inside
    exact Component.plain_or_current_of_piece (by simpa using nonempty)
      (Text.not_mem_of_mem_splitOn split)
  cases absolute : path.isAbsolute with
  | true =>
    rw [components_of_absolute absolute] at member
    rcases List.mem_cons.mp member with rfl | later
    · exact Or.inl rfl
    · obtain ⟨text, inside, rfl⟩ := List.mem_map.mp (List.mem_filter.mp later).1
      exact Or.inr (reads inside)
  | false =>
    cases split : path.pieces with
    | nil =>
      unfold pieces at split
      simp only [components, absolute, Bool.false_eq_true, if_false, split, List.not_mem_nil]
        at member
    | cons first rest =>
      rw [components_of_relative absolute split] at member
      rw [split] at reads
      rcases List.mem_cons.mp member with rfl | later
      · exact Or.inr (reads List.mem_cons_self)
      · obtain ⟨text, inside, rfl⟩ := List.mem_map.mp (List.mem_filter.mp later).1
        exact Or.inr (reads (List.mem_cons_of_mem first inside))

theorem normal_append {components : List Component} {component : Component}
    (normal : IsNormal components) (plain : component.IsPlain) :
    IsNormal (components ++ [component]) := by
  cases components with
  | nil => exact ⟨Or.inr plain, by simp⟩
  | cons first rest =>
    refine ⟨normal.1, fun other member => ?_⟩
    rcases List.mem_append.mp member with earlier | last
    · exact normal.2 other earlier
    · exact List.mem_singleton.mp last ▸ plain

theorem normal_of_append {components : List Component} {component : Component}
    (normal : IsNormal (components ++ [component])) : IsNormal components := by
  cases components with
  | nil => trivial
  | cons first rest =>
    exact ⟨normal.1, fun other member => normal.2 other (List.mem_append_left _ member)⟩

/-- One more component keeps the stack normal, seen from its bottom. -/
theorem normal_climb {above : List Component} {component : Component}
    (normal : IsNormal above.reverse)
    (known : component = .root ∨ component = .current ∨ component.IsPlain) :
    IsNormal (climb above component).reverse := by
  cases component with
  | root => exact ⟨Or.inl rfl, by simp⟩
  | current => exact normal
  | name text =>
    have plain : (Component.name text).IsPlain := by simpa using known
    simpa [climb] using normal_append normal plain
  | parent =>
    cases above with
    | nil => exact ⟨Or.inr Component.plain_parent, by simp⟩
    | cons top rest =>
      have below : IsNormal rest.reverse := by
        rw [List.reverse_cons] at normal
        exact normal_of_append normal
      simp only [climb]
      split
      · contradiction
      · exact ⟨Or.inl rfl, by simp [Component.plain_parent]⟩
      · rename_i equal
        obtain ⟨rfl, rfl⟩ := List.cons.inj equal
        exact below

theorem normal_foldl_climb {components above : List Component} (normal : IsNormal above.reverse)
    (known : ∀ c ∈ components, c = .root ∨ c = .current ∨ c.IsPlain) :
    IsNormal (components.foldl climb above).reverse := by
  induction components generalizing above with
  | nil => exact normal
  | cons component rest ih =>
    rw [List.forall_mem_cons] at known
    exact ih (normal_climb normal known.1) known.2

theorem components_normalize (path : Path) :
    path.normalize.components = (path.components.foldl climb []).reverse := by
  apply components_ofComponents
  exact normal_foldl_climb trivial fun _ member => mem_components member

theorem normalize_same_iff {left right : Path} :
    left.normalize.same right.normalize = true ↔ left.normalize = right.normalize := by
  unfold same
  rw [decide_eq_true_iff, components_normalize, components_normalize]
  constructor
  · intro equal
    unfold normalize
    rw [equal]
  · intro equal
    have components := congrArg components equal
    rwa [components_normalize, components_normalize] at components

end Path
end ApiBlueprint

import Mathlib.Data.List.Forall2

/-! Reading and mapping in sequence: when the whole has a value. Outcomes in pairs. -/

namespace ApiBlueprint

variable {ε α β : Type}

theorem bind_eq_ok {first : Except ε α} {next : α → Except ε β} {result : β} :
    (first >>= next) = .ok result ↔ ∃ value, first = .ok value ∧ next value = .ok result := by
  cases first with
  | error failure => simp [bind, Except.bind]
  | ok value => simp [bind, Except.bind]

theorem bind_eq_error {first : Except ε α} {next : α → Except ε β} {failure : ε} :
    (first >>= next) = .error failure ↔
      first = .error failure ∨ ∃ value, first = .ok value ∧ next value = .error failure := by
  cases first with
  | error other => simp [bind, Except.bind]
  | ok value => simp [bind, Except.bind]

theorem pure_eq_ok {value result : α} : (pure value : Except ε α) = .ok result ↔ value = result := by
  simp [pure, Except.pure]

theorem mapError_eq_ok {δ : Type} {outcome : Except ε α} {change : ε → δ} {result : α} :
    outcome.mapError change = .ok result ↔ outcome = .ok result := by
  cases outcome <;> simp [Except.mapError]

theorem mapError_eq_error {δ : Type} {outcome : Except ε α} {change : ε → δ} {failure : δ} :
    outcome.mapError change = .error failure ↔
      ∃ error, outcome = .error error ∧ change error = failure := by
  cases outcome <;> simp [Except.mapError]

theorem map_eq_ok {outcome : Except ε α} {change : α → β} {result : β} :
    outcome.map change = .ok result ↔ ∃ value, outcome = .ok value ∧ change value = result := by
  cases outcome <;> simp [Except.map]

theorem map_eq_error {failure : ε} {outcome : Except ε α} {change : α → β} :
    outcome.map change = .error failure ↔ outcome = .error failure := by
  cases outcome <;> simp [Except.map]

theorem mapM_cons_eq_ok {read : α → Except ε β} {item : α} {rest : List α} {results : List β} :
    (item :: rest).mapM read = .ok results ↔
      ∃ first later, read item = .ok first ∧ rest.mapM read = .ok later ∧ first :: later = results := by
  simp only [List.mapM_cons, bind_eq_ok, pure_eq_ok, exists_and_left]

theorem mapM_append_eq_ok {read : α → Except ε β} {left right : List α} {results : List β} :
    (left ++ right).mapM read = .ok results ↔
      ∃ first later, left.mapM read = .ok first ∧ right.mapM read = .ok later ∧
        first ++ later = results := by
  simp only [List.mapM_append, bind_eq_ok, pure_eq_ok, exists_and_left]

theorem mapM_eq_ok_iff {read : α → Except ε β} {items : List α} {results : List β} :
    items.mapM read = .ok results ↔
      List.Forall₂ (fun item result => read item = .ok result) items results := by
  induction items generalizing results with
  | nil =>
    rw [List.mapM_nil, pure_eq_ok, List.forall₂_nil_left_iff]
    exact eq_comm
  | cons item rest ih =>
    rw [mapM_cons_eq_ok, List.forall₂_cons_left_iff]
    simp only [ih, eq_comm]

theorem exists_of_mem_left {related : α → β → Prop} {items : List α} {results : List β}
    (each : List.Forall₂ related items results) {item : α} (member : item ∈ items) :
    ∃ result ∈ results, related item result := by
  induction each with
  | nil => cases member
  | @cons _ first _ _ here _ ih =>
    rcases List.mem_cons.mp member with rfl | later
    · exact ⟨first, List.mem_cons_self, here⟩
    · obtain ⟨result, inside, there⟩ := ih later
      exact ⟨result, List.mem_cons_of_mem first inside, there⟩

theorem exists_of_mem_right {related : α → β → Prop} {items : List α} {results : List β}
    (each : List.Forall₂ related items results) {result : β} (member : result ∈ results) :
    ∃ item ∈ items, related item result := by
  obtain ⟨item, inside, here⟩ := exists_of_mem_left each.flip member
  exact ⟨item, inside, here⟩

theorem filterMap_toOption {read : α → Except ε β} {items : List α} {results : List β}
    (all : items.mapM read = .ok results) :
    items.filterMap (fun item => (read item).toOption) = results := by
  have each := mapM_eq_ok_iff.mp all
  clear all
  induction each with
  | nil => rfl
  | cons first later ih =>
    rw [List.filterMap_cons, first, ih]
    rfl

theorem exists_of_mapM_eq_ok {read : α → Except ε β} {items : List α} {results : List β}
    (all : items.mapM read = .ok results) {item : α} (member : item ∈ items) :
    ∃ result, read item = .ok result := by
  obtain ⟨before, after, rfl⟩ := List.append_of_mem member
  obtain ⟨_, _, -, behind, -⟩ := mapM_append_eq_ok.mp all
  obtain ⟨result, _, read, -, -⟩ := mapM_cons_eq_ok.mp behind
  exact ⟨result, read⟩

theorem exists_mapM_eq_ok {read : α → Except ε β} {items : List α}
    (each : ∀ item ∈ items, ∃ result, read item = .ok result) :
    ∃ results, items.mapM read = .ok results := by
  induction items with
  | nil => exact ⟨[], rfl⟩
  | cons item rest ih =>
    obtain ⟨⟨result, here⟩, others⟩ := List.forall_mem_cons.mp each
    obtain ⟨results, later⟩ := ih others
    exact ⟨result :: results, mapM_cons_eq_ok.mpr ⟨result, results, here, later, rfl⟩⟩

theorem mapM_self {read : α → Except ε α} {items : List α} (same : ∀ item ∈ items, read item = .ok item) :
    items.mapM read = .ok items :=
  mapM_eq_ok_iff.mpr (List.forall₂_same.mpr same)

theorem mapM_eq_error_iff {read : α → Except ε β} {items : List α} {failure : ε} :
    items.mapM read = .error failure ↔ ∃ before item after values, items = before ++ item :: after ∧
      before.mapM read = .ok values ∧ read item = .error failure := by
  constructor
  · intro failed
    induction items with
    | nil => cases failed
    | cons item rest ih =>
      rw [List.mapM_cons] at failed
      rcases bind_eq_error.mp failed with here | ⟨value, first, failed⟩
      · exact ⟨[], item, rest, [], rfl, rfl, here⟩
      · rcases bind_eq_error.mp failed with later | ⟨_, -, done⟩
        · obtain ⟨before, bad, after, values, rfl, good, found⟩ := ih later
          exact ⟨item :: before, bad, after, value :: values, rfl,
            mapM_cons_eq_ok.mpr ⟨value, values, first, good, rfl⟩, found⟩
        · cases done
  · rintro ⟨before, item, after, values, rfl, good, found⟩
    rw [List.mapM_append, List.mapM_cons]
    refine bind_eq_error.mpr (Or.inr ⟨values, good, bind_eq_error.mpr (Or.inl ?_)⟩)
    exact bind_eq_error.mpr (Or.inl found)

/-- The same error, or values that stand in a relation. -/
def Paired (related : α → α → Prop) : Except ε α → Except ε α → Prop
  | .ok value, .ok other => related value other
  | .error error, .error other => error = other
  | _, _ => False

namespace Paired

variable {related : α → α → Prop} {outcome other : Except ε α}

theorem refl (outcome : Except ε α) : Paired Eq outcome outcome := by
  cases outcome <;> exact rfl

theorem imp {further : α → α → Prop} (paired : Paired related outcome other)
    (implies : ∀ value value', related value value' → further value value') :
    Paired further outcome other := by
  cases outcome <;> cases other <;> first | exact implies _ _ paired | exact paired

theorem bind {further : β → β → Prop} {next next' : α → Except ε β}
    (paired : Paired related outcome other)
    (goesOn : ∀ value value', outcome = .ok value → other = .ok value' → related value value' →
      Paired further (next value) (next' value')) : Paired further (outcome >>= next) (other >>= next') := by
  cases outcome with
  | error error =>
    cases other with
    | error error' => exact paired
    | ok value' => exact paired.elim
  | ok value =>
    cases other with
    | error error' => exact paired.elim
    | ok value' => exact goesOn value value' rfl rfl paired

end Paired

end ApiBlueprint

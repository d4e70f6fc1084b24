import ApiBlueprint.Text.Basic

/-!
The parts between separators hold no separator; a text is split at the first or the last of the
characters in it that are looked for.
-/

namespace ApiBlueprint
namespace Text

variable {α : Type}

theorem not_of_mem_splitOnP {separates : α → Bool} {text part : List α}
    (member : part ∈ text.splitOnP separates) : ∀ c ∈ part, separates c = false := by
  induction text generalizing part with
  | nil =>
    obtain rfl : part = [] := by simpa using member
    simp
  | cons c rest ih =>
    rw [List.splitOnP_cons_eq_if_modifyHead] at member
    split at member
    · rcases List.mem_cons.mp member with rfl | later
      · simp
      · exact ih later
    · rename_i other
      obtain ⟨first, more, equal⟩ := List.exists_cons_of_ne_nil (List.splitOnP_ne_nil separates rest)
      rw [equal] at member ih
      rcases List.mem_cons.mp member with rfl | later
      · intro d inside
        rcases List.mem_cons.mp inside with rfl | behind
        · simpa using other
        · exact ih List.mem_cons_self d behind
      · exact ih (List.mem_cons_of_mem first later)

theorem not_mem_of_mem_splitOn [BEq α] [LawfulBEq α] {separator : α} {text part : List α}
    (member : part ∈ text.splitOn separator) : separator ∉ part := by
  rw [List.splitOn_eq_splitOnP] at member
  intro inside
  simpa using not_of_mem_splitOnP member separator inside

theorem splitFirst_append {at? : α → Bool} {before after : List α} {c : α}
    (free : ∀ d ∈ before, at? d = false) (found : at? c = true) :
    splitFirst at? (before ++ c :: after) = some (before, after) := by
  induction before with
  | nil => simp [splitFirst, found]
  | cons d before ih =>
    have first : at? d = false := free d List.mem_cons_self
    have later := ih fun e member => free e (List.mem_cons_of_mem d member)
    simp [splitFirst, first, later]

theorem splitFirst_none {at? : α → Bool} {text : List α} (free : ∀ d ∈ text, at? d = false) :
    splitFirst at? text = none := by
  induction text with
  | nil => rfl
  | cons d text ih =>
    have first : at? d = false := free d List.mem_cons_self
    have later := ih fun e member => free e (List.mem_cons_of_mem d member)
    simp [splitFirst, first, later]

theorem splitLast_append {at? : α → Bool} {before after : List α} {c : α}
    (free : ∀ d ∈ after, at? d = false) (found : at? c = true) :
    splitLast at? (before ++ c :: after) = some (before, after) := by
  have backwards : (before ++ c :: after).reverse = after.reverse ++ c :: before.reverse := by simp
  have free' : ∀ d ∈ after.reverse, at? d = false := fun d member => free d (List.mem_reverse.mp member)
  unfold splitLast
  rw [backwards, splitFirst_append free' found]
  simp

theorem exists_of_splitFirst {at? : α → Bool} {text before after : List α}
    (split : splitFirst at? text = some (before, after)) : ∃ c, text = before ++ c :: after := by
  induction text generalizing before with
  | nil => cases split
  | cons c rest ih =>
    simp only [splitFirst] at split
    split at split
    · obtain ⟨rfl, rfl⟩ := Prod.mk.inj (Option.some.inj split)
      exact ⟨c, rfl⟩
    · obtain ⟨⟨front, behind⟩, later, equal⟩ := Option.map_eq_some_iff.mp split
      obtain ⟨rfl, rfl⟩ := Prod.mk.inj equal
      obtain ⟨d, rfl⟩ := ih later
      exact ⟨d, rfl⟩

theorem exists_of_splitLast {at? : α → Bool} {text before after : List α}
    (split : splitLast at? text = some (before, after)) : ∃ c, text = before ++ c :: after := by
  obtain ⟨⟨behind, front⟩, backwards, equal⟩ := Option.map_eq_some_iff.mp split
  obtain ⟨rfl, rfl⟩ := Prod.mk.inj equal
  obtain ⟨c, reversed⟩ := exists_of_splitFirst backwards
  refine ⟨c, ?_⟩
  rw [← List.reverse_reverse text, reversed]
  simp

end Text
end ApiBlueprint

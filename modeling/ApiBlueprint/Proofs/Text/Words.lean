import ApiBlueprint.Proofs.Text.Split
import ApiBlueprint.Proofs.Text.Trim

/-! Words of a text, and texts that are their words with single spaces between them. -/

namespace ApiBlueprint
namespace Text

theorem words_append {c : Char} (space : isSpace c = true) (left right : Text) :
    words (left ++ c :: right) = words left ++ words right := by
  unfold words
  rw [List.splitOnP_append_cons left right space, List.filter_append]

theorem words_solid {word : Text} (nonempty : word ≠ []) (solid : ∀ c ∈ word, isSpace c = false) :
    words word = [word] := by
  unfold words
  rw [List.splitOnP_eq_singleton solid]
  simp [nonempty]

theorem mem_words {word text : Text} (member : word ∈ words text) :
    word ≠ [] ∧ ∀ c ∈ word, isSpace c = false := by
  obtain ⟨part, nonempty⟩ := List.mem_filter.mp member
  exact ⟨by simpa using nonempty, not_of_mem_splitOnP part⟩

section

variable {α : Type}

theorem joinWith_singleton (separator part : List α) : joinWith separator [part] = part := by
  simp [joinWith]

theorem joinWith_cons {separator : List α} (first : List α) {rest : List (List α)} (more : rest ≠ []) :
    joinWith separator (first :: rest) = first ++ (separator ++ joinWith separator rest) := by
  unfold joinWith
  rw [List.intercalate_cons_of_ne_nil more, List.append_assoc]

theorem joinWith_append_cons (separator start first : List α) (rest : List (List α)) :
    joinWith separator ((start ++ first) :: rest) = start ++ joinWith separator (first :: rest) := by
  cases rest with
  | nil => rw [joinWith_singleton, joinWith_singleton]
  | cons next rest =>
    rw [joinWith_cons _ (List.cons_ne_nil next rest), joinWith_cons _ (List.cons_ne_nil next rest),
      List.append_assoc]

theorem joinWith_append {separator : List α} {left right : List (List α)} (some : left ≠ [])
    (more : right ≠ []) : joinWith separator (left ++ right) =
      joinWith separator left ++ (separator ++ joinWith separator right) := by
  induction left with
  | nil => contradiction
  | cons first rest ih =>
    rw [List.cons_append, joinWith_cons first (List.append_ne_nil_of_right_ne_nil rest more)]
    by_cases last : rest = []
    · rw [last, List.nil_append, joinWith_singleton]
    · rw [ih last, joinWith_cons first last, List.append_assoc, List.append_assoc]

end

def IsSqueezed (text : Text) : Prop := squeeze text = text

instance (text : Text) : Decidable (IsSqueezed text) := inferInstanceAs (Decidable (_ = _))

theorem IsSqueezed.words_ne_nil {text : Text} (squeezed : IsSqueezed text) (nonempty : text ≠ []) :
    words text ≠ [] := by
  intro none
  apply nonempty
  rw [← squeezed, squeeze, none]
  rfl

theorem isTrimmed_squeeze (text : Text) : IsTrimmed (squeeze text) := by
  by_cases none : words text = []
  · rw [squeeze, none]
    rfl
  · refine isTrimmed_iff.mpr ⟨?_, ?_⟩
    · obtain ⟨word, more, equal⟩ := List.exists_cons_of_ne_nil none
      have member : word ∈ words text := by simp [equal]
      obtain ⟨nonempty, solid⟩ := mem_words member
      obtain ⟨c, inner, rfl⟩ := List.exists_cons_of_ne_nil nonempty
      rw [squeeze, equal]
      cases more <;> exact trimStart_cons (solid c List.mem_cons_self)
    · obtain ⟨front, word, equal⟩ := (List.eq_nil_or_concat' (words text)).resolve_left none
      have member : word ∈ words text := by simp [equal]
      obtain ⟨nonempty, solid⟩ := mem_words member
      obtain ⟨inner, c, rfl⟩ := (List.eq_nil_or_concat' word).resolve_left nonempty
      have last : isSpace c = false := solid c (by simp)
      rw [squeeze, equal]
      by_cases single : front = []
      · rw [single]
        simpa [joinWith] using trimEnd_concat last
      · rw [joinWith_append single (by simp), joinWith_singleton, ← List.append_assoc,
          ← List.append_assoc]
        exact trimEnd_concat last

theorem IsSqueezed.trimmed {text : Text} (squeezed : IsSqueezed text) : IsTrimmed text := by
  rw [← squeezed]
  exact isTrimmed_squeeze text

theorem isSqueezed_solid {word : Text} (nonempty : word ≠ []) (solid : ∀ c ∈ word, isSpace c = false) :
    IsSqueezed word := by
  unfold IsSqueezed squeeze
  rw [words_solid nonempty solid]
  simp [joinWith]

theorem IsSqueezed.append {left right : Text} (before : IsSqueezed left) (behind : IsSqueezed right)
    (some : left ≠ []) (more : right ≠ []) : IsSqueezed (left ++ ' ' :: right) := by
  unfold IsSqueezed squeeze
  rw [words_append (by decide), joinWith_append (before.words_ne_nil some) (behind.words_ne_nil more)]
  change squeeze left ++ ([' '] ++ squeeze right) = left ++ ' ' :: right
  rw [before, behind]
  rfl

end Text
end ApiBlueprint

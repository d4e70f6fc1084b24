import ApiBlueprint.Text.Basic
import Mathlib.Data.List.DropRight

/-! Trimming: what it leaves as it is, and that white space at the ends does not matter to it. -/

namespace ApiBlueprint

theorem alphanumeric_solid {c : Char} (letter : Text.isAlphanumeric c = true) :
    Text.isSpace c = false := by
  simp only [Text.isAlphanumeric, Text.isLetter, Text.isUpper, Text.isDigit, Bool.or_eq_true,
    Bool.and_eq_true, decide_eq_true_eq, Char.le_def, UInt32.le_iff_toNat_le] at letter
  have code : c.val.toNat = c.toNat := rfl
  simp [code] at letter
  simp [Text.isSpace]
  omega

theorem letter_solid {c : Char} (letter : Text.isLetter c = true) : Text.isSpace c = false :=
  alphanumeric_solid (by simp [Text.isAlphanumeric, letter])

/-- Lower case leaves a character as it is, or makes a letter from `a` to `z` of it. -/
theorem Text.lower_cases (c : Char) :
    Text.isUpper c = false ∧ Text.lower c = c ∨ ∃ n < 26, Text.lower c = Char.ofNat (n + 97) := by
  cases upper : Text.isUpper c with
  | false => exact .inl ⟨rfl, if_neg (by simp [upper])⟩
  | true =>
    have code : c.toNat + 32 = c.toNat - 65 + 97 ∧ c.toNat - 65 < 26 := by
      simp only [Text.isUpper, Char.le_def, UInt32.le_iff_toNat_le, Bool.and_eq_true, decide_eq_true_eq] at upper
      have same : c.val.toNat = c.toNat := rfl
      simp [same] at upper
      omega
    exact .inr ⟨c.toNat - 65, code.2, by rw [Text.lower, if_pos upper, code.1]⟩

namespace Text

/-- What holds of all characters of a text is decided along the text, not along all characters. -/
instance decidableForall {p : Char → Prop} [DecidablePred p] (text : Text) :
    Decidable (∀ c ∈ text, p c) := List.decidableBAll p text

def IsTrimmed (text : Text) : Prop := trim text = text

instance (text : Text) : Decidable (IsTrimmed text) := inferInstanceAs (Decidable (_ = _))

theorem trimStart_cons {c : Char} {text : Text} (solid : isSpace c = false) :
    trimStart (c :: text) = c :: text :=
  List.dropWhile_cons_of_neg (by simp [solid])

theorem trimEnd_concat {c : Char} {text : Text} (solid : isSpace c = false) :
    trimEnd (text ++ [c]) = text ++ [c] :=
  List.rdropWhile_concat_neg isSpace text c (by simp [solid])

theorem trimStart_append {left text : Text} (blank : ∀ c ∈ left, isSpace c = true) :
    trimStart (left ++ text) = trimStart text :=
  List.dropWhile_append_of_pos blank

theorem trimEnd_append {text right : Text} (blank : ∀ c ∈ right, isSpace c = true) :
    trimEnd (text ++ right) = trimEnd text := by
  induction right using List.reverseRecOn with
  | nil => rw [List.append_nil]
  | append_singleton right c ih =>
    have last : isSpace c = true := blank c (by simp)
    rw [← List.append_assoc]
    calc
      trimEnd ((text ++ right) ++ [c]) = trimEnd (text ++ right) :=
        List.rdropWhile_concat_pos isSpace (text ++ right) c last
      _ = trimEnd text := ih fun d member => blank d (List.mem_append_left [c] member)

theorem trimEnd_of_blank {text : Text} (blank : ∀ c ∈ text, isSpace c = true) : trimEnd text = [] :=
  List.rdropWhile_eq_nil_iff.mpr blank

theorem trim_pad {left text right : Text} (before : ∀ c ∈ left, isSpace c = true)
    (behind : ∀ c ∈ right, isSpace c = true) : trim (left ++ (text ++ right)) = trim text := by
  unfold trim
  rw [trimStart_append before]
  unfold trimStart
  rw [List.dropWhile_append]
  split
  · rename_i empty
    have none : text.dropWhile isSpace = [] := by simpa using empty
    rw [none]
    exact trimEnd_of_blank fun c member => behind c ((List.dropWhile_suffix isSpace).subset member)
  · exact trimEnd_append behind

theorem trim_cons {c : Char} {rest : Text} (solid : isSpace c = false) :
    ∃ inner, trim (c :: rest) = c :: inner := by
  have start : trim (c :: rest) = trimEnd (c :: rest) := congrArg trimEnd (trimStart_cons solid)
  have begins : trimEnd (c :: rest) <+: c :: rest := List.rdropWhile_prefix isSpace (c :: rest)
  cases ending : trimEnd (c :: rest) with
  | nil =>
    have blank := List.rdropWhile_eq_nil_iff.mp ending c List.mem_cons_self
    simp [solid] at blank
  | cons d inner =>
    rw [ending, List.cons_prefix_cons] at begins
    exact ⟨inner, by rw [start, ending, begins.1]⟩

theorem isTrimmed_iff {text : Text} :
    IsTrimmed text ↔ trimStart text = text ∧ trimEnd text = text := by
  constructor
  · intro trimmed
    have shorter : (trimEnd (trimStart text)).length ≤ (trimStart text).length :=
      (List.rdropWhile_prefix isSpace (trimStart text)).length_le
    have longer : (trimStart text).length ≤ text.length :=
      (List.dropWhile_suffix isSpace).length_le
    have length : (trimEnd (trimStart text)).length = text.length := congrArg List.length trimmed
    have start : trimStart text = text :=
      (List.dropWhile_suffix isSpace).eq_of_length (by unfold trimStart at *; omega)
    have ending : trimEnd (trimStart text) = text := trimmed
    exact ⟨start, by rwa [start] at ending⟩
  · rintro ⟨start, ending⟩
    unfold IsTrimmed trim
    rw [start, ending]

theorem IsTrimmed.head_solid {c : Char} {text : Text} (trimmed : IsTrimmed (c :: text)) :
    isSpace c = false := by
  have start := (isTrimmed_iff.mp trimmed).1
  unfold trimStart at start
  rw [List.dropWhile_eq_self_iff] at start
  simpa using start (Nat.succ_pos _)

theorem solid_of_trimEnd {c : Char} {text : Text} (ending : trimEnd (text ++ [c]) = text ++ [c]) :
    isSpace c = false := by
  have solid := List.rdropWhile_eq_self_iff.mp ending (by simp)
  simpa using solid

theorem IsTrimmed.last_solid {c : Char} {text : Text} (trimmed : IsTrimmed (text ++ [c])) :
    isSpace c = false :=
  solid_of_trimEnd (isTrimmed_iff.mp trimmed).2

theorem isTrimmed_of_ends {first last : Char} {text inner : Text} (begins : text = first :: inner)
    (ends : ∃ front, text = front ++ [last]) (solidFirst : isSpace first = false)
    (solidLast : isSpace last = false) : IsTrimmed text := by
  obtain ⟨front, ends⟩ := ends
  refine isTrimmed_iff.mpr ⟨?_, ?_⟩
  · rw [begins]
    exact trimStart_cons solidFirst
  · rw [ends]
    exact trimEnd_concat solidLast

theorem IsTrimmed.not_blank {text : Text} (trimmed : IsTrimmed text) (nonempty : text ≠ []) :
    isBlank text = false := by
  obtain ⟨c, rest, rfl⟩ := List.exists_cons_of_ne_nil nonempty
  simp [isBlank, trimmed.head_solid]

theorem nonEmpty_pad {left text right : Text} (before : ∀ c ∈ left, isSpace c = true)
    (behind : ∀ c ∈ right, isSpace c = true) (trimmed : IsTrimmed text) (nonempty : text ≠ []) :
    Text.nonEmpty (left ++ (text ++ right)) = some text := by
  unfold Text.nonEmpty
  rw [trim_pad before behind, trimmed]
  split
  · contradiction
  · rfl

theorem isBlank_append (left right : Text) : isBlank (left ++ right) = (isBlank left && isBlank right) :=
  List.all_append

theorem isBlank_trimStart (text : Text) : isBlank (trimStart text) = isBlank text := by
  unfold isBlank trimStart
  conv_rhs => rw [← List.takeWhile_append_dropWhile (p := isSpace) (l := text)]
  have before : (text.takeWhile isSpace).all isSpace = true :=
    List.all_eq_true.mpr fun c member => List.mem_takeWhile_imp member
  rw [List.all_append, before, Bool.true_and]

theorem isBlank_trimEnd (text : Text) : isBlank (trimEnd text) = isBlank text := by
  induction text using List.reverseRecOn with
  | nil => rfl
  | append_singleton front last ih =>
    cases space : isSpace last with
    | true =>
      rw [trimEnd_append (List.forall_mem_singleton.mpr space), ih]
      simp [isBlank, space]
    | false => rw [trimEnd_concat space]

theorem exists_trimEnd (text : Text) : ∃ ending, text = trimEnd text ++ ending := by
  obtain ⟨ending, same⟩ : trimEnd text <+: text := List.rdropWhile_prefix isSpace text
  exact ⟨ending, same.symm⟩

theorem exists_solid_end {line : Text} (written : isBlank line = false) :
    ∃ front c, trimEnd line = front ++ [c] ∧ isSpace c = false := by
  have some : line.rdropWhile isSpace ≠ [] := by
    intro none
    have blank : ∀ c ∈ line, isSpace c = true := List.rdropWhile_eq_nil_iff.mp none
    rw [isBlank, List.all_eq_true.mpr blank] at written
    cases written
  refine ⟨_, _, (List.dropLast_append_getLast some).symm, ?_⟩
  simpa using List.rdropWhile_last_not isSpace line some

/-- Trimming keeps a text up to the last of its characters that is no space. By induction on what
stands behind that one, from its end on. -/
theorem exists_trimEnd_append {line : Text} (written : isBlank line = false) (indent behind : Text) :
    ∃ ending, trimEnd (indent ++ (trimEnd line ++ behind)) = indent ++ (trimEnd line ++ ending) := by
  induction behind using List.reverseRecOn with
  | nil =>
    obtain ⟨front, c, same, solid⟩ := exists_solid_end written
    refine ⟨[], ?_⟩
    rw [List.append_nil, same, ← List.append_assoc]
    exact trimEnd_concat solid
  | append_singleton behind c ih =>
    have whole : indent ++ (trimEnd line ++ (behind ++ [c])) = indent ++ (trimEnd line ++ behind) ++ [c] := by
      simp
    rw [whole]
    cases space : isSpace c with
    | true =>
      rw [trimEnd_append (by simpa using space)]
      exact ih
    | false =>
      rw [trimEnd_concat space, ← whole]
      exact ⟨behind ++ [c], rfl⟩

end Text
end ApiBlueprint

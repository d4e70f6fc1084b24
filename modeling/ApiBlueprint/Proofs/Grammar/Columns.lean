import ApiBlueprint.Proofs.Grammar.Built

/-!
Columns that dedenting takes away. It takes whole characters, so a tab that reaches over the column at which
a block is cut goes with all its columns, and the line comes out further to the left than the others.
-/

namespace ApiBlueprint

namespace Line

/-- A space or tab of the indentation ends at that column, or the column is at the start. -/
def HasStop (column : Nat) (text : Text) : Prop :=
  ∃ lead rest, text = lead ++ rest ∧ (∀ c ∈ lead, c = ' ' ∨ c = '\t') ∧ indentWidth lead = column

theorem dedent_append {lead : Text} (blank : ∀ c ∈ lead, c = ' ' ∨ c = '\t') (rest : Text) :
    dedent (indentWidth lead) (lead ++ rest) = rest := by
  induction lead with
  | nil => simp [dedent, indentWidth]
  | cons c lead ih =>
    obtain ⟨first, later⟩ := List.forall_mem_cons.mp blank
    rcases first with rfl | rfl <;> exact ih later

/-- Dedenting takes the shortest start of the indentation that is as wide as asked for. -/
theorem exists_lead {width : Nat} {text : Text} (deep : width ≤ indentWidth text) :
    ∃ lead, text = lead ++ dedent width text ∧ (∀ c ∈ lead, c = ' ' ∨ c = '\t') ∧
      width ≤ indentWidth lead ∧
      (lead = [] ∨ ∃ front c, lead = front ++ [c] ∧ indentWidth front < width) := by
  fun_induction dedent width text with
  | case1 text => exact ⟨[], rfl, List.forall_mem_nil _, Nat.zero_le _, Or.inl rfl⟩
  | case2 width rest ih =>
    rw [indentWidth] at deep
    obtain ⟨lead, whole, blank, wide, shortest⟩ := ih (by omega)
    refine ⟨' ' :: lead, congrArg _ whole, List.forall_mem_cons.mpr ⟨Or.inl rfl, blank⟩, ?_, Or.inr ?_⟩
    · rw [indentWidth]
      omega
    · rcases shortest with rfl | ⟨front, c, rfl, less⟩
      · exact ⟨[], ' ', rfl, Nat.succ_pos _⟩
      · refine ⟨' ' :: front, c, rfl, ?_⟩
        rw [indentWidth]
        omega
  | case3 width rest ih =>
    rw [indentWidth] at deep
    obtain ⟨lead, whole, blank, wide, shortest⟩ := ih (by omega)
    refine ⟨'\t' :: lead, congrArg _ whole, List.forall_mem_cons.mpr ⟨Or.inr rfl, blank⟩, ?_, Or.inr ?_⟩
    · rw [indentWidth]
      omega
    · rcases shortest with rfl | ⟨front, c, rfl, less⟩
      · exact ⟨[], '\t', rfl, Nat.succ_pos _⟩
      · refine ⟨'\t' :: front, c, rfl, ?_⟩
        rw [indentWidth]
        omega
  | case4 width text wide noSpace noTab =>
    obtain ⟨less, rfl⟩ := Nat.exists_eq_succ_of_ne_zero wide
    have flush := indentWidth_flush (noSpace less · rfl) (noTab less · rfl)
    omega

theorem indentWidth_lead {lead : Text} (blank : ∀ c ∈ lead, c = ' ' ∨ c = '\t') {front : Text} {c : Char}
    (parts : lead = front ++ [c]) : indentWidth lead ≤ indentWidth front + 4 := by
  subst parts
  obtain ⟨inFront, last⟩ := List.forall_mem_append.mp blank
  rw [indentWidth_append inFront]
  rcases List.forall_mem_singleton.mp last with rfl | rfl <;> simp [indentWidth]

/-- At least so many columns go away, and at most three more, which a tab has behind them. -/
theorem indentWidth_dedent_bounds {width : Nat} {text : Text} (deep : width ≤ indentWidth text) :
    indentWidth (dedent width text) + width ≤ indentWidth text ∧
      indentWidth text ≤ indentWidth (dedent width text) + width + 3 := by
  obtain ⟨lead, whole, blank, wide, shortest⟩ := exists_lead deep
  have sum : indentWidth text = indentWidth lead + indentWidth (dedent width text) := by
    rw [← indentWidth_append blank, ← whole]
  have narrow : indentWidth lead ≤ width + 3 := by
    rcases shortest with rfl | ⟨front, c, parts, less⟩
    · exact Nat.zero_le _
    · have last := indentWidth_lead blank parts
      omega
  omega

theorem indentWidth_dedent_iff {width : Nat} {text : Text} (deep : width ≤ indentWidth text) :
    indentWidth (dedent width text) = indentWidth text - width ↔ HasStop width text := by
  constructor
  · intro kept
    obtain ⟨lead, whole, blank, -, -⟩ := exists_lead deep
    have sum : indentWidth text = indentWidth lead + indentWidth (dedent width text) := by
      rw [← indentWidth_append blank, ← whole]
    exact ⟨lead, dedent width text, whole, blank, by omega⟩
  · rintro ⟨lead, rest, rfl, blank, rfl⟩
    rw [dedent_append blank, indentWidth_append blank]
    omega

theorem indentWidth_append_solid {text : Text} (solid : Text.isBlank text = false) (behind : Text) :
    indentWidth (text ++ behind) = indentWidth text := by
  induction text with
  | nil => cases solid
  | cons c text ih =>
    by_cases space : c = ' '
    · subst space
      rw [List.cons_append, indentWidth, indentWidth, ih solid]
    · by_cases tab : c = '\t'
      · subst tab
        rw [List.cons_append, indentWidth, indentWidth, ih solid]
      · rw [List.cons_append, indentWidth_other space tab, indentWidth_other space tab]

/-- White space at the end of a line that is not blank is no indentation. -/
theorem indentWidth_trimEnd {text : Text} (solid : Text.isBlank text = false) :
    indentWidth (Text.trimEnd text) = indentWidth text := by
  obtain ⟨behind, whole⟩ : Text.trimEnd text <+: text := List.rdropWhile_prefix Text.isSpace text
  have kept : Text.isBlank (Text.trimEnd text) = false := (Text.isBlank_trimEnd text).trans solid
  conv_rhs => rw [← whole, indentWidth_append_solid kept]

end Line

namespace Payload

theorem exists_common {block : List Line} (some : ∃ line ∈ block, line.isBlank = false) : ∃ common,
    (∃ line ∈ block, line.isBlank = false ∧ line.indent = common) ∧
      (∀ line ∈ block, line.isBlank = false → common ≤ line.indent) ∧
      dedentBlock block = .some (Text.joinWith ['\n']
        (stripped (block.map fun line => Text.trimEnd (Line.dedent common line.text)))) := by
  cases least : ((block.filter fun line => !line.isBlank).map Line.indent).min? with
  | none =>
    obtain ⟨line, member, solid⟩ := some
    have inFilter : line ∈ block.filter fun line => !line.isBlank :=
      List.mem_filter.mpr ⟨member, by simp [solid]⟩
    rw [List.min?_eq_none_iff, List.map_eq_nil_iff] at least
    rw [least] at inFilter
    cases inFilter
  | some common =>
    obtain ⟨reached, lower⟩ := List.min?_eq_some_iff.mp least
    refine ⟨common, ?_, fun line member solid => lower _ ?_, ?_⟩
    · obtain ⟨line, inFilter, width⟩ := List.mem_map.mp reached
      obtain ⟨member, solid⟩ := List.mem_filter.mp inFilter
      exact ⟨line, member, by simpa using solid, width⟩
    · exact List.mem_map_of_mem (List.mem_filter.mpr ⟨member, by simp [solid]⟩)
    · rw [dedentBlock, least]
      rfl

/-- Dedenting takes away at most as many columns as asked for exactly if no tab reaches over the last of
them. So a line of a block keeps its indentation past the common one exactly if a space or tab ends there;
otherwise it comes out up to three columns too far to the left. -/
theorem dedentBlock_keeps_columns_iff {block : List Line} (solid : ∃ line ∈ block, line.isBlank = false) :
    (∀ width text, Line.indentWidth text ≤ Line.indentWidth (Line.dedent width text) + width ↔
      Line.indentWidth text ≤ width ∨ Line.HasStop width text) ∧
    ∃ common,
      let row (line : Line) : Text := Text.trimEnd (Line.dedent common line.text)
      (∃ line ∈ block, line.isBlank = false ∧ line.indent = common) ∧
      (∀ line ∈ block, line.isBlank = false → common ≤ line.indent) ∧
      dedentBlock block = some (Text.joinWith ['\n'] (stripped (block.map row))) ∧
      ∀ line ∈ block, line.isBlank = false →
        (Line.indentWidth (row line) = line.indent - common ↔ Line.HasStop common line.text) ∧
        Line.indentWidth (row line) + common ≤ line.indent ∧
        line.indent ≤ Line.indentWidth (row line) + common + 3 ∧
        ∀ other ∈ block, other.isBlank = false → line.indent < other.indent →
          Line.HasStop common other.text → Line.indentWidth (row line) < Line.indentWidth (row other) := by
  constructor
  · intro width text
    by_cases deep : width ≤ Line.indentWidth text
    · rw [← Line.indentWidth_dedent_iff deep]
      have bounds := Line.indentWidth_dedent_bounds deep
      omega
    · exact iff_of_true (by omega) (Or.inl (by omega))
  · obtain ⟨common, reached, lower, joined⟩ := exists_common solid
    refine ⟨common, reached, lower, joined, ?_⟩
    have width {line : Line} (solid : line.isBlank = false) :
        Line.indentWidth (Text.trimEnd (Line.dedent common line.text)) =
          Line.indentWidth (Line.dedent common line.text) :=
      Line.indentWidth_trimEnd ((Line.isBlank_dedent common line.text).trans solid)
    intro line member solid
    have deep : common ≤ Line.indentWidth line.text := lower line member solid
    obtain ⟨most, least⟩ := Line.indentWidth_dedent_bounds deep
    simp only [width solid]
    refine ⟨Line.indentWidth_dedent_iff deep, most, least, fun other member' solid' deeper stop => ?_⟩
    have deep' : common ≤ Line.indentWidth other.text := lower other member' solid'
    have kept := (Line.indentWidth_dedent_iff deep').mpr stop
    change Line.indentWidth line.text < Line.indentWidth other.text at deeper
    rw [width solid', kept]
    omega

/-- Lines at the columns 4 and 2 come out at the same one. -/
theorem dedentBlock_keeps_columns_iff_tab :
    let tea : Line := ⟨"\ttea".toList, 5⟩
    let cup : Line := ⟨"  cup".toList, 6⟩
    tea.indent = 4 ∧ cup.indent = 2 ∧ dedentBlock [tea, cup] = some "tea\ncup".toList ∧
      ¬ Line.HasStop 2 tea.text ∧ Line.HasStop 2 cup.text := by
  intro tea cup
  have solid : ∃ line ∈ [tea, cup], line.isBlank = false := ⟨tea, by simp, rfl⟩
  obtain ⟨-, common, ⟨line, member, -, rfl⟩, lower, -, columns⟩ := dedentBlock_keeps_columns_iff solid
  have same : line.indent = 2 := by
    have most := lower cup (by simp) rfl
    rcases List.mem_pair.mp member with rfl | rfl
    · exact absurd most (by decide)
    · rfl
  simp only [same] at columns
  refine ⟨rfl, rfl, rfl, ?_, ?_⟩
  · rw [← (columns tea (by simp) rfl).1]
    decide
  · rw [← (columns cup (by simp) rfl).1]
    decide

end Payload
end ApiBlueprint

import ApiBlueprint.Grammar.Reading
import ApiBlueprint.Proofs.Text.Trim

/-!
What the first character of a line rules out, apart from white space: whether the line can open a
fence, hold metadata, be a heading or underline one.
-/

namespace ApiBlueprint

namespace Text

variable {text rest : Text} {c : Char}

theorem trimStart_dedent (width : Nat) (text : Text) :
    trimStart (Line.dedent width text) = trimStart text := by
  fun_induction Line.dedent width text with
  | case1 text => rfl
  | case2 width rest ih => exact ih
  | case3 width rest ih => exact ih
  | case4 width text other => rfl

theorem solid_of_trimStart (start : trimStart text = c :: rest) : isSpace c = false := by
  have nonempty : text.dropWhile isSpace ≠ [] := by
    unfold trimStart at start
    simp [start]
  have first := List.head_dropWhile_not isSpace nonempty
  unfold trimStart at start
  simpa [start] using first

theorem exists_trim_of_trimStart (start : trimStart text = c :: rest) :
    ∃ inner, trim text = c :: inner := by
  have solid := solid_of_trimStart start
  obtain ⟨inner, trimmed⟩ := @trim_cons c rest solid
  refine ⟨inner, ?_⟩
  rw [← trimmed, trim, trim, start, trimStart_cons solid]

theorem mem_trim (member : c ∈ text) (solid : isSpace c = false) : c ∈ trim text := by
  have kept {text : Text} (member : c ∈ text) : c ∈ text.dropWhile isSpace := by
    rw [← List.takeWhile_append_dropWhile (p := isSpace) (l := text)] at member
    rcases List.mem_append.mp member with before | behind
    · rw [List.mem_takeWhile_imp before] at solid
      cases solid
    · exact behind
  unfold trim trimEnd dropEndWhile trimStart
  exact List.mem_reverse.mpr (kept (List.mem_reverse.mpr (kept member)))

theorem first_of_trimStart (start : trimStart text = c :: rest) :
    ∃ d tail, text = d :: tail ∧ (isSpace d = true ∨ d = c) := by
  cases text with
  | nil => simp [trimStart] at start
  | cons d tail =>
    refine ⟨d, tail, rfl, ?_⟩
    cases space : isSpace d with
    | true => exact Or.inl rfl
    | false =>
      rw [trimStart_cons space] at start
      exact Or.inr (List.cons.inj start).1

end Text

section Lines

variable {line : Line} {c : Char} {rest : Text}

theorem Line.not_blank_of_start (start : Text.trimStart line.text = c :: rest) :
    line.isBlank = false := by
  by_contra blank
  have all : ∀ c ∈ line.text, Text.isSpace c = true := by
    simpa [Line.isBlank, Text.isBlank] using blank
  have none : Text.trimStart line.text = [] := List.dropWhile_eq_nil_iff.mpr all
  rw [none] at start
  cases start

theorem Fence.opening_none_of_start (start : Text.trimStart line.text = c :: rest)
    (plain : isMarker c = false) : opening? line = none := by
  rw [← Text.trimStart_dedent 3] at start
  unfold opening?
  split
  · rfl
  · cases dedented : Line.dedent 3 line.text with
    | nil => rfl
    | cons d tail =>
      rw [dedented] at start
      have other : isMarker d = false := by
        obtain ⟨e, more, same, first⟩ := Text.first_of_trimStart start
        obtain ⟨rfl, -⟩ := List.cons.inj same
        rcases first with space | rfl
        · by_contra marker
          have sign : d = '\x60' ∨ d = '~' := by
            rw [Bool.not_eq_false] at marker
            simpa [isMarker] using marker
          rcases sign with rfl | rfl <;> cases space
        · exact plain
      simp [other]

theorem Metadata.ofLine_none {text : Text} (noLetter : text.head?.any Text.isLetter = false) :
    ofLine? text = none := by
  cases text with
  | nil => rfl
  | cons c rest =>
    have first : Text.isLetter c = false := noLetter
    have key : ((c :: rest).takeWhile isKeyCharacter).head?.any Text.isLetter = false := by
      rw [List.takeWhile_cons]
      split
      · exact first
      · rfl
    simp only [ofLine?, key]
    split <;> rfl

theorem Metadata.ofLine_none_of_start {text : Text} (start : Text.trimStart text = c :: rest)
    (noLetter : Text.isLetter c = false) : ofLine? text = none := by
  obtain ⟨d, tail, rfl, first⟩ := Text.first_of_trimStart start
  apply ofLine_none
  rcases first with space | rfl
  · by_contra letter
    rw [letter_solid (by simpa using letter)] at space
    cases space
  · exact noLetter

namespace Heading

theorem marked_cases {heading : Heading} (marked : marked? line = some heading) :
    line.indent ≤ 3 ∧ heading.extraLines = 0 ∧ ∃ rest, Text.trimStart line.text = '#' :: rest := by
  simp only [marked?] at marked
  split at marked
  · rename_i conditions
    simp only [Bool.and_eq_true, decide_eq_true_eq] at conditions
    obtain ⟨⟨⟨indent, signs⟩, -⟩, -⟩ := conditions
    obtain rfl := Option.some.inj marked
    refine ⟨indent, rfl, ?_⟩
    cases start : Text.trimStart line.text with
    | nil => simp [start] at signs
    | cons c rest =>
      by_cases sign : c = '#'
      · exact ⟨rest, by rw [sign]⟩
      · simp [start, sign] at signs
  · cases marked

theorem marked_none_of_start (start : Text.trimStart line.text = c :: rest) (other : c ≠ '#') :
    marked? line = none := by
  simp [marked?, start, other]

theorem underlined_none_of_start (start : Text.trimStart line.text = c :: rest)
    (marker : isListMarker c = true) (next : Option Line) : underlined? line next = none := by
  obtain ⟨inner, trimmed⟩ := Text.exists_trim_of_trimStart start
  simp [underlined?, trimmed, marker]

theorem detect_none_of_start (start : Text.trimStart line.text = c :: rest)
    (marker : isListMarker c = true) (next : Option Line) : detect? line next = none := by
  have other : c ≠ '#' := by
    rintro rfl
    cases marker
  rw [detect?, marked_none_of_start start other, underlined_none_of_start start marker]
  rfl

theorem underlineDepth_none {line : Line} {c : Char} (member : c ∈ Text.trim line.text)
    (other : c ≠ '=' ∧ c ≠ '-') : underlineDepth? line = none := by
  have noSigns : (Text.trim line.text).all (· = '=') = false := by
    rw [List.all_eq_false]
    exact ⟨c, member, by simp [other.1]⟩
  have noHyphens : (Text.trim line.text).all (· = '-') = false := by
    rw [List.all_eq_false]
    exact ⟨c, member, by simp [other.2]⟩
  simp [underlineDepth?, noSigns, noHyphens]

end Heading

/-- A line that starts with the mark of a heading or of an item is read as part of the structure. -/
theorem Reading.step_of_start {state : Reading} (start : Text.trimStart line.text = c :: rest)
    (plain : Fence.isMarker c = false) (noLetter : Text.isLetter c = false)
    (unfenced : state.fence = none) (lines : List Line) :
    state.step line lines = readStructure { state with inMetadata := false } line lines := by
  have noFence := Fence.opening_none_of_start start plain
  have noEntry := Metadata.ofLine_none_of_start start noLetter
  have solid := Line.not_blank_of_start start
  obtain ⟨blueprint, scope, fence, inMetadata⟩ := state
  obtain rfl := unfenced
  cases inMetadata <;> simp [step, Fence.advance, noFence, noEntry, solid]

end Lines
end ApiBlueprint

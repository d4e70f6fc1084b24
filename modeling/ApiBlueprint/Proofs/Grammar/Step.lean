import ApiBlueprint.Proofs.Grammar.Starts
import ApiBlueprint.Proofs.Outcome

/-! One step of a reading: which further lines it takes, and which fence is open behind it. -/

namespace ApiBlueprint

def Line.IsItem (line : Line) : Prop := (PayloadItem.keyword? line.text).isSome = true

instance (line : Line) : Decidable line.IsItem := inferInstanceAs (Decidable (_ = true))

namespace Heading

variable {line : Line} {heading : Heading}

theorem underlined_cases {next : Option Line} (underlined : underlined? line next = some heading) :
    heading.extraLines = 1 ∧ ∃ below depth, next = some below ∧ underlineDepth? below = some depth := by
  simp only [underlined?] at underlined
  split at underlined
  · cases underlined
  · split at underlined
    · cases underlined
    · obtain ⟨below, same, found⟩ := Option.bind_eq_some_iff.mp underlined
      obtain ⟨depth, under, made⟩ := Option.bind_eq_some_iff.mp found
      obtain rfl := Option.some.inj made
      exact ⟨rfl, below, depth, same, under⟩

/-- A heading takes at most one further line, and that one underlines it. -/
theorem detect_cases {next : Option Line} (found : detect? line next = some heading) :
    heading.extraLines = 0 ∨
      heading.extraLines = 1 ∧
        ∃ below depth, next = some below ∧ underlineDepth? below = some depth := by
  cases marked : marked? line with
  | some other =>
    rw [detect?, marked] at found
    obtain rfl := Option.some.inj found
    exact Or.inl (marked_cases marked).2.1
  | none =>
    rw [detect?, marked] at found
    exact Or.inr (underlined_cases found)

end Heading

namespace Fence

theorem openedAt_opening {fence : Fence} {line : Line} (opens : opening? line = some fence) :
    fence.openedAt = line.number := by
  unfold opening? at opens
  split at opens
  · cases opens
  · split at opens
    · cases opens
    · simp only at opens
      split at opens
      · obtain rfl := Option.some.inj opens
        rfl
      · cases opens

theorem advance_false {opened after : Option Fence} {line : Line}
    (advanced : advance opened line = (false, after)) : opened = none ∧ after = none := by
  unfold advance at advanced
  split at advanced
  · cases (Prod.mk.inj advanced).1
  · split at advanced
    · cases (Prod.mk.inj advanced).1
    · exact ⟨rfl, (Prod.mk.inj advanced).2.symm⟩

theorem advance_eq_some {opened : Option Fence} {line : Line} {fence : Fence}
    (advanced : (advance opened line).2 = some fence) :
    opened = some fence ∧ fence.closes line = false ∨ opened = none ∧ opening? line = some fence := by
  unfold advance at advanced
  split at advanced
  · rename_i outer
    cases closes : outer.closes line with
    | true => simp [closes] at advanced
    | false =>
      obtain rfl : outer = fence := by simpa [closes] using advanced
      exact Or.inl ⟨rfl, closes⟩
  · split at advanced
    · rename_i opens
      obtain rfl := Option.some.inj advanced
      exact Or.inr ⟨rfl, opens⟩
    · cases advanced

/-- A fence that is open behind a line was open before it, or opens there. -/
theorem advance_opened {opened : Option Fence} {line : Line} :
    ∀ fence ∈ (advance opened line).2, opened = some fence ∨ fence.openedAt = line.number := by
  intro fence member
  rcases advance_eq_some member with ⟨before, -⟩ | ⟨-, opens⟩
  · exact Or.inl before
  · exact Or.inr (openedAt_opening opens)

end Fence

/-- A line that belongs to no payload item above it and underlines no heading. -/
structure Line.Breaks (line : Line) : Prop where
  solid : line.isBlank = false
  shallow : line.indent ≤ 3
  noUnderline : Heading.underlineDepth? line = none

theorem Line.breaks_of_start {line : Line} {c : Char} {rest : Text}
    (start : Text.trimStart line.text = c :: rest) (shallow : line.indent ≤ 3)
    (other : c ≠ '=' ∧ c ≠ '-') : line.Breaks := by
  obtain ⟨inner, trimmed⟩ := Text.exists_trim_of_trimStart start
  have first : c ∈ Text.trim line.text := trimmed ▸ List.mem_cons_self
  exact ⟨Line.not_blank_of_start start, shallow, Heading.underlineDepth_none first other⟩

section Breaks

variable {first : Line} {tail : List Line} (breaks : first.Breaks)

include breaks

theorem Heading.detect_append (line : Line) (rest : List Line) :
    detect? line (rest ++ first :: tail).head? = detect? line rest.head? := by
  cases rest with
  | cons next rest => rfl
  | nil =>
    have none : underlined? line (some first) = underlined? line none := by
      simp [underlined?, breaks.noUnderline]
    simp only [detect?, List.nil_append, List.head?_cons, List.head?_nil, none]

theorem Payload.content_append (item : Line) (rest : List Line) :
    content item (rest ++ first :: tail) = content item rest := by
  have outside : isContent item.indent first = false := by
    have shallow := breaks.shallow
    have less : ¬ item.indent + 4 ≤ first.indent := by omega
    simp [isContent, breaks.solid, less]
  unfold content
  rw [List.takeWhile_append]
  split
  · rename_i whole
    rw [List.takeWhile_cons_of_neg (by simp [outside]), List.append_nil]
    exact ((List.takeWhile_prefix _).eq_of_length whole).symm
  · rfl

theorem Reading.step_append (state : Reading) (line : Line) (rest : List Line) :
    state.step line (rest ++ first :: tail) = state.step line rest := by
  simp only [step, readStructure, Heading.detect_append breaks, Payload.content_append breaks]

end Breaks

namespace Reading

variable {state next : Reading} {line : Line} {rest : List Line} {taken : Nat}

theorem enterHeading_fence {heading : Heading} {number : Nat}
    (entered : state.enterHeading heading number = .ok next) : next.fence = state.fence := by
  unfold enterHeading at entered
  split at entered
  · obtain rfl := Except.ok.inj entered
    rfl
  · split at entered
    · obtain rfl := Except.ok.inj entered
      rfl
    · cases entered
  · obtain rfl := Except.ok.inj entered
    rfl
  · obtain rfl := Except.ok.inj entered
    rfl
  · split at entered
    · obtain rfl := Except.ok.inj entered
      rfl
    · obtain rfl := Except.ok.inj entered
      rfl

theorem enterPayload_fence {kind : PayloadKind} {signature : Text} {content : List Line}
    (entered : state.enterPayload kind signature line content = .ok next) :
    next.fence = state.fence := by
  obtain ⟨item, -, entered⟩ := bind_eq_ok.mp entered
  split at entered
  · obtain ⟨payload, -, pushed⟩ := bind_eq_ok.mp entered
    obtain rfl := pure_eq_ok.mp pushed
    rfl
  · cases entered

/-- Further lines are taken below a heading that they underline and below a payload item. -/
theorem readStructure_cases (read : state.readStructure line rest = .ok (next, taken)) :
    next.fence = state.fence ∧
      ((∃ heading, Heading.detect? line rest.head? = some heading ∧ taken = heading.extraLines) ∨
        line.IsItem ∧ taken = (Payload.content line rest).length ∨ ¬ line.IsItem ∧ taken = 0) := by
  unfold readStructure at read
  split at read
  · rename_i heading found
    obtain ⟨reached, entered, done⟩ := bind_eq_ok.mp read
    obtain ⟨rfl, rfl⟩ := Prod.mk.inj (pure_eq_ok.mp done)
    exact ⟨enterHeading_fence entered, Or.inl ⟨heading, found, rfl⟩⟩
  · split at read
    · rename_i kind signature keyword
      obtain ⟨reached, entered, done⟩ := bind_eq_ok.mp read
      obtain ⟨rfl, rfl⟩ := Prod.mk.inj (pure_eq_ok.mp done)
      exact ⟨enterPayload_fence entered, Or.inr (Or.inl ⟨by simp [Line.IsItem, keyword], rfl⟩)⟩
    · rename_i other
      obtain ⟨rfl, rfl⟩ := Prod.mk.inj (Except.ok.inj read)
      exact ⟨rfl, Or.inr (Or.inr ⟨by simp [Line.IsItem, other], rfl⟩)⟩

theorem step_cases (stepped : state.step line rest = .ok (next, taken)) :
    next.fence = (Fence.advance state.fence line).2 ∧
      (taken = 0 ∨ state.fence = none ∧
        ({ state with inMetadata := false } : Reading).readStructure line rest = .ok (next, taken)) := by
  unfold step at stepped
  split at stepped
  · rename_i fence advanced
    rw [advanced]
    obtain ⟨rfl, rfl⟩ := Prod.mk.inj (Except.ok.inj stepped)
    exact ⟨rfl, Or.inl rfl⟩
  · rename_i fence advanced
    obtain ⟨unfenced, rfl⟩ := Fence.advance_false advanced
    rw [advanced]
    split at stepped
    · split at stepped
      · obtain ⟨rfl, rfl⟩ := Prod.mk.inj (Except.ok.inj stepped)
        exact ⟨unfenced, Or.inl rfl⟩
      · split at stepped
        · obtain ⟨rfl, rfl⟩ := Prod.mk.inj (Except.ok.inj stepped)
          exact ⟨unfenced, Or.inl rfl⟩
        · exact ⟨(readStructure_cases stepped).1.trans unfenced, Or.inr ⟨unfenced, stepped⟩⟩
    · rename_i late
      have same : { state with inMetadata := false } = state := by
        rw [Bool.not_eq_true] at late
        rw [← late]
      exact ⟨(readStructure_cases stepped).1.trans unfenced, Or.inr ⟨unfenced, same ▸ stepped⟩⟩

theorem taken_le (stepped : state.step line rest = .ok (next, taken)) : taken ≤ rest.length := by
  rcases (step_cases stepped).2 with rfl | ⟨-, read⟩
  · exact Nat.zero_le _
  · rcases (readStructure_cases read).2 with ⟨heading, found, rfl⟩ | ⟨-, rfl⟩ | ⟨-, rfl⟩
    · rcases Heading.detect_cases found with none | ⟨one, below, -, more, -⟩
      · rw [none]
        exact Nat.zero_le _
      · obtain ⟨lower, rfl⟩ := List.head?_eq_some_iff.mp more
        rw [one, List.length_cons]
        exact Nat.succ_pos _
    · exact (List.takeWhile_prefix _).length_le
    · exact Nat.zero_le _

end Reading
end ApiBlueprint

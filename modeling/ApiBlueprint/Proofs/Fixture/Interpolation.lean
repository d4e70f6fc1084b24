import ApiBlueprint.Proofs.Fixture.Extraction
import ApiBlueprint.Proofs.Placeholder.Inert
import ApiBlueprint.Proofs.Placeholder.Pieces

/-!
A text and the same text with values in the place of its placeholders have the same spans: as many,
on the same lines, closed or not alike, each filled like the text around it.
-/

namespace ApiBlueprint

namespace Placeholder

def mark (placeholder : Placeholder) : Text := '|' :: '~' :: placeholder.token ++ ['|']

theorem mark_isInert (placeholder : Placeholder) : IsInert placeholder.mark := by
  cases placeholder <;> decide

/-- The second text is the first with values drawn for some of its placeholders. -/
inductive Filled : Text → Text → Prop
  | nil : Filled [] []
  | literal (c : Char) {text filled : Text} (rest : Filled text filled) : Filled (c :: text) (c :: filled)
  | value (placeholder : Placeholder) (stream : RandomStream) {text filled : Text}
      (rest : Filled text filled) :
      Filled (placeholder.mark ++ text) ((placeholder.draw stream).1 ++ filled)

theorem Filled.count_lines {text filled : Text} (fills : Filled text filled) :
    filled.count '\n' = text.count '\n' := by
  have none {inert : Text} (isInert : IsInert inert) : inert.count '\n' = 0 := by
    apply List.count_eq_zero.mpr
    intro member
    exact (isInert.characters '\n' member).2.2 rfl
  induction fills with
  | nil => rfl
  | literal c _ ih => rw [List.count_cons, List.count_cons, ih]
  | value placeholder stream _ ih =>
    rw [List.count_append, List.count_append, ih, none (mark_isInert placeholder),
      none (draw_isInert placeholder stream)]

/-- By induction along the pieces of the text. -/
theorem filled_of_replaced {text filled : Text} (replaced : Replaced (pieces text) filled) :
    Filled text filled := by
  fun_induction pieces text generalizing filled with
  | case1 =>
    cases replaced
    exact Filled.nil
  | case2 rest name after found ih =>
    cases replaced with
    | token placeholder stream more =>
      have source : '|' :: '~' :: rest = placeholder.mark ++ after := by
        rw [(token?_eq_some_iff.mp found).1]
        simp [mark]
      rw [source]
      exact Filled.value placeholder stream (ih more)
  | case3 rest none ih =>
    cases replaced with
    | literal _ more => exact Filled.literal '|' (ih more)
  | case4 c rest other ih =>
    cases replaced with
    | literal _ more => exact Filled.literal c (ih more)

theorem filled_of_interpolate {text filled : Text} {stream : RandomStream}
    (done : (interpolate text stream).1 = .ok filled) : Filled text filled :=
  filled_of_replaced (replaced_of_interpolate done)

end Placeholder

namespace Span

open Placeholder

def settle (state : SpanState) : SpanState :=
  if state.inString then { state with escaped := false } else state

theorem depth_settle (state : SpanState) : (settle state).depth = state.depth := by
  unfold settle
  split <;> rfl

theorem step_inert {c : Char} (inert : IsInertCharacter c) (state : SpanState) :
    state.step c = settle state := by
  obtain ⟨⟨quote, opens, closes⟩, backslash, -⟩ := inert
  obtain ⟨depth, inString, escaped⟩ := state
  cases inString <;> cases escaped <;> simp [SpanState.step, settle, quote, opens, closes, backslash]

theorem settle_settle (state : SpanState) : settle (settle state) = settle state := by
  obtain ⟨depth, inString, escaped⟩ := state
  cases inString <;> rfl

theorem passes_inert {text : Text} (inert : IsInert text) {state : SpanState}
    (open_ : state.depth ≠ 0) : Passes state (settle state) text := by
  obtain ⟨nonempty, characters⟩ := inert
  induction text generalizing state with
  | nil => exact absurd rfl nonempty
  | cons c rest ih =>
    have open' : (settle state).depth ≠ 0 := by rwa [depth_settle]
    have first : Passes state (settle state) [c] :=
      passes_single (step_inert (characters c List.mem_cons_self) state) open'
    by_cases last : rest = []
    · rwa [last]
    · have behind := ih open' last fun d member => characters d (List.mem_cons_of_mem c member)
      rw [settle_settle] at behind
      exact passes_append first behind

/-- Neither scan closes its span, or both do and leave texts of which the one fills the other. -/
inductive ClosedAlike : Option (Text × Text) → Option (Text × Text) → Prop
  | unclosed : ClosedAlike none none
  | closed {span after span' after' : Text} (fills : Filled span span') (rest : Filled after after') :
      ClosedAlike (some (span, after)) (some (span', after'))

theorem ClosedAlike.extend {found found' : Option (Text × Text)}
    (alike : ClosedAlike found found') (start start' : Text)
    (fills : ∀ span span', Filled span span' → Filled (start ++ span) (start' ++ span')) :
    ClosedAlike (found.map fun (span, after) => (start ++ span, after))
      (found'.map fun (span, after) => (start' ++ span, after)) := by
  cases alike with
  | unclosed => exact ClosedAlike.unclosed
  | closed spans rest => exact ClosedAlike.closed (fills _ _ spans) rest

/-- By induction on the fillings: the scanner is in the same state before the rest of either text. -/
theorem close_filled {text filled : Text} (fills : Filled text filled) {state : SpanState}
    (open_ : state.depth ≠ 0) : ClosedAlike (close state text) (close state filled) := by
  induction fills generalizing state with
  | nil => exact ClosedAlike.unclosed
  | literal c rest ih =>
    simp only [close]
    split
    · exact ClosedAlike.closed (Filled.literal c Filled.nil) rest
    · rename_i stays
      exact (ih stays).extend [c] [c] fun _ _ => Filled.literal c
  | value placeholder stream rest ih =>
    rw [passes_inert (mark_isInert placeholder) open_, passes_inert (draw_isInert placeholder stream) open_]
    have open' : (settle state).depth ≠ 0 := by rwa [depth_settle]
    exact (ih open').extend _ _ fun _ _ => Filled.value placeholder stream

/-- The second span is the first one filled, on the same line and closed if that is. -/
structure FilledAs (before after : Span) : Prop where
  line : after.line = before.line
  closed : after.closed = before.closed
  text : Filled before.text after.text

theorem lineAfter_filled {text filled : Text} (fills : Filled text filled) (line : Nat) :
    lineAfter line filled = lineAfter line text := by
  unfold lineAfter
  rw [fills.count_lines]

theorem scanFrom_inert {text : Text} (inert : IsInert text) (line : Nat) (rest : Text) :
    scanFrom line (text ++ rest) = scanFrom line rest := by
  have noBrace : '{' ∉ text := fun member => (inert.characters '{' member).1.2.1 rfl
  have noLine : '\n' ∉ text := fun member => (inert.characters '\n' member).2.2 rfl
  rw [scanFrom_gap noBrace, lineAfter, List.count_eq_zero.mpr noLine, Nat.add_zero]

theorem scanFrom_filled {text filled : Text} (fills : Filled text filled) (line : Nat) :
    List.Forall₂ FilledAs (scanFrom line text) (scanFrom line filled) := by
  induction length : text.length using Nat.strong_induction_on generalizing text filled line with
  | _ count ih =>
    cases fills with
    | nil => simp [scanFrom]
    | value placeholder stream rest =>
      rw [scanFrom_inert (mark_isInert placeholder), scanFrom_inert (draw_isInert placeholder stream)]
      refine ih _ ?_ rest line rfl
      rw [← length, List.length_append]
      exact Nat.lt_add_of_pos_left (List.length_pos_iff.mpr (mark_isInert placeholder).nonempty)
    | @literal c text filled rest =>
      have shorter {after : Text} (less : after.length ≤ text.length) : after.length < count := by
        rw [← length]
        exact Nat.lt_succ_of_le less
      by_cases brace : c = '{'
      · subst brace
        have alike : ClosedAlike (close .opened text) (close .opened filled) :=
          close_filled rest (by decide)
        generalize found : close .opened text = closed at alike
        generalize found' : close .opened filled = closed' at alike
        cases alike with
        | unclosed =>
          rw [scanFrom_unclosed found, scanFrom_unclosed found']
          exact List.Forall₂.cons ⟨rfl, rfl, Filled.literal '{' rest⟩ List.Forall₂.nil
        | @closed span after span' after' spans behind =>
          have parts := congrArg List.length (close_append found)
          rw [List.length_append] at parts
          rw [scanFrom_closed found, scanFrom_closed found', lineAfter_filled spans]
          exact List.Forall₂.cons ⟨rfl, rfl, Filled.literal '{' spans⟩
            (ih _ (shorter (by omega)) behind _ rfl)
      · rw [scanFrom, scanFrom, if_neg brace, if_neg brace]
        exact ih _ (shorter (Nat.le_refl _)) rest _ rfl

end Span

/-- Interpolation keeps the spans of a text: their number and order, the lines on which they start,
and which of them are closed. What stands in a span afterwards is what stood there before, with
values for placeholders. -/
theorem Generator.process_keeps_spans {stream : RandomStream} {text filled : Text}
    (processed : ((random stream).process text).1 = .ok filled) :
    List.Forall₂ Span.FilledAs (Span.scan text) (Span.scan filled) := by
  have done : (Placeholder.interpolate text stream).1 = .ok filled := mapError_eq_ok.mp processed
  exact Span.scanFrom_filled (Placeholder.filled_of_interpolate done) 1

/-- A value may stand behind a backslash, which then hides its first character. -/
theorem Generator.process_keeps_spans_behind_backslash :
    ((seeded 0).process "x\n\x7b\"k\": \"\\|~misc.bool|\"\x7d \x7b|~number.int|".toList).1 =
      .ok "x\n\x7b\"k\": \"\\false\"\x7d \x7b7734".toList ∧
    List.Forall₂ Span.FilledAs
      (Span.scan "x\n\x7b\"k\": \"\\|~misc.bool|\"\x7d \x7b|~number.int|".toList)
      (Span.scan "x\n\x7b\"k\": \"\\false\"\x7d \x7b7734".toList) := by
  have processed :
      ((seeded 0).process "x\n\x7b\"k\": \"\\|~misc.bool|\"\x7d \x7b|~number.int|".toList).1 =
        .ok "x\n\x7b\"k\": \"\\false\"\x7d \x7b7734".toList := by decide +kernel
  exact ⟨processed, process_keeps_spans processed⟩

end ApiBlueprint

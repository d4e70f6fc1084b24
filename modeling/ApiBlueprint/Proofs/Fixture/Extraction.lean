import ApiBlueprint.Fixture.Extract
import ApiBlueprint.Proofs.Fixture.Balance
import ApiBlueprint.Proofs.Text.Cut
import Mathlib.Data.List.Basic

/-!
The grammar of texts with fixtures: JSON objects, and between them gaps without an opening brace.
Extraction succeeds on the texts of this grammar alone, and each of them is cut in one way only.
-/

namespace ApiBlueprint

/-- From brace to brace, the text of one JSON object of that value. -/
structure SpellsObject (text : Text) (value : Json) : Prop where
  starts : text.head? = some '{'
  ends : text.getLast? = some '}'
  read : Json.read text = .ok value
  isObject : ∃ members, value = .object members

/-- The inserts of the cut are objects of these values, and its gaps open no brace. -/
structure Cut.SpellsFixtures (cut : Cut) (text : Text) (values : List Json) : Prop where
  text_eq : cut.text = text
  gaps : ∀ gap ∈ cut.gaps, '{' ∉ gap
  fixtures : List.Forall₂ SpellsObject cut.inserts values

namespace Span

theorem eq_brace_of_step {state : SpanState} {c : Char} (open_ : state.depth ≠ 0)
    (closed : (state.step c).depth = 0) : c = '}' := by
  unfold SpanState.step at closed
  split_ifs at closed <;> simp_all

theorem close_ends {state : SpanState} {text span after : Text} (open_ : state.depth ≠ 0)
    (closed : close state text = some (span, after)) : span.getLast? = some '}' := by
  induction text generalizing state span with
  | nil => simp [close] at closed
  | cons c rest ih =>
    simp only [close] at closed
    split at closed
    · rename_i ended
      obtain ⟨rfl, -⟩ := Prod.mk.inj (Option.some.inj closed)
      simp [eq_brace_of_step open_ ended]
    · rename_i stays
      obtain ⟨⟨tail, remaining⟩, found, equal⟩ := Option.map_eq_some_iff.mp closed
      obtain ⟨rfl, rfl⟩ := Prod.mk.inj equal
      have last := ih stays found
      rw [List.getLast?_cons, last]
      rfl

theorem lineAfter_append (line : Nat) (left right : Text) :
    lineAfter line (left ++ right) = lineAfter (lineAfter line left) right := by
  simp only [lineAfter, List.count_append]
  omega

theorem scanFrom_gap {gap : Text} (plain : '{' ∉ gap) (line : Nat) (rest : Text) :
    scanFrom line (gap ++ rest) = scanFrom (lineAfter line gap) rest := by
  induction gap generalizing line with
  | nil => simp [lineAfter]
  | cons c gap ih =>
    simp only [List.mem_cons, not_or] at plain
    rw [List.cons_append, scanFrom, if_neg (Ne.symm plain.1), ih plain.2, ← lineAfter_append]
    rfl

theorem scanFrom_closed {text span after : Text} (closed : close .opened text = some (span, after))
    (line : Nat) : scanFrom line ('{' :: text) =
      ⟨'{' :: span, line, true⟩ :: scanFrom (lineAfter line span) after := by
  rw [scanFrom, if_pos rfl]
  split
  · simp_all
  · simp_all

theorem scanFrom_unclosed {text : Text} (closed : close .opened text = none) (line : Nat) :
    scanFrom line ('{' :: text) = [⟨'{' :: text, line, false⟩] := by
  rw [scanFrom, if_pos rfl]
  split
  · rfl
  · simp_all

theorem value_eq_ok_iff {span : Span} {value : Json} :
    span.value = .ok value ↔ span.closed = true ∧ Json.read span.text = .ok value := by
  unfold Span.value
  split
  · simp_all [mapError_eq_ok]
  · simp_all

end Span

theorem Json.read_eq_ok_iff {text : Text} {value : Json} :
    Json.read text = .ok value ↔
      ∃ rest, JsonReader.value JsonReader.maxDepth text = .ok (value, rest) ∧
        JsonReader.skipSpace rest = [] := by
  unfold Json.read
  rw [mapError_eq_ok]
  unfold JsonReader.document
  constructor
  · intro read
    obtain ⟨⟨result, rest⟩, found, finish⟩ := bind_eq_ok.mp read
    simp only at finish
    split at finish
    · rename_i blank
      obtain rfl := pure_eq_ok.mp finish
      exact ⟨rest, found, blank⟩
    · simp at finish
  · rintro ⟨rest, found, blank⟩
    refine bind_eq_ok.mpr ⟨(value, rest), found, ?_⟩
    simp [blank, pure, Except.pure]

/-- The scanner cuts an object off whatever follows it. -/
theorem SpellsObject.close {text : Text} {value : Json} (spells : SpellsObject text value) :
    ∃ inner, text = '{' :: inner ∧
      ∀ rest, Span.close .opened (inner ++ rest) = some (inner, rest) := by
  obtain ⟨starts, ends, read, -⟩ := spells
  obtain ⟨inner, rfl⟩ := List.head?_eq_some_iff.mp starts
  obtain ⟨behind, found, blank⟩ := Json.read_eq_ok_iff.mp read
  obtain ⟨-, body, rfl, balanced⟩ := JsonReader.object_of_brace found
  -- A character behind the object would be the brace that ends the text, and no blank.
  obtain rfl : behind = [] := by
    by_contra nonempty
    have last : behind.getLast nonempty = '}' := by
      simpa [List.getLast?_eq_some_getLast, nonempty] using ends
    have space := List.dropWhile_eq_nil_iff.mp blank '}' (last ▸ List.getLast_mem nonempty)
    exact absurd space (by decide)
  refine ⟨body ++ ['}'], rfl, fun rest => ?_⟩
  simpa using Span.close_balanced balanced rest

theorem SpellsObject.of_close {text inner after : Text} {value : Json}
    (closed : Span.close .opened text = some (inner, after))
    (read : Json.read ('{' :: inner) = .ok value) : SpellsObject ('{' :: inner) value := by
  obtain ⟨behind, found, -⟩ := Json.read_eq_ok_iff.mp read
  have last := Span.close_ends (by decide) closed
  refine ⟨rfl, ?_, read, (JsonReader.object_of_brace found).1⟩
  rw [List.getLast?_cons, last]
  rfl

namespace Cut

theorem spells_delay {cut : Cut} {text : Text} {values : List Json} {c : Char}
    (plain : c ≠ '{') (spells : cut.SpellsFixtures text values) :
    (cut.delay c).SpellsFixtures (c :: text) values := by
  obtain ⟨rfl, gaps, fixtures⟩ := spells
  obtain ⟨parts, tail⟩ := cut
  cases parts with
  | nil => exact ⟨by simp [delay, Cut.text], by simp_all [delay, Cut.gaps, eq_comm], fixtures⟩
  | cons part parts =>
    exact ⟨by simp [delay, Cut.text], by simp_all [delay, Cut.gaps, eq_comm], fixtures⟩

theorem spells_cons_iff {gap fixture : Text} {parts : List (Text × Text)} {tail text : Text}
    {values : List Json} :
    SpellsFixtures ⟨(gap, fixture) :: parts, tail⟩ text values ↔
      ∃ value others rest, values = value :: others ∧ text = gap ++ (fixture ++ rest) ∧
        '{' ∉ gap ∧ SpellsObject fixture value ∧ SpellsFixtures ⟨parts, tail⟩ rest others := by
  constructor
  · rintro ⟨rfl, gaps, fixtures⟩
    simp only [Cut.inserts, List.map_cons, List.forall₂_cons_left_iff] at fixtures
    obtain ⟨value, others, first, more, rfl⟩ := fixtures
    simp only [Cut.gaps, List.map_cons, List.cons_append, List.forall_mem_cons] at gaps
    exact ⟨value, others, _, rfl, text_cons gap fixture parts tail, gaps.1, first, rfl, gaps.2, more⟩
  · rintro ⟨value, others, rest, rfl, rfl, plain, first, rfl, gaps, more⟩
    refine ⟨text_cons gap fixture parts tail, ?_, List.Forall₂.cons first more⟩
    simp only [Cut.gaps, List.map_cons, List.cons_append, List.forall_mem_cons]
    exact ⟨plain, gaps⟩

theorem spells_nil_iff {tail text : Text} {values : List Json} :
    SpellsFixtures ⟨[], tail⟩ text values ↔ values = [] ∧ tail = text ∧ '{' ∉ text := by
  constructor
  · rintro ⟨rfl, gaps, fixtures⟩
    refine ⟨List.forall₂_nil_left_iff.mp fixtures, rfl, ?_⟩
    simpa [Cut.gaps, Cut.text] using gaps
  · rintro ⟨rfl, rfl, plain⟩
    exact ⟨rfl, by simpa [Cut.gaps] using plain, List.Forall₂.nil⟩

theorem mapM_scanFrom_of_spells {parts : List (Text × Text)} {tail text : Text} {values : List Json}
    (spells : SpellsFixtures ⟨parts, tail⟩ text values) (line : Nat) :
    (Span.scanFrom line text).mapM Span.value = .ok values := by
  induction parts generalizing text values line with
  | nil =>
    obtain ⟨rfl, -, plain⟩ := spells_nil_iff.mp spells
    have scanned := Span.scanFrom_gap plain line []
    rw [List.append_nil] at scanned
    simp [scanned, Span.scanFrom, pure, Except.pure]
  | cons part parts ih =>
    obtain ⟨value, others, rest, rfl, rfl, plain, object, more⟩ := spells_cons_iff.mp spells
    obtain ⟨inner, equal, closes⟩ := object.close
    rw [Span.scanFrom_gap plain, equal, List.cons_append, Span.scanFrom_closed (closes rest)]
    apply mapM_eq_ok_iff.mpr
    refine List.Forall₂.cons ?_ (mapM_eq_ok_iff.mp (ih more _))
    exact Span.value_eq_ok_iff.mpr ⟨rfl, equal ▸ object.read⟩

theorem exists_spells {text : Text} {values : List Json} {line : Nat}
    (extracted : (Span.scanFrom line text).mapM Span.value = .ok values) :
    ∃ cut : Cut, cut.SpellsFixtures text values := by
  induction length : text.length using Nat.strong_induction_on generalizing text values line with
  | _ count ih =>
    cases text with
    | nil =>
      obtain rfl : [] = values := by simpa [Span.scanFrom, pure, Except.pure] using extracted
      exact ⟨⟨[], []⟩, spells_nil_iff.mpr ⟨rfl, rfl, List.not_mem_nil⟩⟩
    | cons c rest =>
      by_cases brace : c = '{'
      · subst brace
        cases closed : Span.close .opened rest with
        | none =>
          rw [Span.scanFrom_unclosed closed, mapM_eq_ok_iff] at extracted
          obtain ⟨value, others, read, -⟩ := List.forall₂_cons_left_iff.mp extracted
          exact absurd (Span.value_eq_ok_iff.mp read).1 Bool.false_ne_true
        | some result =>
          obtain ⟨inner, after⟩ := result
          rw [Span.scanFrom_closed closed, mapM_eq_ok_iff] at extracted
          obtain ⟨value, others, read, more, rfl⟩ := List.forall₂_cons_left_iff.mp extracted
          obtain rfl := Span.close_append closed
          have shorter : after.length < count := by
            rw [← length]
            simp only [List.length_cons, List.length_append]
            omega
          obtain ⟨⟨parts, tail⟩, spells⟩ :=
            ih after.length shorter (mapM_eq_ok_iff.mpr more) rfl
          have object := SpellsObject.of_close closed (Span.value_eq_ok_iff.mp read).2
          refine ⟨⟨([], '{' :: inner) :: parts, tail⟩, spells_cons_iff.mpr ?_⟩
          exact ⟨value, others, after, rfl, rfl, List.not_mem_nil, object, spells⟩
      · rw [Span.scanFrom, if_neg brace] at extracted
        have shorter : rest.length < count := by simp [← length]
        obtain ⟨cut, spells⟩ := ih rest.length shorter extracted rfl
        exact ⟨cut.delay c, spells_delay brace spells⟩

theorem gap_unique {gap gap' left right : Text} (plain : '{' ∉ gap) (plain' : '{' ∉ gap')
    (equal : gap ++ '{' :: left = gap' ++ '{' :: right) : gap = gap' ∧ left = right := by
  induction gap generalizing gap' with
  | nil =>
    cases gap' with
    | nil => exact ⟨rfl, (List.cons.inj equal).2⟩
    | cons c gap' =>
      obtain rfl := (List.cons.inj equal).1
      exact absurd List.mem_cons_self plain'
  | cons c gap ih =>
    cases gap' with
    | nil =>
      obtain rfl := (List.cons.inj equal).1
      exact absurd List.mem_cons_self plain
    | cons d gap' =>
      simp only [List.cons_append, List.cons.injEq] at equal
      simp only [List.mem_cons, not_or] at plain plain'
      obtain ⟨rfl, rfl⟩ := ih plain.2 plain'.2 equal.2
      exact ⟨by rw [equal.1], rfl⟩

theorem spells_unique {parts parts' : List (Text × Text)} {tail tail' text : Text}
    {values values' : List Json} (left : SpellsFixtures ⟨parts, tail⟩ text values)
    (right : SpellsFixtures ⟨parts', tail'⟩ text values') : parts = parts' ∧ tail = tail' := by
  induction parts generalizing parts' text values values' with
  | nil =>
    obtain ⟨-, rfl, plain⟩ := spells_nil_iff.mp left
    cases parts' with
    | nil => exact ⟨rfl, (spells_nil_iff.mp right).2.1.symm⟩
    | cons part parts' =>
      obtain ⟨_, _, rest, -, rfl, -, object, -⟩ := spells_cons_iff.mp right
      obtain ⟨inner, equal, -⟩ := object.close
      simp [equal] at plain
  | cons part parts ih =>
    obtain ⟨gap, fixture⟩ := part
    obtain ⟨_, _, rest, -, rfl, plain, object, more⟩ := spells_cons_iff.mp left
    obtain ⟨inner, rfl, closes⟩ := object.close
    cases parts' with
    | nil =>
      obtain ⟨-, -, noBrace⟩ := spells_nil_iff.mp right
      simp at noBrace
    | cons part' parts' =>
      obtain ⟨gap', fixture'⟩ := part'
      obtain ⟨_, _, rest', -, equal, plain', object', more'⟩ := spells_cons_iff.mp right
      obtain ⟨inner', rfl, closes'⟩ := object'.close
      simp only [List.cons_append] at equal
      obtain ⟨rfl, behind⟩ := gap_unique plain plain' equal
      have same := closes rest
      rw [behind, closes' rest'] at same
      obtain ⟨rfl, rfl⟩ := Prod.mk.inj (Option.some.inj same)
      obtain ⟨rfl, rfl⟩ := ih more more'
      exact ⟨rfl, rfl⟩

end Cut

/-- Extraction reads the texts of the grammar and no others, and there is one way to cut such a text.
Wherever the strict reader takes an object from the start of a text, the scanner closes its span at
the same place. -/
theorem extractFixtures_exact (text : Text) :
    (∀ values, extractFixtures text = .ok values ↔ ∃ cut : Cut, cut.SpellsFixtures text values) ∧
    (∀ (cut other : Cut) values more, cut.SpellsFixtures text values →
      other.SpellsFixtures text more → cut = other ∧ values = more) ∧
    ∀ depth inner value rest, text = '{' :: inner →
      JsonReader.value depth text = .ok (value, rest) →
      ∃ span, inner = span ++ rest ∧ Span.close .opened inner = some (span, rest) := by
  refine ⟨fun values => ⟨Cut.exists_spells, ?reads⟩, ?unique, ?closes⟩
  case reads =>
    rintro ⟨cut, spells⟩
    exact Cut.mapM_scanFrom_of_spells spells 1
  case unique =>
    intro cut other values more spells spells'
    obtain ⟨parts, tail⟩ := Cut.spells_unique spells spells'
    have read := Cut.mapM_scanFrom_of_spells spells 1
    rw [Cut.mapM_scanFrom_of_spells spells' 1] at read
    exact ⟨Cut.mk.injEq .. ▸ ⟨parts, tail⟩, (Except.ok.inj read).symm⟩
  case closes =>
    rintro depth inner value rest rfl read
    exact JsonReader.close_eq_of_read read

/-- A quoted brace ends neither the object nor its span. -/
theorem extractFixtures_exact_quotedBrace :
    (∃! cut : Cut, cut.SpellsFixtures "a \x7b\"k\":\"\\\"\x7d\"\x7d b".toList
      [.object [(['k'], .string ['"', '}'])]]) ∧
    ∃ span, "\"k\":\"\\\"\x7d\"\x7d b".toList = span ++ " b".toList ∧
      Span.close .opened "\"k\":\"\\\"\x7d\"\x7d b".toList = some (span, " b".toList) := by
  constructor
  · obtain ⟨exact, unique, -⟩ := extractFixtures_exact "a \x7b\"k\":\"\\\"\x7d\"\x7d b".toList
    obtain ⟨cut, spells⟩ := (exact [.object [(['k'], .string ['"', '}'])]]).mp (by cbv)
    exact ⟨cut, spells, fun other spells' => (unique other cut _ _ spells' spells).1⟩
  · exact (extractFixtures_exact ('{' :: "\"k\":\"\\\"\x7d\"\x7d b".toList)).2.2 1 _
      (.object [(['k'], .string ['"', '}'])]) _ rfl (by cbv)

end ApiBlueprint

import ApiBlueprint.Proofs.Fixture.Extraction

/-!
Extraction along a text. Behind a text whose spans are all closed the scanner is outside of spans
again. So the fixtures of a text are those of its parts, one after the other, and the first span that
is no fixture is the error whatever stands behind it.
-/

namespace ApiBlueprint

def Span.shift (n : Nat) (span : Span) : Span := { span with line := span.line + n }

def FixtureError.shift (n : Nat) (error : FixtureError) : FixtureError :=
  { error with line := error.line + n }

namespace Span

theorem value_shift (n : Nat) (span : Span) :
    (span.shift n).value = span.value.mapError (FixtureError.shift n) := by
  unfold value shift
  by_cases closed : span.closed = true
  · simp only [closed, if_true]
    cases Json.read span.text <;> rfl
  · simp only [closed]
    rfl

theorem mapM_shift (n : Nat) (spans : List Span) :
    (spans.map (shift n)).mapM value = (spans.mapM value).mapError (FixtureError.shift n) := by
  induction spans with
  | nil => rfl
  | cons span spans ih =>
    rw [List.map_cons, List.mapM_cons, List.mapM_cons, value_shift, ih]
    cases value span with
    | error error => rfl
    | ok first => cases spans.mapM value <;> rfl

theorem scanFrom_shift (n line : Nat) (text : Text) :
    scanFrom (line + n) text = (scanFrom line text).map (shift n) := by
  have moved (line : Nat) (text : Text) : lineAfter (line + n) text = lineAfter line text + n := by
    unfold lineAfter
    omega
  fun_induction scanFrom line text with
  | case1 line => rw [scanFrom, List.map_nil]
  | case2 line rest unclosed =>
    rw [scanFrom_unclosed unclosed]
    rfl
  | case3 line rest span after closed ih =>
    rw [scanFrom_closed closed, moved, ih, List.map_cons]
    rfl
  | case4 line c rest other ih =>
    rw [scanFrom, if_neg other, moved, ih]

/-- A span is closed where it is, whatever stands behind it. -/
theorem close_span {state : SpanState} {text span after : Text}
    (closed : close state text = some (span, after)) (more : Text) :
    close state (span ++ more) = some (span, more) := by
  induction text generalizing state span with
  | nil => simp [close] at closed
  | cons c rest ih =>
    simp only [close] at closed
    split at closed
    · rename_i ends
      obtain ⟨rfl, -⟩ := Prod.mk.inj (Option.some.inj closed)
      simp only [List.cons_append, List.nil_append, close, ends, if_true]
    · rename_i stays
      obtain ⟨⟨tail, remaining⟩, found, equal⟩ := Option.map_eq_some_iff.mp closed
      obtain ⟨rfl, rfl⟩ := Prod.mk.inj equal
      simp only [List.cons_append, close, stays, if_false, ih found, Option.map_some]

theorem close_more {state : SpanState} {text span after : Text}
    (closed : close state text = some (span, after)) (more : Text) :
    close state (text ++ more) = some (span, after ++ more) := by
  rw [← close_append closed, List.append_assoc]
  exact close_span closed (after ++ more)

theorem scanFrom_append {line : Nat} {text : Text}
    (closed : ∀ span ∈ scanFrom line text, span.closed = true) (more : Text) :
    scanFrom line (text ++ more) = scanFrom line text ++ scanFrom (lineAfter line text) more := by
  fun_induction scanFrom line text with
  | case1 line => rfl
  | case2 line rest unclosed =>
    have here := closed _ List.mem_cons_self
    cases here
  | case3 line rest span after found ih =>
    obtain ⟨-, later⟩ := List.forall_mem_cons.mp closed
    have line_eq : lineAfter line ('{' :: rest) = lineAfter (lineAfter line span) after := by
      rw [← close_append found]
      exact lineAfter_append line ('{' :: span) after
    rw [List.cons_append, scanFrom_closed (close_more found more), ih later, line_eq,
      List.cons_append]
  | case4 line c rest other ih =>
    have line_eq : lineAfter line (c :: rest) = lineAfter (lineAfter line [c]) rest :=
      lineAfter_append line [c] rest
    rw [List.cons_append, scanFrom, if_neg other, ih closed, line_eq]

/-- Where a span of a text stands: the spans before it are those of the text up to its brace. -/
theorem scanFrom_cases {line : Nat} {text : Text} {before later : List Span} {span : Span}
    (scanned : scanFrom line text = before ++ span :: later) :
    ∃ front inner rest, text = front ++ '{' :: (inner ++ rest) ∧ scanFrom line front = before ∧
      (∀ earlier ∈ before, earlier.closed = true) ∧
      (close .opened (inner ++ rest) = some (inner, rest) ∧
          span = ⟨'{' :: inner, lineAfter line front, true⟩ ∨
        rest = [] ∧ close .opened inner = none ∧
          span = ⟨'{' :: inner, lineAfter line front, false⟩) := by
  fun_induction scanFrom line text generalizing before with
  | case1 line => simp at scanned
  | case2 line inner unclosed =>
    obtain ⟨rfl, rfl, -⟩ : before = [] ∧ span = ⟨'{' :: inner, line, false⟩ ∧ later = [] := by
      cases before <;> simp_all
    exact ⟨[], inner, [], by simp, by rw [scanFrom], by simp, Or.inr ⟨rfl, unclosed, rfl⟩⟩
  | case3 line text inner after found ih =>
    obtain rfl := close_append found
    cases before with
    | nil =>
      obtain ⟨rfl, -⟩ := List.cons.inj scanned
      exact ⟨[], inner, after, rfl, by rw [scanFrom], by simp, Or.inl ⟨found, rfl⟩⟩
    | cons first before =>
      obtain ⟨rfl, more⟩ := List.cons.inj scanned
      obtain ⟨front, body, rest, rfl, scannedFront, closed, here⟩ := ih more
      have line_eq : lineAfter (lineAfter line inner) front = lineAfter line ('{' :: (inner ++ front)) :=
        (lineAfter_append line ('{' :: inner) front).symm
      refine ⟨'{' :: (inner ++ front), body, rest, by simp, ?_, ?_, line_eq ▸ here⟩
      · rw [scanFrom_closed (close_span found front), scannedFront]
      · exact List.forall_mem_cons.mpr ⟨rfl, closed⟩
  | case4 line c text other ih =>
    obtain ⟨front, body, rest, rfl, scannedFront, closed, here⟩ := ih scanned
    have line_eq : lineAfter (lineAfter line [c]) front = lineAfter line (c :: front) :=
      (lineAfter_append line [c] front).symm
    refine ⟨c :: front, body, rest, rfl, ?_, closed, line_eq ▸ here⟩
    rw [scanFrom, if_neg other, scannedFront]

end Span

theorem closed_of_extracted {text : Text} {values : List Json}
    (extracted : extractFixtures text = .ok values) : ∀ span ∈ Span.scan text, span.closed = true := by
  intro span member
  obtain ⟨value, read⟩ := exists_of_mapM_eq_ok extracted member
  exact (Span.value_eq_ok_iff.mp read).1

theorem scan_append {text : Text} {values : List Json} (extracted : extractFixtures text = .ok values)
    (more : Text) :
    Span.scan (text ++ more) = Span.scan text ++ Span.scanFrom (1 + text.count '\n') more :=
  Span.scanFrom_append (closed_of_extracted extracted) more

theorem extractFixtures_append {text : Text} {values : List Json}
    (extracted : extractFixtures text = .ok values) (more : Text) :
    extractFixtures (text ++ more) =
      match extractFixtures more with
      | .ok others => .ok (values ++ others)
      | .error error => .error (error.shift (text.count '\n')) := by
  have behind : (Span.scanFrom (1 + text.count '\n') more).mapM Span.value =
      (extractFixtures more).mapError (FixtureError.shift (text.count '\n')) := by
    rw [Span.scanFrom_shift, Span.mapM_shift]
    rfl
  have first : (Span.scan text).mapM Span.value = .ok values := extracted
  rw [extractFixtures, scan_append extracted, List.mapM_append, first, behind]
  cases extractFixtures more <;> rfl

/-- How the span fails that the brace before `inner` opens. Either it is closed behind `inner` and no
JSON value, or it is never closed. -/
inductive Span.FailsWith (line : Nat) (inner : Text) : Text → FixtureError → Prop
  | malformed {rest : Text} {error : JsonError}
      (closed : close .opened (inner ++ rest) = some (inner, rest))
      (unread : Json.read ('{' :: inner) = .error error) :
      FailsWith line inner rest ⟨'{' :: inner, line, .json error⟩
  | unclosed (never : close .opened inner = none) :
      FailsWith line inner [] ⟨firstLine ('{' :: inner), line, .unclosed⟩

theorem Span.FailsWith.scanFrom {line : Nat} {inner rest : Text} {error : FixtureError}
    (fails : Span.FailsWith line inner rest error) :
    (Span.scanFrom line ('{' :: (inner ++ rest))).mapM Span.value = .error error := by
  apply mapM_eq_error_iff.mpr
  cases fails with
  | malformed closed unread =>
    refine ⟨[], _, _, [], Span.scanFrom_closed closed line, rfl, ?_⟩
    simp only [Span.value, if_true, unread]
    rfl
  | unclosed never =>
    rw [List.append_nil]
    exact ⟨[], _, [], [], Span.scanFrom_unclosed never line, rfl, rfl⟩

theorem extractFixtures_eq_error_iff {text : Text} {error : FixtureError} :
    extractFixtures text = .error error ↔ ∃ front inner rest values,
      text = front ++ '{' :: (inner ++ rest) ∧ extractFixtures front = .ok values ∧
        Span.FailsWith (1 + front.count '\n') inner rest error := by
  constructor
  · intro failed
    obtain ⟨before, span, later, values, scanned, good, bad⟩ := mapM_eq_error_iff.mp failed
    obtain ⟨front, inner, rest, rfl, scannedFront, -, here⟩ := Span.scanFrom_cases scanned
    have extracted : extractFixtures front = .ok values := by
      rw [extractFixtures, Span.scan, scannedFront]
      exact good
    refine ⟨front, inner, rest, values, rfl, extracted, ?_⟩
    rcases here with ⟨closed, rfl⟩ | ⟨rfl, unclosed, rfl⟩
    · simp only [Span.value, if_true] at bad
      cases read : Json.read ('{' :: inner) with
      | ok value =>
        rw [read] at bad
        cases bad
      | error fault =>
        rw [read] at bad
        cases bad
        exact .malformed closed read
    · cases bad
      exact .unclosed unclosed
  · rintro ⟨front, inner, rest, values, rfl, extracted, fails⟩
    have first : (Span.scan front).mapM Span.value = .ok values := extracted
    rw [extractFixtures, scan_append extracted, List.mapM_append, first]
    exact bind_eq_error.mpr (Or.inr ⟨values, rfl, bind_eq_error.mpr (Or.inl fails.scanFrom)⟩)

/-- Extraction goes along a text part by part. Behind a part that gives fixtures come those of the rest,
or its error further down; a malformed span fails whatever stands behind it; and the error names the
first span that is no fixture. -/
theorem extractFixtures_compositional (text : Text) :
    (∀ values, extractFixtures text = .ok values → ∀ more, extractFixtures (text ++ more) =
      match extractFixtures more with
      | .ok others => .ok (values ++ others)
      | .error error => .error { error with line := error.line + text.count '\n' }) ∧
    (∀ error, extractFixtures text = .error error → error.fault ≠ .unclosed →
      ∀ more, extractFixtures (text ++ more) = .error error) ∧
    ∀ error, extractFixtures text = .error error ↔ ∃ front inner rest values,
      text = front ++ '{' :: (inner ++ rest) ∧ extractFixtures front = .ok values ∧
        Span.FailsWith (1 + front.count '\n') inner rest error := by
  refine ⟨fun values extracted => extractFixtures_append extracted, ?_,
    fun error => extractFixtures_eq_error_iff⟩
  intro error failed isClosed more
  obtain ⟨front, inner, rest, values, rfl, extracted, fails⟩ := extractFixtures_eq_error_iff.mp failed
  cases fails with
  | malformed closed unread =>
    have longer : Span.close .opened (inner ++ (rest ++ more)) = some (inner, rest ++ more) :=
      Span.close_span closed (rest ++ more)
    exact extractFixtures_eq_error_iff.mpr
      ⟨front, inner, rest ++ more, values, by simp, extracted, .malformed longer unread⟩
  | unclosed never => exact absurd rfl isClosed

/-- The quote behind the backslash belongs to a key, and so does the brace behind it; the key has no
value. -/
theorem extractFixtures_compositional_key :
    let good := "\x7b\"a\": 1\x7d\n".toList
    let bad := "\x7b\"\\\"\x7d\"\x7d".toList
    let fault : FixtureFault := .json ⟨.expectedColon, 1, 7⟩
    extractFixtures good = .ok [.object [(['a'], .number (.integer 1))]] ∧
      extractFixtures bad = .error ⟨bad, 1, fault⟩ ∧ fault ≠ .unclosed ∧
      extractFixtures (good ++ bad) = .error ⟨bad, 2, fault⟩ ∧
      ∀ more, extractFixtures (bad ++ more) = .error ⟨bad, 1, fault⟩ := by
  intro good bad fault
  have extracted : extractFixtures good = .ok [.object [(['a'], .number (.integer 1))]] := by
    with_unfolding_all rfl
  have failed : extractFixtures bad = .error ⟨bad, 1, fault⟩ := by with_unfolding_all rfl
  have isClosed : fault ≠ .unclosed := nofun
  have whole := (extractFixtures_compositional good).1 _ extracted bad
  rw [failed] at whole
  exact ⟨extracted, failed, isClosed, whole,
    (extractFixtures_compositional bad).2.1 _ failed isClosed⟩

end ApiBlueprint

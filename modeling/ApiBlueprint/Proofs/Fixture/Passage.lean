import ApiBlueprint.Fixture.Span

/-!
Stretches of text that the scanner of spans reads without closing a span. A balanced stretch leaves
the scanner as it was, at any depth.
-/

namespace ApiBlueprint
namespace Span

/-- Reading `text` takes the scanner from `state` to `next`, and no span is closed on the way. -/
def Passes (state next : SpanState) (text : Text) : Prop :=
  ∀ rest, close state (text ++ rest) =
    (close next rest).map fun (span, after) => (text ++ span, after)

theorem passes_nil (state : SpanState) : Passes state state [] := by
  intro rest
  simp

theorem passes_append {first second third : SpanState} {left right : Text}
    (before : Passes first second left) (behind : Passes second third right) :
    Passes first third (left ++ right) := by
  intro rest
  rw [List.append_assoc, before, behind]
  simp [Function.comp_def]

theorem passes_single {state next : SpanState} {c : Char} (steps : state.step c = next)
    (stays : next.depth ≠ 0) : Passes state next [c] := by
  intro rest
  simp [close, steps, stays]

/-- Inside a span and outside of strings, `depth` levels below the brace that opens it. -/
def outside (depth : Nat) : SpanState := ⟨depth + 1, false, false⟩

/-- Inside a string of such a span. -/
def inside (depth : Nat) : SpanState := ⟨depth + 1, true, false⟩

@[simp] theorem depth_outside (depth : Nat) : (outside depth).depth ≠ 0 := Nat.succ_ne_zero depth
@[simp] theorem depth_inside (depth : Nat) : (inside depth).depth ≠ 0 := Nat.succ_ne_zero depth

/-- The scanner stands behind the text as it stood before, and has closed no span. -/
def Balanced (text : Text) : Prop := ∀ depth, Passes (outside depth) (outside depth) text

theorem balanced_nil : Balanced [] := fun depth => passes_nil (outside depth)

def IsPlain (c : Char) : Prop := c ≠ '"' ∧ c ≠ '{' ∧ c ≠ '}'

instance (c : Char) : Decidable (IsPlain c) := inferInstanceAs (Decidable (_ ∧ _ ∧ _))

theorem passes_plain (depth : Nat) {c : Char} (plain : IsPlain c) :
    Passes (outside depth) (outside depth) [c] := by
  apply passes_single _ (depth_outside depth)
  simp [outside, SpanState.step, plain.1, plain.2.1, plain.2.2]

theorem balanced_of_plain {text : Text} (plain : ∀ c ∈ text, IsPlain c) : Balanced text := by
  induction text with
  | nil => exact balanced_nil
  | cons c rest ih =>
    have tail := ih fun d member => plain d (List.mem_cons_of_mem c member)
    intro depth
    exact passes_append (passes_plain depth (plain c List.mem_cons_self)) (tail depth)

theorem balanced_braces {text : Text} (balanced : Balanced text) :
    Balanced ('{' :: text ++ ['}']) := by
  intro depth
  have opens : Passes (outside depth) (outside (depth + 1)) ['{'] :=
    passes_single rfl (depth_outside _)
  have closes : Passes (outside (depth + 1)) (outside depth) ['}'] :=
    passes_single rfl (depth_outside _)
  exact passes_append (passes_append opens (balanced (depth + 1))) closes

theorem close_balanced {text : Text} (balanced : Balanced text) (rest : Text) :
    close .opened (text ++ '}' :: rest) = some (text ++ ['}'], rest) := by
  have ends : close (outside 0) ('}' :: rest) = some (['}'], rest) := rfl
  calc
    close .opened (text ++ '}' :: rest) =
        (close (outside 0) ('}' :: rest)).map fun (span, after) => (text ++ span, after) :=
      balanced 0 _
    _ = some (text ++ ['}'], rest) := by rw [ends, Option.map_some]

theorem passes_opening_quote (depth : Nat) : Passes (outside depth) (inside depth) ['"'] :=
  passes_single rfl (depth_inside depth)

theorem passes_closing_quote (depth : Nat) : Passes (inside depth) (outside depth) ['"'] :=
  passes_single rfl (depth_outside depth)

theorem passes_inside (depth : Nat) {c : Char} (quote : c ≠ '"') (backslash : c ≠ '\\') :
    Passes (inside depth) (inside depth) [c] := by
  apply passes_single _ (depth_inside depth)
  simp [inside, SpanState.step, quote, backslash]

/-- A backslash hides the character behind it, whichever that is. -/
theorem passes_escape (depth : Nat) (c : Char) :
    Passes (inside depth) (inside depth) ['\\', c] := by
  have escapes : Passes (inside depth) ⟨depth + 1, true, true⟩ ['\\'] :=
    passes_single rfl (Nat.succ_ne_zero depth)
  have hides : Passes ⟨depth + 1, true, true⟩ (inside depth) [c] :=
    passes_single rfl (depth_inside depth)
  exact passes_append escapes hides

end Span
end ApiBlueprint

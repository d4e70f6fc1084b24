import ApiBlueprint.Text.Basic

/-!
Spans of balanced braces in a text. Braces inside double quotes do not count.
-/

namespace ApiBlueprint

/-- A span from an opening brace to the brace that closes it, or to the end of the text. -/
structure Span where
  text : Text
  line : Nat
  closed : Bool
  deriving DecidableEq, Repr

structure SpanState where
  depth : Nat
  inString : Bool := false
  escaped : Bool := false
  deriving DecidableEq, Repr

namespace SpanState

def opened : SpanState := ⟨1, false, false⟩

/-- The state after one more character; depth zero means that the span is closed. -/
def step (state : SpanState) (c : Char) : SpanState :=
  if state.inString then
    if state.escaped then { state with escaped := false }
    else if c = '\\' then { state with escaped := true }
    else if c = '"' then { state with inString := false }
    else state
  else if c = '"' then { state with inString := true }
  else if c = '{' then { state with depth := state.depth + 1 }
  else if c = '}' then { state with depth := state.depth - 1 }
  else state

end SpanState

namespace Span

def close (state : SpanState) : Text → Option (Text × Text)
  | [] => none
  | c :: rest =>
    let next := state.step c
    if next.depth = 0 then some ([c], rest)
    else (close next rest).map fun (span, after) => (c :: span, after)

theorem close_append {state : SpanState} {text span after : Text}
    (closed : close state text = some (span, after)) : span ++ after = text := by
  induction text generalizing state span after with
  | nil => simp [close] at closed
  | cons c rest ih =>
    simp only [close] at closed
    split at closed
    · simp only [Option.some.injEq, Prod.mk.injEq] at closed
      simp [← closed.1, closed.2]
    · obtain ⟨⟨tail, remaining⟩, found, equal⟩ := Option.map_eq_some_iff.mp closed
      obtain ⟨rfl, rfl⟩ := Prod.mk.inj equal
      rw [List.cons_append, ih found]

def lineAfter (line : Nat) (text : Text) : Nat := line + text.count '\n'

def scanFrom (line : Nat) : Text → List Span
  | [] => []
  | c :: rest =>
    if c = '{' then
      match _found : close .opened rest with
      | none => [⟨c :: rest, line, false⟩]
      | some (span, after) => ⟨c :: span, line, true⟩ :: scanFrom (lineAfter line span) after
    else scanFrom (lineAfter line [c]) rest
  termination_by text => text.length
  decreasing_by
    · have := congrArg List.length (close_append _found)
      simp at this
      simp
      omega
    · simp

def scan (text : Text) : List Span := scanFrom 1 text

end Span
end ApiBlueprint

import ApiBlueprint.Proofs.Grammar.Renumber

/-!
Lines that stand further down: what is read from them is the same, with larger line numbers. So it is
whatever the new numbers are.
-/

namespace ApiBlueprint

section Shift

variable (n : Nat)

def Line.shift (line : Line) : Line := { line with number := line.number + n }
def Fence.shift (fence : Fence) : Fence := { fence with openedAt := fence.openedAt + n }
def GrammarError.shift (error : GrammarError) : GrammarError := { error with line := error.line + n }
def Payload.shift (payload : Payload) : Payload := { payload with line := payload.line + n }

def Action.shift (action : Action) : Action :=
  { action with
    requests := action.requests.map (Payload.shift n)
    responses := action.responses.map (Payload.shift n)
    line := action.line + n }

def Resource.shift (resource : Resource) : Resource :=
  { resource with
    actions := resource.actions.map (Action.shift n)
    line := resource.line + n }

def Group.shift (group : Group) : Group :=
  { group with resources := group.resources.map (Resource.shift n) }

def shifted {α β : Type} (change : α → β) (outcome : Except GrammarError α) : Except GrammarError β :=
  (outcome.map change).mapError (GrammarError.shift n)

end Shift

section Outcomes

variable {n : Nat} {α β γ δ : Type} {change : α → β} {change' : γ → δ}

@[simp] theorem shifted_ok (value : α) : shifted n change (.ok value) = .ok (change value) := rfl

theorem shifted_bind {first : Except GrammarError α} {next : α → Except GrammarError γ}
    {next' : β → Except GrammarError δ}
    (each : ∀ value, next' (change value) = shifted n change' (next value)) :
    (shifted n change first >>= next') = shifted n change' (first >>= next) :=
  @renumbered_bind (· + n) α β γ δ change change' first next next' fun value _ => each value

end Outcomes

theorem splitLines_append (before text : Text) :
    splitLines (before ++ '\n' :: text) =
      splitLines before ++ (splitLines text).map (Line.shift (splitLines before).length) := by
  have parts : (before ++ '\n' :: text).splitOn '\n' = before.splitOn '\n' ++ text.splitOn '\n' :=
    List.splitOnP_append_cons before text rfl
  have count : (splitLines before).length = (before.splitOn '\n').length := by
    simp [splitLines]
  rw [count]
  simp only [splitLines, parts, List.zipIdx_append, List.map_append, List.map_map]
  congr 1
  rw [Nat.add_comm 1, ← List.map_snd_add_zipIdx_eq_zipIdx]
  simp [Function.comp_def, Line.shift]

variable {n : Nat}

theorem Fence.advance_shift (opened : Option Fence) (line : Line) :
    advance (opened.map (shift n)) (line.shift n) =
      ((advance opened line).1, (advance opened line).2.map (shift n)) :=
  advance_renumber (· + n) opened line

theorem Heading.detect_shift (line : Line) (next : Option Line) :
    detect? (line.shift n) (next.map (Line.shift n)) = detect? line next :=
  detect_renumber (· + n) line next

theorem Payload.content_shift (item : Line) (rest : List Line) :
    content (item.shift n) (rest.map (Line.shift n)) = (content item rest).map (Line.shift n) :=
  content_renumber (· + n) item rest

theorem Payload.build_shift (item : PayloadItem) (first : Line) (content : List Line) :
    build item (first.shift n) (content.map (Line.shift n)) =
      shifted n (shift n) (build item first content) :=
  build_renumber (· + n) item first content

end ApiBlueprint

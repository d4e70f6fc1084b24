import ApiBlueprint.Proofs.Grammar.Log
import ApiBlueprint.Proofs.Grammar.Step

/-!
Reading in two parts. The lines before one that is not looked past are read as if nothing came after
them, whatever stands there and whether or not they can be read.
-/

namespace ApiBlueprint
namespace Reading

def after (state : Reading) : List Line → Except GrammarError Reading
  | [] => .ok state
  | line :: rest => do
    let (next, taken) ← state.step line rest
    next.after (rest.drop taken)
  termination_by lines => lines.length
  decreasing_by
    simp only [List.length_drop, List.length_cons]
    omega

/-- By induction on the number of lines. -/
theorem run_eq_after (state : Reading) (lines : List Line) :
    state.run lines = state.after lines >>= finish := by
  induction length : lines.length using Nat.strong_induction_on generalizing state lines with
  | _ count ih =>
    cases lines with
    | nil =>
      rw [run, after]
      rfl
    | cons line rest =>
      rw [run, after]
      cases stepped : state.step line rest with
      | error error => rfl
      | ok answer =>
        have shorter : (rest.drop answer.2).length < count := by
          rw [← length, List.length_drop, List.length_cons]
          omega
        exact ih _ shorter answer.1 _ rfl

/-- By induction on the number of lines: no step looks past the line that breaks. -/
theorem run_front {first : Line} {tail : List Line} (breaks : first.Breaks) (state : Reading)
    (front : List Line) :
    state.run (front ++ first :: tail) = state.after front >>= fun last => last.run (first :: tail) := by
  induction length : front.length using Nat.strong_induction_on generalizing state front with
  | _ count ih =>
    cases front with
    | nil =>
      rw [after]
      rfl
    | cons line rest =>
      rw [List.cons_append, run, after, step_append breaks]
      cases stepped : state.step line rest with
      | error error => rfl
      | ok answer =>
        obtain ⟨next, taken⟩ := answer
        have shorter : (rest.drop taken).length < count := by
          rw [← length, List.length_drop, List.length_cons]
          omega
        have dropped : (rest ++ first :: tail).drop taken = rest.drop taken ++ first :: tail :=
          List.drop_append_of_le_length (taken_le stepped)
        calc
          next.run ((rest ++ first :: tail).drop taken) = next.run (rest.drop taken ++ first :: tail) := by
            rw [dropped]
          _ = next.after (rest.drop taken) >>= fun last => last.run (first :: tail) :=
            ih _ shorter next _ rfl

/-- By induction on the number of lines: a reading of more reaches the state behind the first lines. -/
theorem Reached.front {source : Text} {first : Line} {tail : List Line} (breaks : first.Breaks)
    {state last : Reading} {front : List Line} {log : List Entry}
    (reached : Reached source state (front ++ first :: tail) log) (ends : state.after front = .ok last) :
    ∃ added, Reached source last (first :: tail) (log ++ added) := by
  induction length : front.length using Nat.strong_induction_on generalizing state front log with
  | _ count ih =>
    cases front with
    | nil =>
      rw [after] at ends
      obtain rfl := Except.ok.inj ends
      exact ⟨[], (List.append_nil log).symm ▸ reached⟩
    | cons line rest =>
      rw [after] at ends
      obtain ⟨⟨next, taken⟩, stepped, ends⟩ := bind_eq_ok.mp ends
      have shorter : (rest.drop taken).length < count := by
        rw [← length, List.length_drop, List.length_cons]
        omega
      have dropped : (rest ++ first :: tail).drop taken = rest.drop taken ++ first :: tail :=
        List.drop_append_of_le_length (taken_le stepped)
      have moved := reached.step ((step_append breaks state line rest).trans stepped)
      obtain ⟨added, there⟩ := ih _ shorter (dropped ▸ moved) ends rfl
      rw [List.append_assoc] at there
      exact ⟨_, there⟩

end Reading
end ApiBlueprint

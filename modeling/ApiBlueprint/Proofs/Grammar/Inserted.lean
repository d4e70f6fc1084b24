import ApiBlueprint.Proofs.Grammar.Layout
import ApiBlueprint.Proofs.Grammar.Relabel

/-! Lines that are put in between others: those behind get larger numbers, and so does what is read there. -/

namespace ApiBlueprint

/-- The number of a line when `count` lines are put in behind the line `last`. -/
def inserted (last count line : Nat) : Nat := if last < line then line + count else line

def Blueprint.renumber (place : Nat → Nat) : Blueprint → Blueprint :=
  relabel place (Payload.renumber place)

theorem mem_numbered_number {start : Nat} {texts : List Text} {line : Line}
    (member : line ∈ numbered start texts) : start ≤ line.number ∧ line.number < start + texts.length := by
  induction texts generalizing start with
  | nil => cases member
  | cons text texts ih =>
    rw [List.length_cons]
    rcases List.mem_cons.mp member with rfl | later
    · exact ⟨Nat.le_refl _, Nat.lt_add_of_pos_right (Nat.succ_pos _)⟩
    · have inside := ih later
      omega

section Inserted

variable {last count start : Nat} {texts : List Text}

theorem inserted_numbered (behind : last < start) :
    (numbered start texts).map (Line.renumber (inserted last count)) = numbered (start + count) texts := by
  induction texts generalizing start with
  | nil => rfl
  | cons text texts ih =>
    have here : inserted last count start = start + count := if_pos behind
    rw [numbered, List.map_cons, ih (Nat.lt_succ_of_lt behind), Line.renumber, here, numbered,
      Nat.add_right_comm]

theorem numbered_inserted (before : start + texts.length ≤ last + 1) :
    (numbered start texts).map (Line.renumber (inserted last count)) = numbered start texts := by
  refine (List.map_congr_left fun line member => ?_).trans (List.map_id' _)
  have here := mem_numbered_number member
  have kept : inserted last count line.number = line.number := if_neg (by omega)
  rw [Line.renumber, kept]

end Inserted

theorem splitLines_between {before middle after : List Text} (some : middle ≠ [])
    (rows : ∀ text ∈ middle, IsRow text) (lines : ∀ text ∈ before ++ after, Text.IsLine text) :
    splitLines (Text.joinWith ['\n'] (before ++ (middle ++ after))) =
      numbered 1 (before.map Line.dropReturn) ++ (numbered (before.length + 1) middle ++
        numbered (before.length + 1 + middle.length) (after.map Line.dropReturn)) := by
  obtain ⟨inFront, inBehind⟩ := List.forall_mem_append.mp lines
  have all : ∀ text ∈ before ++ (middle ++ after), Text.IsLine text := by
    rw [List.forall_mem_append, List.forall_mem_append]
    exact ⟨inFront, fun text member => (rows text member).line, inBehind⟩
  rw [splitLines_lines (by simp [some]) all, List.map_append, List.map_append, dropReturn_rows rows,
    numbered_append, numbered_append, List.length_map, Nat.add_comm 1]

end ApiBlueprint

import ApiBlueprint.Random.Uniform
import Mathlib.Data.List.GetD

/-! What a draw can come to, for every stream: the range of a number, the members of a list. -/

namespace ApiBlueprint
namespace RandomStream

theorem drawBelow_lt {bits bound : Nat} {draw : RandomStream → Nat × RandomStream}
    (positive : 0 < bound) (fits : ∀ stream, (draw stream).1 < Nat.pow 2 bits) (fuel : Nat)
    (stream : RandomStream) : (drawBelow bits draw bound fuel stream).1 < bound := by
  induction fuel generalizing stream with
  | zero => exact positive
  | succ fuel ih =>
    simp only [drawBelow]
    split
    · have product : (draw stream).1 * bound < Nat.pow 2 bits * bound :=
        Nat.mul_lt_mul_of_pos_right (fits stream) positive
      exact Nat.div_lt_of_lt_mul product
    · exact ih (draw stream).2

/-- A draw that goes on until a word is accepted, with the number of those that are not. -/
inductive Draws (bits : Nat) (draw : RandomStream → Nat × RandomStream) (bound : Nat) :
    Nat → RandomStream → Nat × RandomStream → Prop
  | accept {stream : RandomStream}
      (accepted : (draw stream).1 * bound % Nat.pow 2 bits ≤ zone bits bound) :
      Draws bits draw bound 0 stream ((draw stream).1 * bound / Nat.pow 2 bits, (draw stream).2)
  | redraw {count : Nat} {stream : RandomStream} {result : Nat × RandomStream}
      (beyond : zone bits bound < (draw stream).1 * bound % Nat.pow 2 bits)
      (later : Draws bits draw bound count (draw stream).2 result) :
      Draws bits draw bound (count + 1) stream result

/-- A draw with fuel comes to what a draw without a limit comes to, unless that passes over as many words
as there is fuel. Then it settles on zero. -/
theorem drawBelow_exact (bits bound : Nat) (draw : RandomStream → Nat × RandomStream) (fuel : Nat)
    (stream : RandomStream) :
    (∀ count result, Draws bits draw bound count stream result → count < fuel →
      drawBelow bits draw bound fuel stream = result) ∧
    ((∀ count result, Draws bits draw bound count stream result → fuel ≤ count) →
      (drawBelow bits draw bound fuel stream).1 = 0) := by
  induction fuel generalizing stream with
  | zero => exact ⟨fun count _ _ early => absurd early count.not_lt_zero, fun _ => rfl⟩
  | succ fuel ih =>
    obtain ⟨reaches, settles⟩ := ih (draw stream).2
    simp only [drawBelow]
    split
    · rename_i accepted
      constructor
      · intro count result draws early
        cases draws with
        | accept _ => rfl
        | redraw beyond _ => exact absurd accepted (Nat.not_le.mpr beyond)
      · intro late
        exact absurd (late 0 _ (.accept accepted)) (Nat.not_succ_le_zero fuel)
    · rename_i rejected
      constructor
      · intro count result draws early
        cases draws with
        | accept accepted => exact absurd accepted rejected
        | redraw _ later => exact reaches _ result later (Nat.lt_of_succ_lt_succ early)
      · intro late
        exact settles fun count result draws =>
          Nat.le_of_succ_le_succ (late _ result (.redraw (Nat.not_le.mp rejected) draws))

theorem nextWord_lt (stream : RandomStream) : stream.nextWord.1 < Nat.pow 2 32 :=
  stream.word.1.toNat_lt

theorem nextLongWord_lt (stream : RandomStream) : stream.nextLongWord.1 < Nat.pow 2 64 :=
  stream.longWord.1.toNat_lt

theorem below_lt {bound : Nat} (positive : 0 < bound) (stream : RandomStream) :
    (stream.below bound).1 < bound :=
  drawBelow_lt positive nextWord_lt attempts stream

theorem belowLong_lt {bound : Nat} (positive : 0 < bound) (stream : RandomStream) :
    (stream.belowLong bound).1 < bound :=
  drawBelow_lt positive nextLongWord_lt attempts stream

/-- The fallback of a pick is for an empty list alone. -/
theorem exists_picked {α : Type} {choices : List α} (nonempty : choices ≠ []) (stream : RandomStream) :
    ∃ value ∈ choices, ∀ fallback, (stream.pick fallback choices).1 = value := by
  have inside : (stream.below choices.length).1 < choices.length :=
    below_lt (List.length_pos_iff.mpr nonempty) stream
  exact ⟨choices[(stream.below choices.length).1], List.getElem_mem inside,
    fun fallback => List.getD_eq_getElem choices fallback inside⟩

theorem pick_mem {α : Type} (fallback : α) {choices : List α} (nonempty : choices ≠ [])
    (stream : RandomStream) : (stream.pick fallback choices).1 ∈ choices := by
  obtain ⟨value, member, picked⟩ := exists_picked nonempty stream
  rw [picked]
  exact member

section Repeated

variable {α : Type} {draw : RandomStream → α × RandomStream}

theorem length_repeated (count : Nat) (stream : RandomStream) :
    (repeated draw count stream).1.length = count := by
  induction count generalizing stream with
  | zero => rfl
  | succ count ih =>
    simp only [repeated, List.length_cons]
    rw [ih]

theorem forall_mem_repeated (holds : α → Prop) (each : ∀ stream, holds (draw stream).1)
    (count : Nat) (stream : RandomStream) : ∀ value ∈ (repeated draw count stream).1, holds value := by
  induction count generalizing stream with
  | zero =>
    intro value member
    cases member
  | succ count ih =>
    intro value member
    rcases List.mem_cons.mp member with rfl | later
    · exact each stream
    · exact ih (draw stream).2 value later

end Repeated

end RandomStream
end ApiBlueprint

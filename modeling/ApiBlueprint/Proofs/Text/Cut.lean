import ApiBlueprint.Text.Basic

/-! Texts cut into stretches of two kinds that take turns: gaps, and inserts between them. -/

namespace ApiBlueprint

/-- Each insert with the gap before it, and the gap at the end. -/
structure Cut where
  parts : List (Text × Text) := []
  tail : Text := []
  deriving DecidableEq, Repr

namespace Cut

def text (cut : Cut) : Text := (cut.parts.flatMap fun (gap, insert) => gap ++ insert) ++ cut.tail
def gaps (cut : Cut) : List Text := cut.parts.map Prod.fst ++ [cut.tail]
def inserts (cut : Cut) : List Text := cut.parts.map Prod.snd

def stretches (cut : Cut) : List Text :=
  (cut.parts.flatMap fun (gap, insert) => [gap, insert]) ++ [cut.tail]

def delay (c : Char) : Cut → Cut
  | ⟨[], tail⟩ => ⟨[], c :: tail⟩
  | ⟨(gap, insert) :: parts, tail⟩ => ⟨(c :: gap, insert) :: parts, tail⟩

def push (insert : Text) (cut : Cut) : Cut := ⟨([], insert) :: cut.parts, cut.tail⟩

theorem text_cons (gap insert : Text) (parts : List (Text × Text)) (tail : Text) :
    text ⟨(gap, insert) :: parts, tail⟩ = gap ++ (insert ++ text ⟨parts, tail⟩) := by
  simp [text]

theorem flatten_stretches (cut : Cut) : cut.stretches.flatten = cut.text := by
  obtain ⟨parts, tail⟩ := cut
  induction parts with
  | nil => simp [stretches, text]
  | cons part parts ih =>
    rw [text_cons, ← ih]
    simp [stretches]

theorem mem_stretches_iff {cut : Cut} {stretch : Text} :
    stretch ∈ cut.stretches ↔ stretch ∈ cut.gaps ∨ stretch ∈ cut.inserts := by
  obtain ⟨parts, tail⟩ := cut
  induction parts with
  | nil => simp [stretches, gaps, inserts]
  | cons part parts ih =>
    have step : stretch ∈ stretches ⟨part :: parts, tail⟩ ↔
        stretch = part.1 ∨ stretch = part.2 ∨ stretch ∈ stretches ⟨parts, tail⟩ := by
      simp [stretches]
    rw [step, ih]
    simp only [gaps, inserts, List.map_cons, List.cons_append, List.mem_cons, or_assoc, or_left_comm]

@[simp] theorem text_delay (c : Char) (cut : Cut) : (cut.delay c).text = c :: cut.text := by
  obtain ⟨parts, tail⟩ := cut
  cases parts <;> simp [delay, text]

@[simp] theorem text_push (insert : Text) (cut : Cut) :
    (cut.push insert).text = insert ++ cut.text := by
  simp [push, text]

@[simp] theorem inserts_delay (c : Char) (cut : Cut) : (cut.delay c).inserts = cut.inserts := by
  obtain ⟨parts, tail⟩ := cut
  cases parts <;> rfl

@[simp] theorem inserts_push (insert : Text) (cut : Cut) :
    (cut.push insert).inserts = insert :: cut.inserts := rfl

@[simp] theorem gaps_push (insert : Text) (cut : Cut) :
    (cut.push insert).gaps = [] :: cut.gaps := rfl

theorem gaps_delay (c : Char) (cut : Cut) :
    ∃ first more, cut.gaps = first :: more ∧ (cut.delay c).gaps = (c :: first) :: more := by
  obtain ⟨parts, tail⟩ := cut
  cases parts with
  | nil => exact ⟨tail, [], rfl, rfl⟩
  | cons part parts => exact ⟨part.1, _, rfl, rfl⟩

end Cut
end ApiBlueprint

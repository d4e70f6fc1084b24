import ApiBlueprint.Proofs.Template.Basic

/-!
Interpolation of a template: each token of it gives way to what is drawn for its parts, and the white
space between tokens stays. Nothing drawn for a placeholder needs an escape inside quotes.
-/

namespace ApiBlueprint

namespace Placeholder

/-- Interpolation knows all placeholders of the text and makes the second text of it. -/
def Becomes (text : Text) (stream : RandomStream) (filled : Text) (after : RandomStream) : Prop :=
  replace (pieces text) stream = (filled, after) ∧ firstUnknown? (pieces text) = none

section Becomes

variable {text filled : Text} {stream after : RandomStream}

theorem becomes_nil (stream : RandomStream) : Becomes [] stream [] stream := by
  unfold Becomes
  rw [pieces]
  exact ⟨rfl, rfl⟩

theorem becomes_cons {c : Char} (other : c ≠ '|') (rest : Becomes text stream filled after) :
    Becomes (c :: text) stream (c :: filled) after := by
  obtain ⟨replaced, known⟩ := rest
  have spelled : pieces (c :: text) = .literal c :: pieces text :=
    pieces.eq_3 c text fun _ bar _ => other bar
  unfold Becomes
  rw [spelled]
  refine ⟨?_, known⟩
  rw [replace, replaced]

theorem becomes_append {literal : Text} (barless : '|' ∉ literal)
    (rest : Becomes text stream filled after) :
    Becomes (literal ++ text) stream (literal ++ filled) after := by
  induction literal with
  | nil => exact rest
  | cons c literal ih =>
    simp only [List.mem_cons, not_or] at barless
    exact becomes_cons (Ne.symm barless.1) (ih barless.2)

theorem token_isOver (placeholder : Placeholder) : IsOver isTokenCharacter placeholder.token := by
  cases placeholder <;> decide

theorem becomes_mark (placeholder : Placeholder)
    (rest : Becomes text (placeholder.draw stream).2 filled after) :
    Becomes (placeholder.mark ++ text) stream ((placeholder.draw stream).1 ++ filled) after := by
  obtain ⟨replaced, known⟩ := rest
  have found : token? (placeholder.token ++ '|' :: text) = some (placeholder.token, text) :=
    token?_eq_some_iff.mpr ⟨rfl, placeholder.token_isOver⟩
  have spelled : pieces (placeholder.mark ++ text) = .token placeholder.token :: pieces text := by
    have marked : placeholder.mark ++ text = '|' :: '~' :: (placeholder.token ++ '|' :: text) := by
      simp [mark]
    rw [marked]
    exact pieces_token found
  unfold Becomes
  rw [spelled]
  constructor
  · simp only [replace, of_token_token, replaced]
  · unfold firstUnknown? at known ⊢
    rw [List.findSome?_cons, known]
    simp [of_token_token]

theorem interpolate_of_becomes (becomes : Becomes text stream filled after) :
    interpolate text stream = (.ok filled, after) := by
  obtain ⟨replaced, known⟩ := becomes
  simp only [interpolate, replaced, known]

end Becomes

theorem writeCharacter_of_isValueCharacter {c : Char} (isValue : isValueCharacter c = true) :
    Json.writeCharacter c = [c] := by
  have printable : 32 ≤ c.toNat := by
    have none : ∀ code < 32, isValueCharacter (Char.ofNat code) = false := by decide
    by_contra control
    have other := none c.toNat (by omega)
    rw [Char.ofNat_toNat, isValue] at other
    cases other
  obtain ⟨⟨quote, -, -⟩, backslash, -⟩ := inert_of_isValueCharacter isValue
  have control {d : Char} (small : d.toNat < 32) : c ≠ d := by
    rintro rfl
    omega
  unfold Json.writeCharacter
  rw [if_neg quote, if_neg backslash, if_neg (control (by decide)), if_neg (control (by decide)),
    if_neg (control (by decide)), if_neg (control (by decide)), if_neg (control (by decide)),
    if_neg (Nat.not_lt.mpr printable)]

theorem flatMap_writeCharacter_draw (placeholder : Placeholder) (stream : RandomStream) :
    (placeholder.draw stream).1.flatMap Json.writeCharacter = (placeholder.draw stream).1 := by
  have isOver := placeholder.draw_isOver stream
  calc
    (placeholder.draw stream).1.flatMap Json.writeCharacter =
        (placeholder.draw stream).1.flatMap fun c => [c] := by
      apply List.flatMap_congr
      intro c member
      exact writeCharacter_of_isValueCharacter (isOver.characters c member)
    _ = (placeholder.draw stream).1 := List.flatMap_singleton' _

end Placeholder

namespace TemplatePart

open Placeholder (Becomes)

theorem drawAll_append (front back : List TemplatePart) (stream : RandomStream) :
    drawAll (front ++ back) stream =
      ((drawAll front stream).1 ++ (drawAll back (drawAll front stream).2).1,
        (drawAll back (drawAll front stream).2).2) := by
  induction front generalizing stream with
  | nil => rfl
  | cons part front ih => simp only [List.cons_append, drawAll, ih, List.append_assoc]

theorem drawAll_literal (text : Text) (stream : RandomStream) :
    drawAll [literal text] stream = (text, stream) := by
  simp [drawAll, draw]

theorem drawAll_escaped (parts : List TemplatePart) (stream : RandomStream) :
    drawAll (parts.map escaped) stream =
      ((drawAll parts stream).1.flatMap Json.writeCharacter, (drawAll parts stream).2) := by
  induction parts generalizing stream with
  | nil => rfl
  | cons part parts ih =>
    cases part with
    | literal text => simp only [List.map_cons, escaped, drawAll, draw, ih, List.flatMap_append]
    | slot placeholder =>
      simp only [List.map_cons, escaped, drawAll, draw, ih, List.flatMap_append,
        Placeholder.flatMap_writeCharacter_draw]

theorem drawAll_quoted (parts : List TemplatePart) (stream : RandomStream) :
    drawAll (quoted parts) stream =
      (Json.writeString (drawAll parts stream).1, (drawAll parts stream).2) := by
  have behind := drawAll_append (parts.map escaped) [literal ['"']] stream
  rw [drawAll_escaped, drawAll_literal] at behind
  simp only [quoted, drawAll, draw, behind]
  rfl

theorem writeCharacter_barless {c : Char} (other : c ≠ '|') : '|' ∉ Json.writeCharacter c := by
  by_cases control : c.toNat < 32
  · have none : ∀ code < 32, '|' ∉ Json.writeCharacter (Char.ofNat code) := by decide
    have barless := none c.toNat control
    rwa [Char.ofNat_toNat] at barless
  · unfold Json.writeCharacter
    rw [if_neg control]
    split_ifs <;> first | decide | simpa using Ne.symm other

theorem IsBarless.escaped {part : TemplatePart} (barless : part.IsBarless) :
    part.escaped.IsBarless := by
  cases part with
  | literal text =>
    intro member
    obtain ⟨c, inside, bar⟩ := List.mem_flatMap.mp member
    refine writeCharacter_barless ?_ bar
    rintro rfl
    exact barless inside
  | slot placeholder => trivial

theorem barless_quoted {parts : List TemplatePart} (barless : ∀ part ∈ parts, part.IsBarless) :
    ∀ part ∈ quoted parts, part.IsBarless := by
  have quote : (literal ['"']).IsBarless := by
    change '|' ∉ ['"']
    decide
  intro part member
  rcases List.mem_cons.mp member with rfl | later
  · exact quote
  · rcases List.mem_append.mp later with inside | last
    · obtain ⟨other, given, rfl⟩ := List.mem_map.mp inside
      exact (barless other given).escaped
    · exact List.mem_singleton.mp last ▸ quote

theorem becomes_drawAll {parts : List TemplatePart} (barless : ∀ part ∈ parts, part.IsBarless)
    {text filled : Text} {stream after : RandomStream}
    (rest : Becomes text (drawAll parts stream).2 filled after) :
    Becomes (parts.flatMap spelled ++ text) stream ((drawAll parts stream).1 ++ filled) after := by
  induction parts generalizing stream with
  | nil => exact rest
  | cons part parts ih =>
    obtain ⟨first, others⟩ := List.forall_mem_cons.mp barless
    rw [List.flatMap_cons, List.append_assoc, drawAll, List.append_assoc]
    cases part with
    | literal literal => exact Placeholder.becomes_append first (ih others rest)
    | slot placeholder => exact Placeholder.becomes_mark placeholder (ih others rest)

def drawTokens : List (List TemplatePart) → RandomStream → List Text × RandomStream
  | [], stream => ([], stream)
  | token :: rest, stream =>
    let (text, stream) := drawAll token stream
    let (more, stream) := drawTokens rest stream
    (text :: more, stream)

theorem drawTokens_append (front back : List (List TemplatePart)) (stream : RandomStream) :
    drawTokens (front ++ back) stream =
      ((drawTokens front stream).1 ++ (drawTokens back (drawTokens front stream).2).1,
        (drawTokens back (drawTokens front stream).2).2) := by
  induction front generalizing stream with
  | nil => rfl
  | cons token front ih => simp only [List.cons_append, drawTokens, ih]

theorem barless_of_spaces {blank : Text} (spaces : ∀ c ∈ blank, JsonReader.isSpace c = true) :
    '|' ∉ blank := by
  intro bar
  have space := spaces '|' bar
  revert space
  decide

/-- By induction on the tokens, each with the white space before it. -/
theorem becomes_laid {tokens : List (List TemplatePart)}
    (barless : ∀ token ∈ tokens, ∀ part ∈ token, part.IsBarless) {text : Text}
    (laid : Laid (tokens.map fun token => token.flatMap spelled) text) (stream : RandomStream) :
    ∃ filled, Becomes text stream filled (drawTokens tokens stream).2 ∧
      Laid (drawTokens tokens stream).1 filled := by
  induction tokens generalizing text stream with
  | nil =>
    cases laid with
    | nil spaces =>
      have kept := Placeholder.becomes_append (barless_of_spaces spaces) (Placeholder.becomes_nil stream)
      rw [List.append_nil] at kept
      exact ⟨text, kept, .nil spaces⟩
  | cons token tokens ih =>
    obtain ⟨first, others⟩ := List.forall_mem_cons.mp barless
    cases laid with
    | cons spaces rest =>
      obtain ⟨filled, becomes, drawn⟩ := ih others rest (drawAll token stream).2
      refine ⟨_, ?_, .cons spaces drawn⟩
      exact Placeholder.becomes_append (barless_of_spaces spaces) (becomes_drawAll first becomes)

end TemplatePart
end ApiBlueprint

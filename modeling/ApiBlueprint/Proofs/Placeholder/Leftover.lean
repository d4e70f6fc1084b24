import ApiBlueprint.Proofs.Placeholder.Pieces

/-!
Placeholders in a text that went through interpolation. None of them is left from the text before: a
drawn text stands in each, between a bar and a tilde on one side and a bar on the other that belonged
to no placeholder.
-/

namespace ApiBlueprint

open Placeholder (isTokenCharacter isValueCharacter)

def IsPlaceholder (text : Text) : Prop :=
  ∃ name, text = '|' :: '~' :: (name ++ ['|']) ∧ IsOver isTokenCharacter name

def HasPlaceholder (text : Text) : Prop := ∃ placeholder, IsPlaceholder placeholder ∧ placeholder <:+: text

theorem hasPlaceholder_iff {text : Text} :
    HasPlaceholder text ↔ ∃ left name right, IsOver isTokenCharacter name ∧
      text = left ++ '|' :: '~' :: (name ++ '|' :: right) := by
  constructor
  · rintro ⟨_, ⟨name, rfl, isName⟩, left, right, rfl⟩
    exact ⟨left, name, right, isName, by simp⟩
  · rintro ⟨left, name, right, isName, rfl⟩
    exact ⟨_, ⟨name, rfl, isName⟩, left, right, by simp⟩

def TextPiece.isSolid : TextPiece → Bool
  | .literal c => isTokenCharacter c
  | .token name => (Placeholder.ofToken? name).any Placeholder.isSolid

/-- Right behind a bar and a tilde stands a token, and then a bar, with nothing but pieces that are
solid from the token to the bar. -/
def HasGap (pieces : List TextPiece) : Prop :=
  ∃ front token between back,
    pieces = front ++ .literal '|' :: .literal '~' :: (.token token :: between ++ .literal '|' :: back) ∧
    ∀ piece ∈ .token token :: between, TextPiece.isSolid piece = true

namespace Placeholder
namespace Replaced

variable {pieces front back : List TextPiece} {text left right : Text}

theorem append_cases (replaced : Replaced (front ++ back) text) :
    ∃ left right, text = left ++ right ∧ Replaced front left ∧ Replaced back right := by
  induction front generalizing text with
  | nil => exact ⟨[], text, rfl, nil, replaced⟩
  | cons piece front ih =>
    cases replaced with
    | literal c rest =>
      obtain ⟨left, right, rfl, before, behind⟩ := ih rest
      exact ⟨c :: left, right, rfl, literal c before, behind⟩
    | token placeholder stream rest =>
      obtain ⟨left, right, rfl, before, behind⟩ := ih rest
      exact ⟨_, right, (List.append_assoc ..).symm, token placeholder stream before, behind⟩

/-- A character that no drawn text has was there before. -/
theorem cut {c : Char} (replaced : Replaced pieces (left ++ c :: right))
    (other : isValueCharacter c = false) :
    ∃ front back, pieces = front ++ .literal c :: back ∧ Replaced front left ∧ Replaced back right := by
  generalize equal : left ++ c :: right = text at replaced
  induction replaced generalizing left with
  | nil => simp at equal
  | @literal d pieces text rest ih =>
    cases left with
    | nil =>
      obtain ⟨rfl, rfl⟩ := List.cons.inj equal
      exact ⟨[], pieces, rfl, nil, rest⟩
    | cons e left =>
      obtain ⟨rfl, more⟩ := List.cons.inj equal
      obtain ⟨front, back, rfl, before, behind⟩ := ih more
      exact ⟨_, back, rfl, literal e before, behind⟩
  | @token placeholder stream pieces text rest ih =>
    have missing : c ∉ (placeholder.draw stream).1 := by
      intro member
      rw [(draw_isOver placeholder stream).characters c member] at other
      cases other
    have later : ∃ left', left = (placeholder.draw stream).1 ++ left' ∧ left' ++ c :: right = text := by
      rcases List.append_eq_append_iff.mp equal with ⟨value, drawn, reaches⟩ | ⟨left', before, behind⟩
      · cases value with
        | nil => exact ⟨[], by rw [drawn, List.append_nil, List.append_nil], reaches⟩
        | cons d value =>
          obtain ⟨rfl, -⟩ := List.cons.inj reaches
          rw [drawn] at missing
          exact absurd (List.mem_append_right left List.mem_cons_self) missing
      · exact ⟨left', before, behind.symm⟩
    obtain ⟨left', rfl, more⟩ := later
    obtain ⟨front, back, rfl, before, behind⟩ := ih more
    exact ⟨_, back, rfl, token placeholder stream before, behind⟩

theorem solid_iff (replaced : Replaced pieces text) :
    (∀ c ∈ text, isTokenCharacter c = true) ↔ ∀ piece ∈ pieces, piece.isSolid = true := by
  induction replaced with
  | nil => exact iff_of_true nofun nofun
  | literal c _ ih => rw [List.forall_mem_cons, List.forall_mem_cons, ih, TextPiece.isSolid]
  | token placeholder stream _ ih =>
    have value : (∀ c ∈ (placeholder.draw stream).1, isTokenCharacter c = true) ↔
        placeholder.isSolid = true :=
      ⟨isSolid_of_draw, fun solid => (draw_isSolid solid stream).characters⟩
    rw [List.forall_mem_append, List.forall_mem_cons, ih, value, TextPiece.isSolid,
      of_token_token, Option.any_some]

theorem ne_nil (replaced : Replaced pieces text) (some : pieces ≠ []) : text ≠ [] := by
  cases replaced with
  | nil => contradiction
  | literal c rest => exact List.cons_ne_nil c _
  | token placeholder stream rest =>
    exact List.append_ne_nil_of_left_ne_nil (draw_isOver placeholder stream).nonempty _

/-- A name that is made of pieces begins with a token, if a bar and a tilde stand before it. -/
theorem starts_with_token {source name : Text} {between : List TextPiece}
    (equal : Placeholder.pieces source =
      front ++ .literal '|' :: .literal '~' :: (between ++ .literal '|' :: back))
    (inside : Replaced between name) (isName : IsOver isTokenCharacter name) :
    ∃ token more, between = .token token :: more := by
  have solid := inside.solid_iff.mp isName.characters
  obtain ⟨characters, rest, rfl, ends⟩ := exists_leading_literals between
  rw [List.append_assoc] at equal
  by_cases none : characters = []
  · subst none
    rcases ends with rfl | token
    · cases inside
      exact absurd rfl isName.nonempty
    · exact token
  · have leading : IsOver isTokenCharacter characters := by
      refine ⟨none, fun c member => ?_⟩
      exact solid (.literal c) (List.mem_append_left rest (List.mem_map_of_mem member))
    rcases ends with rfl | ⟨token, more, rfl⟩
    · exact absurd equal (no_name_behind_stray (Or.inl rfl) leading)
    · exact absurd equal (no_name_behind_stray (Or.inr ⟨token, rfl⟩) leading)

/-- By cutting at the three characters that no drawn text has. -/
theorem hasPlaceholder_iff {source filled : Text} (replaced : Replaced (Placeholder.pieces source) filled) :
    HasPlaceholder filled ↔ HasGap (Placeholder.pieces source) := by
  rw [ApiBlueprint.hasPlaceholder_iff]
  constructor
  · rintro ⟨left, name, right, isName, rfl⟩
    obtain ⟨front, behindBar, equal, -, fromTilde⟩ := replaced.cut (by decide)
    rw [← List.nil_append ('~' :: _)] at fromTilde
    obtain ⟨gap, rest, rfl, nothing, fromName⟩ := fromTilde.cut (by decide)
    obtain rfl : gap = [] := by_contra fun some => nothing.ne_nil some rfl
    obtain ⟨between, back, rfl, inside, -⟩ := fromName.cut (by decide)
    have solid := inside.solid_iff.mp isName.characters
    obtain ⟨token, more, rfl⟩ := inside.starts_with_token equal isName
    exact ⟨front, token, more, back, equal, solid⟩
  · rintro ⟨front, token, between, back, equal, solid⟩
    rw [equal] at replaced
    obtain ⟨left, rest, rfl, -, behind⟩ := replaced.append_cases
    cases behind with | literal _ behind => ?_
    cases behind with | literal _ behind => ?_
    obtain ⟨middle, rest, rfl, inside, behind⟩ := behind.append_cases
    cases behind with | @literal _ _ right _ => ?_
    have isName : IsOver isTokenCharacter middle :=
      ⟨inside.ne_nil (List.cons_ne_nil _ _), inside.solid_iff.mpr solid⟩
    exact ⟨left, middle, right, isName, rfl⟩

end Replaced
end Placeholder

namespace Generator

/-- A text that went through has its placeholders replaced by texts of their kinds. It has one itself
exactly if the text before had a gap that the drawn texts close. -/
theorem process_leaves_placeholder_iff {stream : RandomStream} {text filled : Text}
    (processed : ((random stream).process text).1 = .ok filled) :
    Placeholder.Replaced (Placeholder.pieces text) filled ∧
      (HasPlaceholder filled ↔ HasGap (Placeholder.pieces text)) := by
  have replaced := Placeholder.replaced_of_interpolate (mapError_eq_ok.mp processed)
  exact ⟨replaced, replaced.hasPlaceholder_iff⟩

/-- Two drawn texts and a character of the text are the name of a placeholder. -/
theorem process_leaves_placeholder_joined :
    let text := "a |~|~person.age|.|~misc.bool|| b".toList
    let filled := "a |~76.false| b".toList
    ((seeded 0).process text).1 = .ok filled ∧ HasPlaceholder filled := by
  intro text filled
  have processed : ((seeded 0).process text).1 = .ok filled := by decide +kernel
  have gap : HasGap (Placeholder.pieces text) :=
    ⟨[.literal 'a', .literal ' '], "person.age".toList, [.literal '.', .token "misc.bool".toList],
      [.literal ' ', .literal 'b'], by decide +kernel, by decide⟩
  exact ⟨processed, (process_leaves_placeholder_iff processed).2.mpr gap⟩

theorem process_leaves_placeholder_word :
    ((seeded 0).process "|~|~text.word||".toList).1 = .ok "|~exercitation|".toList ∧
      HasPlaceholder "|~exercitation|".toList :=
  ⟨by decide +kernel, _, ⟨"exercitation".toList, rfl, by decide⟩, List.infix_rfl⟩

end Generator
end ApiBlueprint

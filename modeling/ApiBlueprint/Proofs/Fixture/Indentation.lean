import ApiBlueprint.Proofs.Include.Splice
import ApiBlueprint.Proofs.Fixture.Rendered
import ApiBlueprint.Proofs.Json.Spacing

/-!
Indenting the lines of a text keeps its fixtures. A fixture goes over several lines only where white
space may stand between its tokens, and the gaps get no brace.
-/

namespace ApiBlueprint

namespace Spaced

variable {text spaced : Text}

theorem mem_cases (widens : Spaced text spaced) {c : Char} (member : c ∈ spaced) :
    c ∈ text ∨ c = ' ' ∨ c = '\t' := by
  induction widens with
  | nil => exact Or.inl member
  | cons d rest ih =>
    rcases List.mem_cons.mp member with rfl | later
    · exact Or.inl List.mem_cons_self
    · exact (ih later).imp_left (List.mem_cons_of_mem d)
  | line blank rest ih =>
    rcases List.mem_cons.mp member with rfl | later
    · exact Or.inl List.mem_cons_self
    · rcases List.mem_append.mp later with inIndent | behind
      · exact Or.inr (blank c inIndent)
      · exact (ih behind).imp_left (List.mem_cons_of_mem _)

theorem append {left right left' right' : Text} (before : Spaced left left')
    (behind : Spaced right right') : Spaced (left ++ right) (left' ++ right') := by
  induction before with
  | nil => exact behind
  | cons c rest ih => exact cons c ih
  | line blank rest ih =>
    rw [List.cons_append, List.cons_append, List.append_assoc]
    exact line blank ih

theorem append_cases {left right : Text} (widens : Spaced (left ++ right) spaced) :
    ∃ left' right', spaced = left' ++ right' ∧ Spaced left left' ∧ Spaced right right' := by
  induction left generalizing spaced with
  | nil => exact ⟨[], spaced, rfl, nil, widens⟩
  | cons c left ih =>
    cases widens with
    | cons _ rest =>
      obtain ⟨left', right', rfl, before, behind⟩ := ih rest
      exact ⟨c :: left', right', rfl, cons c before, behind⟩
    | @line indent _ _ blank rest =>
      obtain ⟨left', right', rfl, before, behind⟩ := ih rest
      exact ⟨'\n' :: (indent ++ left'), right', by simp, line blank before, behind⟩

end Spaced

theorem Json.read_spaced {text spaced : Text} {value : Json} (widens : Spaced text spaced)
    (read : Json.read text = .ok value) : Json.read spaced = .ok value := by
  obtain ⟨rest, found, blank⟩ := Json.read_eq_ok_iff.mp read
  obtain ⟨more, found', behind⟩ := JsonReader.value_follows widens value rest found
  have skipped := behind.skipSpace
  rw [blank] at skipped
  exact Json.read_eq_ok_iff.mpr ⟨more, found', skipped.of_nil⟩

theorem SpellsObject.spaced {text spaced : Text} {value : Json} (spells : SpellsObject text value)
    (widens : Spaced text spaced) : SpellsObject spaced value where
  starts := widens.head_eq.trans spells.starts
  ends := by
    obtain ⟨front, equal⟩ := List.getLast?_eq_some_iff.mp spells.ends
    rw [equal] at widens
    obtain ⟨front', last, rfl, -, behind⟩ := widens.append_cases
    obtain ⟨nothing, rfl, done⟩ := behind.uncons
    rw [(done (by decide)).of_nil, List.getLast?_concat]
  read := Json.read_spaced widens spells.read
  isObject := spells.isObject

namespace Cut

theorem exists_spells_spaced {parts : List (Text × Text)} {tail text spaced : Text}
    {values : List Json} (spells : SpellsFixtures ⟨parts, tail⟩ text values)
    (widens : Spaced text spaced) : ∃ cut : Cut, cut.SpellsFixtures spaced values := by
  have plain {gap gap' : Text} (widens : Spaced gap gap') (plain : '{' ∉ gap) : '{' ∉ gap' := by
    intro member
    rcases widens.mem_cases member with inside | blank | blank
    · exact plain inside
    · cases blank
    · cases blank
  induction parts generalizing text spaced values with
  | nil =>
    obtain ⟨rfl, -, noBrace⟩ := spells_nil_iff.mp spells
    exact exists_spells_tail (plain widens noBrace)
  | cons part parts ih =>
    obtain ⟨value, others, rest, rfl, rfl, noBrace, object, more⟩ := spells_cons_iff.mp spells
    obtain ⟨gap', tail', rfl, widensGap, widens⟩ := widens.append_cases
    obtain ⟨fixture', rest', rfl, widensFixture, widens⟩ := widens.append_cases
    exact exists_spells_cons (plain widensGap noBrace) (object.spaced widensFixture) (ih more widens)

/-- A character behind the last fixture belongs to the last gap. -/
theorem exists_spells_dropped {parts : List (Text × Text)} {tail text : Text} {values : List Json}
    {c : Char} (noBrace : c ≠ '}') (spells : SpellsFixtures ⟨parts, tail⟩ (text ++ [c]) values) :
    ∃ cut : Cut, cut.SpellsFixtures text values := by
  induction parts generalizing text values with
  | nil =>
    obtain ⟨rfl, -, plain⟩ := spells_nil_iff.mp spells
    exact exists_spells_tail fun member => plain (List.mem_append_left [c] member)
  | cons part parts ih =>
    obtain ⟨value, others, rest, rfl, equal, plain, object, more⟩ := spells_cons_iff.mp spells
    rcases List.eq_nil_or_concat' rest with rfl | ⟨rest, last, rfl⟩
    · have ends := congrArg List.getLast? equal
      rw [List.getLast?_concat, List.append_nil, List.getLast?_append, object.ends] at ends
      exact absurd (Option.some.inj ends) noBrace
    · rw [← List.append_assoc, ← List.append_assoc] at equal
      obtain ⟨rfl, same⟩ := List.append_inj' equal rfl
      obtain rfl := (List.cons.inj same).1
      rw [List.append_assoc]
      exact exists_spells_cons plain object (ih more)

theorem exists_spells_dropLast {text : Text} {values : List Json} {c : Char} (noBrace : c ≠ '}')
    (spelled : ∃ cut : Cut, cut.SpellsFixtures text values) :
    ∃ cut : Cut, cut.SpellsFixtures (Transclusion.dropLast c text) values := by
  unfold Transclusion.dropLast
  split
  · rename_i last
    obtain ⟨front, rfl⟩ := List.getLast?_eq_some_iff.mp last
    obtain ⟨⟨parts, tail⟩, spells⟩ := spelled
    rw [List.dropLast_concat]
    exact exists_spells_dropped noBrace spells
  · exact spelled

end Cut

theorem Spaced.joinWith {indent : Text} (blank : ∀ c ∈ indent, c = ' ' ∨ c = '\t')
    (first : Text) (rest : List Text) :
    Spaced (Text.joinWith ['\n'] (first :: rest)) (Text.joinWith ['\n']
      (first :: rest.map fun line => if Text.isBlank line then line else indent ++ line)) := by
  induction rest generalizing first with
  | nil => exact Spaced.refl _
  | cons next rest ih =>
    rw [List.map_cons, Text.joinWith_cons first (List.cons_ne_nil next rest),
      Text.joinWith_cons first (List.cons_ne_nil _ _)]
    apply Spaced.append (Spaced.refl first)
    by_cases empty : Text.isBlank next = true
    · rw [if_pos empty]
      exact Spaced.cons '\n' (ih next)
    · rw [if_neg empty, Text.joinWith_append_cons]
      change Spaced ('\n' :: _) ('\n' :: (indent ++ _))
      exact Spaced.line blank (ih next)

theorem Spaced.indentFollowingLines {indent : Text} (blank : ∀ c ∈ indent, c = ' ' ∨ c = '\t')
    (text : Text) : Spaced text (Transclusion.indentFollowingLines indent text) := by
  obtain ⟨first, rest, lines⟩ := Text.exists_first_line text
  have joined : Text.joinWith ['\n'] (first :: rest) = text := by
    rw [← lines, Text.joinWith_splitOn]
  have widens := Spaced.joinWith blank first rest
  rw [joined] at widens
  rw [Transclusion.indentFollowingLines_eq lines]
  exact widens

/-- A text that is spliced in with its lines indented keeps its fixtures. -/
theorem extractFixtures_indented {text indent : Text} {values : List Json}
    (extracted : extractFixtures text = .ok values) (blank : ∀ c ∈ indent, c = ' ' ∨ c = '\t') :
    extractFixtures (Transclusion.indentFollowingLines indent
      (Transclusion.trimTrailingNewline text)) = .ok values := by
  have fed := Cut.exists_spells_dropLast (c := '\n') (by decide) (Cut.exists_spells extracted)
  obtain ⟨⟨parts, tail⟩, trimmed⟩ := Cut.exists_spells_dropLast (c := '\r') (by decide) fed
  obtain ⟨⟨parts', tail'⟩, spells⟩ :=
    Cut.exists_spells_spaced trimmed (Spaced.indentFollowingLines blank _)
  exact Cut.mapM_scanFrom_of_spells spells 1

/-- A list goes over the lines of an object, one of them blank, and the text ends with a carriage
return and a line feed. -/
theorem extractFixtures_indented_lines :
    let text := "- \x7b\n\"k\": [1,\n \n2]\n\x7d \x7b\x7d\r\n".toList
    let values : List Json :=
      [.object [(['k'], .array [.number (.integer 1), .number (.integer 2)])], .object []]
    extractFixtures text = .ok values ∧ (∀ c ∈ [' ', '\t'], c = ' ' ∨ c = '\t') ∧
      extractFixtures (Transclusion.indentFollowingLines [' ', '\t']
        (Transclusion.trimTrailingNewline text)) = .ok values := by
  intro text values
  have extracted : extractFixtures text = .ok values := by with_unfolding_all rfl
  have blank : ∀ c ∈ [' ', '\t'], c = ' ' ∨ c = '\t' := by decide
  exact ⟨extracted, blank, extractFixtures_indented extracted blank⟩

end ApiBlueprint

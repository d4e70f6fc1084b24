import ApiBlueprint.Format.Registry
import ApiBlueprint.Proofs.Fixture.Extraction
import ApiBlueprint.Proofs.Json.Pretty

/-!
A list of fixtures that is written as one JSON array: the array opens no brace of its own, so its
items are the fixtures of the text.
-/

namespace ApiBlueprint

open Json (newLine prettyAt prettyItems)

theorem SpellsObject.fits {text : Text} {value : Json} (spells : SpellsObject text value) :
    value.Fits JsonReader.maxDepth := by
  obtain ⟨rest, found, -⟩ := Json.read_eq_ok_iff.mp spells.read
  exact JsonReader.fits_of_value found

theorem Json.pretty_object_bounds (level : Nat) (members : List (Text × Json)) :
    (prettyAt level (.object members)).head? = some '{' ∧
      (prettyAt level (.object members)).getLast? = some '}' := by
  cases members with
  | nil => exact ⟨rfl, rfl⟩
  | cons first rest =>
    refine ⟨rfl, ?_⟩
    rw [prettyAt]
    exact List.getLast?_concat

theorem Json.pretty_spells {fixture : Json} (isObject : ∃ members, fixture = .object members)
    (fits : fixture.Fits JsonReader.maxDepth) (integral : fixture.IsIntegral) (level : Nat) :
    SpellsObject (prettyAt level fixture) fixture := by
  obtain ⟨members, rfl⟩ := isObject
  obtain ⟨starts, ends⟩ := Json.pretty_object_bounds level members
  have alone : JsonReader.EndsNumber [] := by
    intro c first
    cases first
  have found := JsonReader.readsBack fits integral level [] alone
  rw [List.append_nil] at found
  exact ⟨starts, ends, Json.read_eq_ok_iff.mpr ⟨[], found, rfl⟩, members, rfl⟩

namespace Cut

theorem SpellsFixtures.exists_spelling {cut : Cut} {text : Text} {values : List Json}
    (spells : cut.SpellsFixtures text values) {value : Json} (inside : value ∈ values) :
    ∃ fixture, SpellsObject fixture value := by
  have fixtures := spells.fixtures
  clear spells
  generalize cut.inserts = inserts at fixtures
  induction fixtures with
  | nil => cases inside
  | @cons fixture first inserts others object _ ih =>
    rcases List.mem_cons.mp inside with rfl | later
    · exact ⟨fixture, object⟩
    · exact ih later

theorem exists_spells_tail {tail : Text} (plain : '{' ∉ tail) :
    ∃ cut : Cut, cut.SpellsFixtures tail [] :=
  ⟨⟨[], tail⟩, spells_nil_iff.mpr ⟨rfl, rfl, plain⟩⟩

theorem exists_spells_cons {gap fixture rest : Text} {value : Json} {others : List Json}
    (plain : '{' ∉ gap) (first : SpellsObject fixture value)
    (more : ∃ cut : Cut, cut.SpellsFixtures rest others) :
    ∃ cut : Cut, cut.SpellsFixtures (gap ++ (fixture ++ rest)) (value :: others) := by
  obtain ⟨⟨parts, tail⟩, spells⟩ := more
  exact ⟨⟨(gap, fixture) :: parts, tail⟩,
    spells_cons_iff.mpr ⟨value, others, rest, rfl, rfl, plain, first, spells⟩⟩

/-- The gap before each further item is a comma and the start of its line. -/
theorem exists_spells_items {tail : Text} (plain : '{' ∉ tail) {fixtures : List Json}
    (each : ∀ fixture ∈ fixtures, SpellsObject (prettyAt 1 fixture) fixture) :
    ∃ cut : Cut, cut.SpellsFixtures (prettyItems 1 fixtures ++ tail) fixtures := by
  induction fixtures with
  | nil => exact exists_spells_tail plain
  | cons fixture fixtures ih =>
    obtain ⟨first, more⟩ := List.forall_mem_cons.mp each
    have comma : '{' ∉ ',' :: newLine 1 := by decide
    simpa only [prettyItems, List.cons_append, List.append_assoc] using
      exists_spells_cons comma first (ih more)

theorem exists_spells_array {fixtures : List Json}
    (each : ∀ fixture ∈ fixtures, SpellsObject (prettyAt 1 fixture) fixture) :
    ∃ cut : Cut, cut.SpellsFixtures ((Json.array fixtures).pretty ++ ['\n']) fixtures := by
  cases fixtures with
  | nil => exact exists_spells_tail (by decide)
  | cons fixture fixtures =>
    obtain ⟨first, more⟩ := List.forall_mem_cons.mp each
    have bracket : '{' ∉ '[' :: newLine 1 := by decide
    have tail : '{' ∉ newLine 0 ++ [']', '\n'] := by decide
    simpa only [Json.pretty, prettyAt, List.cons_append, List.append_assoc, List.nil_append] using
      exists_spells_cons bracket first (exists_spells_items tail more)

end Cut

/-- The fixtures of a text, written in the JSON format, are the fixtures of what is written. -/
theorem extractFixtures_of_rendition {text : Text} {artifact : Artifact}
    (extracted : extractFixtures text = .ok artifact.fixtures)
    (integral : ∀ fixture ∈ artifact.fixtures, fixture.IsIntegral) :
    ∃ rendition, FormatRegistry.standard.marshal artifact "json".toList = .ok rendition ∧
      extractFixtures rendition.render = .ok artifact.fixtures := by
  refine ⟨.json (.array artifact.fixtures), by rfl, ?_⟩
  obtain ⟨given, spelled⟩ := Cut.exists_spells extracted
  have each (fixture : Json) (inside : fixture ∈ artifact.fixtures) :
      SpellsObject (prettyAt 1 fixture) fixture := by
    obtain ⟨_, spells⟩ := spelled.exists_spelling inside
    exact Json.pretty_spells spells.isObject spells.fits (integral fixture inside) 1
  obtain ⟨⟨parts, tail⟩, spells⟩ := Cut.exists_spells_array each
  exact Cut.mapM_scanFrom_of_spells spells 1

def Artifact.quoted : Artifact where
  markdown := "a \x7b\"n\": [-7, \x7b\x7d], \"k\": \"\\\"\x7d\\u0001,\\\\\"\x7d \x7d, \x7b\x7d b".toList
  fixtures := [.object [(['k'], .string ['"', '\x7d', '\x01', ',', '\\']),
    (['n'], .array [.number (.integer (-7)), .object []])], .object []]

theorem Artifact.quoted_isIntegral : ∀ fixture ∈ quoted.fixtures, fixture.IsIntegral := by
  have list : Json.IsIntegral (.array [.number (.integer (-7)), .object []]) :=
    .array (List.forall_mem_cons.mpr ⟨.number (-7), List.forall_mem_singleton.mpr (.object nofun)⟩)
  have first : Json.IsIntegral (.object [(['k'], .string ['"', '\x7d', '\x01', ',', '\\']),
      (['n'], .array [.number (.integer (-7)), .object []])]) :=
    .object (List.forall_mem_cons.mpr ⟨.string _, List.forall_mem_singleton.mpr list⟩)
  exact List.forall_mem_cons.mpr ⟨first, List.forall_mem_singleton.mpr (.object nofun)⟩

theorem extractFixtures_of_rendition_quoted :
    extractFixtures Artifact.quoted.markdown = .ok Artifact.quoted.fixtures ∧
      (∀ fixture ∈ Artifact.quoted.fixtures, fixture.IsIntegral) ∧
      ∃ rendition, FormatRegistry.standard.marshal .quoted "json".toList = .ok rendition ∧
        extractFixtures rendition.render = .ok Artifact.quoted.fixtures := by
  have extracted : extractFixtures Artifact.quoted.markdown = .ok Artifact.quoted.fixtures := by
    with_unfolding_all rfl
  exact ⟨extracted, Artifact.quoted_isIntegral,
    extractFixtures_of_rendition extracted Artifact.quoted_isIntegral⟩

end ApiBlueprint

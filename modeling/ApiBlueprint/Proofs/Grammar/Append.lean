import ApiBlueprint.Proofs.Grammar.Behind
import ApiBlueprint.Proofs.Grammar.Declared
import ApiBlueprint.Proofs.Grammar.Front
import ApiBlueprint.Proofs.Grammar.Placement

/-!
A heading that is marked by number signs ends what stands before it: no payload, underline, fence or
metadata reaches over it. So a blueprint splits at a group heading.
-/

namespace ApiBlueprint

theorem Heading.marked_breaks {line : Line} {heading : Heading} (marked : marked? line = some heading) :
    line.Breaks := by
  obtain ⟨shallow, -, rest, start⟩ := marked_cases marked
  exact Line.breaks_of_start start shallow (by decide)

namespace Reading

section Append

variable {first : Line} {heading : Heading} {tail : List Line}

theorem run_append (marked : Heading.marked? first = some heading) {state : Reading}
    {lines : List Line} {blueprint : Blueprint} (ran : state.run lines = .ok blueprint) :
    ∃ last : Reading, last.fence = none ∧ last.blueprint.tidy = blueprint ∧
      state.run (lines ++ first :: tail) = last.run (first :: tail) := by
  rw [run_eq_after] at ran
  obtain ⟨last, reached, done⟩ := bind_eq_ok.mp ran
  obtain ⟨unfenced, tidied⟩ := finish_eq_ok done
  refine ⟨last, unfenced, tidied.symm, ?_⟩
  rw [run_front (Heading.marked_breaks marked), reached]
  rfl

def openGroup (state : Reading) (name : Text) : Reading :=
  { state with
    scope := .group
    inMetadata := false
    blueprint := state.blueprint.pushGroup { name := some (Text.trim name) } }

theorem step_group {name : Text} (marked : Heading.marked? first = some heading)
    (titled : heading.text = "Group ".toList ++ name) {state : Reading} (unfenced : state.fence = none)
    (rest : List Line) : state.step first rest = .ok (state.openGroup name, 0) := by
  have declares : Declaration.ofHeading heading.text = .group (Text.trim name) := by
    rw [titled, Declaration.ofHeading, Declaration.group?, Declaration.afterStart_append]
    rfl
  have detected (next : Option Line) : Heading.detect? first next = some heading := by
    rw [Heading.detect?, marked]
    rfl
  obtain ⟨-, single, tail, start⟩ := Heading.marked_cases marked
  rw [step_of_start start (by decide) (by decide) unfenced, readStructure, detected]
  simp only [enterHeading, declares, single]
  rfl

theorem run_group {name : Text} (marked : Heading.marked? first = some heading)
    (titled : heading.text = "Group ".toList ++ name) {state : Reading} (unfenced : state.fence = none)
    (rest : List Line) : state.run (first :: rest) = (state.openGroup name).run rest := by
  rw [run, step_group marked titled unfenced]
  rfl

theorem openGroup_isGrouped (state : Reading) (name : Text) : (state.openGroup name).IsGrouped where
  inside := by simp [openGroup]
  groups := by simp [openGroup, Blueprint.pushGroup]
  outOfMetadata := rfl

/-- A group that is opened anywhere is the first group of a reading, behind what is there. -/
theorem openGroup_behind {state : Reading} (unfenced : state.fence = none) (name : Text) (n : Nat) :
    state.openGroup name = (({} : Reading).openGroup name).behind state.blueprint n := by
  simp [openGroup, behind, Blueprint.pushGroup, Blueprint.extend, Group.shift, unfenced]

end Append
end Reading

/-- A blueprint splits at a heading that opens a group: what stands before it is read as if it were
alone, and so is what follows, with its lines and its faults as many lines further down. -/
theorem Blueprint.read_append_group {before text : Text} {blueprint : Blueprint} {first : Line}
    {heading : Heading} {name : Text} (read : Blueprint.read before = .ok blueprint)
    (starts : (splitLines text).head? = some first) (marked : Heading.marked? first = some heading)
    (titled : heading.text = "Group ".toList ++ name) :
    Blueprint.read (before ++ '\n' :: text) =
      match Blueprint.read text with
      | .ok second => .ok
        { blueprint with
          groups := blueprint.groups ++
            second.groups.map (Group.shift (splitLines before).length) }
      | .error error => .error (error.shift (splitLines before).length) := by
  obtain ⟨rest, lines⟩ := List.head?_eq_some_iff.mp starts
  let n := (splitLines before).length
  have further : Heading.marked? (first.shift n) = some heading := marked
  obtain ⟨last, unfenced, tidied, reached⟩ :=
    @Reading.run_append (first.shift n) heading (rest.map (Line.shift n)) further _ _ _ read
  have alone : Blueprint.read text = (({} : Reading).openGroup name).run rest := by
    rw [Blueprint.read, lines]
    exact Reading.run_group marked titled rfl rest
  have whole : Blueprint.read (before ++ '\n' :: text) =
      shifted n (blueprint.extend n) (Blueprint.read text) := by
    calc
      Blueprint.read (before ++ '\n' :: text) =
          Reading.run {} (splitLines before ++ first.shift n :: rest.map (Line.shift n)) := by
        rw [Blueprint.read, splitLines_append, lines]
        rfl
      _ = last.run (first.shift n :: rest.map (Line.shift n)) := reached
      _ = (last.openGroup name).run (rest.map (Line.shift n)) :=
        Reading.run_group further titled unfenced _
      _ = ((({} : Reading).openGroup name).behind last.blueprint n).run (rest.map (Line.shift n)) := by
        rw [Reading.openGroup_behind unfenced name n]
      _ = shifted n (last.blueprint.tidy.extend n) ((({} : Reading).openGroup name).run rest) :=
        Reading.run_behind (Reading.openGroup_isGrouped {} name) rest
      _ = shifted n (blueprint.extend n) (Blueprint.read text) := by rw [tidied, alone]
  rw [whole]
  cases Blueprint.read text <;> rfl

namespace Blueprint

def drinks : Text := "# Drinks\n## Tea [/tea]\n### Pour [GET]\n+ Response 200\n\n        hot\n".toList

def wells : Text := " # Group Water\n## Well [/well]\n+ fresh".toList

/-- The second line of the second text is the ninth line of the whole. -/
theorem read_append_group_wells :
    ∃ blueprint : Blueprint,
      Blueprint.read drinks = .ok blueprint ∧
      (splitLines wells).head? = some ⟨" # Group Water".toList, 1⟩ ∧
      Heading.marked? ⟨" # Group Water".toList, 1⟩ =
        some ⟨1, "Group Water".toList, "Group Water".toList, 0⟩ ∧
      Blueprint.read (drinks ++ '\n' :: wells) = .ok
        { blueprint with
          groups := blueprint.groups ++
            [{ name := some "Water".toList
               resources := [{
                name := some "Well".toList
                uriTemplate := "/well".toList
                description := "+ fresh".toList
                line := 9 }] }] } := by
  have readable : (Blueprint.read drinks).isOk = true := by decide +kernel
  have second : Blueprint.read wells = .ok { groups := [{
      name := some "Water".toList
      resources := [{
        name := some "Well".toList
        uriTemplate := "/well".toList
        description := "+ fresh".toList
        line := 2 }] }] } := by decide +kernel
  have starts : (splitLines wells).head? = some ⟨" # Group Water".toList, 1⟩ := by decide +kernel
  have marked : Heading.marked? ⟨" # Group Water".toList, 1⟩ =
      some ⟨1, "Group Water".toList, "Group Water".toList, 0⟩ := by decide +kernel
  cases read : Blueprint.read drinks with
  | error error =>
    rw [read] at readable
    cases readable
  | ok blueprint =>
    have whole := read_append_group read starts marked (rfl : _ = "Group ".toList ++ "Water".toList)
    rw [second] at whole
    exact ⟨blueprint, rfl, starts, marked, whole⟩

end Blueprint
end ApiBlueprint

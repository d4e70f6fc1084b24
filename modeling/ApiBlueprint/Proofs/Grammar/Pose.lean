import ApiBlueprint.Proofs.Grammar.Placement

/-!
The pose of a reading: what its course depends on. Two readings in the same pose, with the same lines ahead,
fail alike or log the same from there on, whatever their trees are.
-/

namespace ApiBlueprint
namespace Reading

/-- What the course of a reading depends on. -/
structure SamePose (state other : Reading) : Prop where
  scope : state.scope = other.scope
  fence : state.fence = other.fence
  inMetadata : state.inMetadata = other.inMetadata
  name : state.blueprint.name = other.blueprint.name
  groups : state.blueprint.groups = [] ↔ other.blueprint.groups = []

theorem SamePose.symm {state other : Reading} (pose : state.SamePose other) : other.SamePose state :=
  ⟨pose.scope.symm, pose.fence.symm, pose.inMetadata.symm, pose.name.symm, pose.groups.symm⟩

theorem SamePose.trans {state other further : Reading} (pose : state.SamePose other)
    (next : other.SamePose further) : state.SamePose further :=
  ⟨pose.scope.trans next.scope, pose.fence.trans next.fence, pose.inMetadata.trans next.inMetadata,
    pose.name.trans next.name, pose.groups.trans next.groups⟩

section Pose

variable {state other : Reading} (pose : state.SamePose other)

include pose

theorem SamePose.describe (text : Text) : (state.describe text).SamePose (other.describe text) where
  scope := pose.scope
  fence := pose.fence
  inMetadata := pose.inMetadata
  name := (Blueprint.top_describe _ _ _).2.trans
    (pose.name.trans (Blueprint.top_describe _ _ _).2.symm)
  groups := Blueprint.groups_describe_eq_nil_iff.trans
    (pose.groups.trans Blueprint.groups_describe_eq_nil_iff.symm)

theorem SamePose.addResource (resource : Resource) (scope : Scope) :
    (state.addResource resource scope).SamePose (other.addResource resource scope) where
  scope := rfl
  fence := pose.fence
  inMetadata := pose.inMetadata
  name := by
    unfold Reading.addResource
    split <;> split <;> exact pose.name
  groups := iff_of_false (groups_addResource_ne_nil _ _ _) (groups_addResource_ne_nil _ _ _)

theorem SamePose.enterHeading (heading : Heading) (number : Nat) :
    Paired SamePose (state.enterHeading heading number) (other.enterHeading heading number) := by
  have tests : state.blueprint.groups.isEmpty = other.blueprint.groups.isEmpty := by
    rw [Bool.eq_iff_iff, List.isEmpty_iff, List.isEmpty_iff]
    exact pose.groups
  unfold Reading.enterHeading
  cases Declaration.ofHeading heading.text with
  | group name =>
    have opened (front : List Group) : front ++ [{ name := some name }] ≠ [] :=
      List.append_ne_nil_of_right_ne_nil _ (List.cons_ne_nil _ _)
    exact ⟨rfl, pose.fence, pose.inMetadata, pose.name, iff_of_false (opened _) (opened _)⟩
  | action name method uriTemplate =>
    simp only [pose.scope]
    split
    · exact ⟨rfl, pose.fence, pose.inMetadata, pose.name, Blueprint.groups_onGroup_eq_nil_iff.trans
        (pose.groups.trans Blueprint.groups_onGroup_eq_nil_iff.symm)⟩
    · rfl
  | resource name uriTemplate => exact pose.addResource _ _
  | endpoint method uriTemplate => exact pose.addResource _ _
  | plain =>
    simp only [pose.scope, pose.name, tests]
    split
    · exact ⟨rfl, pose.fence, pose.inMetadata, rfl, pose.groups⟩
    · exact pose.describe _

theorem SamePose.enterPayload (kind : PayloadKind) (signature : Text) (line : Line) (content : List Line) :
    Paired SamePose (state.enterPayload kind signature line content)
      (other.enterPayload kind signature line content) := by
  unfold Reading.enterPayload
  refine (Paired.refl _).bind fun item _ _ _ same => ?_
  obtain rfl := same
  rw [pose.scope]
  split
  · refine (Paired.refl _).bind fun payload _ _ _ same => ?_
    obtain rfl := same
    exact ⟨pose.scope, pose.fence, pose.inMetadata, pose.name, Blueprint.groups_onGroup_eq_nil_iff.trans
      (pose.groups.trans Blueprint.groups_onGroup_eq_nil_iff.symm)⟩
  · rfl

def SameStep (result other : Reading × Nat) : Prop := result.1.SamePose other.1 ∧ result.2 = other.2

theorem SamePose.readStructure (line : Line) (rest : List Line) :
    Paired SameStep (state.readStructure line rest) (other.readStructure line rest) := by
  unfold Reading.readStructure
  cases Heading.detect? line rest.head? with
  | some heading => exact (pose.enterHeading heading line.number).bind fun _ _ _ _ next => ⟨next, rfl⟩
  | none =>
    cases PayloadItem.keyword? line.text with
    | some item => exact (pose.enterPayload item.1 item.2 line _).bind fun _ _ _ _ next => ⟨next, rfl⟩
    | none => exact ⟨pose.describe line.text, rfl⟩

theorem SamePose.step (line : Line) (rest : List Line) :
    Paired SameStep (state.step line rest) (other.step line rest) := by
  have leaves (fence : Option Fence) : SamePose { state with fence, inMetadata := false }
      { other with fence, inMetadata := false } := ⟨pose.scope, rfl, rfl, pose.name, pose.groups⟩
  unfold Reading.step
  rw [← pose.fence]
  split
  · exact ⟨(leaves _).describe line.text, rfl⟩
  · rw [← pose.inMetadata]
    split
    · split
      · exact ⟨pose, rfl⟩
      · split
        · exact ⟨⟨pose.scope, rfl, rfl, pose.name, pose.groups⟩, rfl⟩
        · exact (leaves state.fence).readStructure line rest
    · exact pose.readStructure line rest

theorem SamePose.entries (line : Line) (rest : List Line) :
    state.entries line rest = other.entries line rest := by
  have structured : structureEntries state.blueprint line rest =
      structureEntries other.blueprint line rest := by
    simp only [structureEntries, headingEntries, unnamedGroup, pose.groups, pose.name]
  simp only [Reading.entries, pose.fence, pose.inMetadata, structured]

end Pose

/-- By induction on the number of lines: readings in the same pose, with the same lines ahead, log the same
from there on. -/
theorem Reached.run_paired {source source' : Text} {state other : Reading} {lines : List Line}
    {log log' : List Entry} (reached : Reached source state lines log)
    (reached' : Reached source' other lines log') (pose : state.SamePose other) :
    Paired (fun tree tree' => ∃ last last' added, Reached source last [] (log ++ added) ∧
      Reached source' last' [] (log' ++ added) ∧ last.SamePose last' ∧
      tree = last.blueprint.tidy ∧ tree' = last'.blueprint.tidy)
      (state.run lines) (other.run lines) := by
  induction length : lines.length using Nat.strong_induction_on generalizing state other lines log log' with
  | _ count ih =>
    cases lines with
    | nil =>
      rw [run, run, finish, finish, ← pose.fence]
      split
      · rfl
      · exact ⟨state, other, [], by simpa using reached, by simpa using reached', pose, rfl, rfl⟩
    | cons line rest =>
      rw [run, run]
      refine (pose.step line rest).bind ?_
      rintro ⟨next, taken⟩ ⟨next', taken'⟩ stepped stepped' ⟨nextPose, same⟩
      obtain rfl : taken = taken' := same
      have shorter : (rest.drop taken).length < count := by
        rw [← length, List.length_drop, List.length_cons]
        omega
      have later := ih _ shorter (reached.step stepped) (reached'.step stepped') nextPose rfl
      rw [← pose.entries line rest] at later
      refine later.imp ?_
      rintro tree tree' ⟨last, last', added, there, there', tidied⟩
      rw [List.append_assoc] at there there'
      exact ⟨last, last', _, there, there', tidied⟩

end Reading
end ApiBlueprint

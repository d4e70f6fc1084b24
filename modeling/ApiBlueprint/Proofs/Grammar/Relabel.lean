import ApiBlueprint.Proofs.Grammar.Front
import ApiBlueprint.Proofs.Grammar.Outline
import ApiBlueprint.Proofs.Grammar.Placement
import ApiBlueprint.Proofs.Grammar.Renumber

/-!
Trees with other line numbers, and with a change made to their payloads. Reading goes the same way
from such a tree: each function of a step commutes with the change, and so does a whole run.
-/

namespace ApiBlueprint

section Relabel

variable (place : Nat → Nat) (change : Payload → Payload)

def Action.relabel (action : Action) : Action :=
  { action with
    requests := action.requests.map change
    responses := action.responses.map change
    line := place action.line }

def Resource.relabel (resource : Resource) : Resource :=
  { resource with
    actions := resource.actions.map (Action.relabel place change)
    line := place resource.line }

def Group.relabel (group : Group) : Group :=
  { group with resources := group.resources.map (Resource.relabel place change) }

def Blueprint.relabel (blueprint : Blueprint) : Blueprint :=
  { blueprint with groups := blueprint.groups.map (Group.relabel place change) }

def Reading.relabel (state : Reading) : Reading :=
  { state with
    blueprint := state.blueprint.relabel place change
    fence := state.fence.map (Fence.renumber place) }

/-- The change does nothing but renumber to the payloads that the line may open. -/
def Line.OnlyRenumbered (line : Line) : Prop :=
  ∀ payload : Payload, payload.line = line.number → change payload = payload.renumber place

theorem Action.push_relabel (action : Action) {payload : Payload}
    (signature : (change payload).signature = payload.signature) :
    (action.push payload).relabel place change = (action.relabel place change).push (change payload) := by
  unfold push
  rw [signature]
  cases payload.signature <;> simp [relabel]

end Relabel

section Describe

variable {place : Nat → Nat} {change : Payload → Payload}

theorem Resource.describe_relabel (scope : Scope) (line : Text) (resource : Resource) :
    (resource.describe scope line).relabel place change =
      (resource.relabel place change).describe scope line := by
  have test : (resource.relabel place change).actions.isEmpty = resource.actions.isEmpty :=
    List.isEmpty_map
  unfold describe
  simp only [test]
  split
  · rfl
  · have inside (action : Action) : (action.describe line).relabel place change =
        (action.relabel place change).describe line := rfl
    simp only [relabel, map_onLast inside]

theorem Group.describe_relabel (scope : Scope) (line : Text) (group : Group) :
    (group.describe scope line).relabel place change =
      (group.relabel place change).describe scope line := by
  have test : (group.relabel place change).resources.isEmpty = group.resources.isEmpty :=
    List.isEmpty_map
  unfold describe
  simp only [test]
  split
  · rfl
  · simp only [relabel, map_onLast (Resource.describe_relabel scope line)]

end Describe

namespace Blueprint

variable {place : Nat → Nat} {change : Payload → Payload}

theorem pushGroup_relabel (blueprint : Blueprint) (group : Group) :
    (blueprint.relabel place change).pushGroup (group.relabel place change) =
      (blueprint.pushGroup group).relabel place change := by
  simp [pushGroup, relabel]

theorem onGroup_relabel {made made' : Group → Group}
    (same : ∀ group, (made group).relabel place change = made' (group.relabel place change))
    (blueprint : Blueprint) :
    (blueprint.relabel place change).onGroup made' = (blueprint.onGroup made).relabel place change := by
  simp only [relabel, onGroup, map_onLast same]

theorem onResource_relabel {made made' : Resource → Resource}
    (same : ∀ resource, (made resource).relabel place change = made' (resource.relabel place change))
    (blueprint : Blueprint) :
    (blueprint.relabel place change).onResource made' =
      (blueprint.onResource made).relabel place change := by
  refine onGroup_relabel (fun group => ?_) blueprint
  simp only [Group.relabel, map_onLast same]

theorem onAction_relabel {made made' : Action → Action}
    (same : ∀ action, (made action).relabel place change = made' (action.relabel place change))
    (blueprint : Blueprint) :
    (blueprint.relabel place change).onAction made' = (blueprint.onAction made).relabel place change := by
  refine onResource_relabel (fun resource => ?_) blueprint
  simp only [Resource.relabel, map_onLast same]

theorem isEmpty_groups_relabel (blueprint : Blueprint) :
    (blueprint.relabel place change).groups.isEmpty = blueprint.groups.isEmpty :=
  List.isEmpty_map

theorem describe_relabel (blueprint : Blueprint) (scope : Scope) (text : Text) :
    (blueprint.relabel place change).describe scope text =
      (blueprint.describe scope text).relabel place change := by
  unfold describe
  simp only [isEmpty_groups_relabel]
  split
  · rfl
  · exact onGroup_relabel (Group.describe_relabel scope _) blueprint

theorem tidyResource_relabel (resource : Resource) :
    tidyResource (resource.relabel place change) = (tidyResource resource).relabel place change := by
  simp [tidyResource, Resource.relabel, Function.comp_def, tidyAction, Action.relabel]

theorem tidyGroup_relabel (group : Group) :
    tidyGroup (group.relabel place change) = (tidyGroup group).relabel place change := by
  simp [tidyGroup, Group.relabel, Function.comp_def, tidyResource_relabel]

theorem tidy_relabel (blueprint : Blueprint) :
    (blueprint.relabel place change).tidy = blueprint.tidy.relabel place change := by
  simp [tidy, relabel, Function.comp_def, tidyGroup_relabel]

end Blueprint

namespace Reading

variable {place : Nat → Nat} {change : Payload → Payload} (state : Reading)

theorem describe_relabel (text : Text) :
    (state.relabel place change).describe text = (state.describe text).relabel place change :=
  congrArg (fun blueprint => ({ state.relabel place change with blueprint } : Reading))
    (state.blueprint.describe_relabel state.scope text)

theorem addResource_relabel (resource : Resource) (scope : Scope) :
    (state.relabel place change).addResource (resource.relabel place change) scope =
      (state.addResource resource scope).relabel place change := by
  have pushed (blueprint : Blueprint) :
      (blueprint.relabel place change).onGroup (fun group => group.push (resource.relabel place change)) =
        (blueprint.onGroup fun group => group.push resource).relabel place change :=
    Blueprint.onGroup_relabel (fun group => by simp [Group.push, Group.relabel]) blueprint
  unfold addResource
  refine congrArg (fun blueprint => ({ state.relabel place change with scope, blueprint } : Reading)) ?_
  have same : (state.relabel place change).scope = state.scope := rfl
  have test : (state.relabel place change).blueprint.groups.isEmpty = state.blueprint.groups.isEmpty :=
    state.blueprint.isEmpty_groups_relabel
  simp only [same, test]
  split
  · refine Eq.trans ?_ (pushed (state.blueprint.pushGroup {}))
    rw [← Blueprint.pushGroup_relabel]
    rfl
  · exact pushed state.blueprint

theorem addAction_relabel (action : Action) :
    (state.relabel place change).addAction (action.relabel place change) =
      (state.addAction action).relabel place change := by
  have pushed : (state.blueprint.relabel place change).onResource
      (fun resource => resource.push (action.relabel place change)) =
      (state.blueprint.onResource fun resource => resource.push action).relabel place change :=
    Blueprint.onResource_relabel (fun resource => by simp [Resource.push, Resource.relabel]) _
  exact congrArg
    (fun blueprint => ({ state.relabel place change with scope := .action, blueprint } : Reading)) pushed

theorem addPayload_relabel {payload : Payload}
    (signature : (change payload).signature = payload.signature) :
    (state.relabel place change).addPayload (change payload) =
      (state.addPayload payload).relabel place change := by
  have pushed : (state.blueprint.relabel place change).onAction
      (fun action => action.push (change payload)) =
      (state.blueprint.onAction fun action => action.push payload).relabel place change :=
    Blueprint.onAction_relabel (fun action => action.push_relabel place change signature) _
  exact congrArg (fun blueprint => ({ state.relabel place change with blueprint } : Reading)) pushed

theorem enterHeading_relabel (heading : Heading) (line : Nat) :
    (state.relabel place change).enterHeading heading (place line) =
      renumbered place (relabel place change) (state.enterHeading heading line) := by
  have scope : (state.relabel place change).scope = state.scope := rfl
  have name : (state.relabel place change).blueprint.name = state.blueprint.name := rfl
  have groups : (state.relabel place change).blueprint.groups.isEmpty = state.blueprint.groups.isEmpty :=
    state.blueprint.isEmpty_groups_relabel
  unfold enterHeading
  cases Declaration.ofHeading heading.text with
  | group name =>
    exact congrArg
      (fun blueprint => Except.ok ({ state.relabel place change with scope := .group, blueprint } : Reading))
      (state.blueprint.pushGroup_relabel { name })
  | action name method uriTemplate =>
    simp only [scope]
    split
    · exact congrArg Except.ok (state.addAction_relabel { name, method, uriTemplate, line })
    · rfl
  | resource name uriTemplate =>
    exact congrArg Except.ok (state.addResource_relabel { name, uriTemplate, line } .resource)
  | endpoint method uriTemplate =>
    exact congrArg Except.ok
      (state.addResource_relabel { uriTemplate, actions := [{ method, line }], line } .action)
  | plain =>
    simp only [scope, name, groups]
    split
    · rfl
    · exact congrArg Except.ok (state.describe_relabel heading.render)

theorem enterPayload_relabel {line : Line} (only : line.OnlyRenumbered place change)
    (kind : PayloadKind) (signature : Text) (content : List Line) :
    (state.relabel place change).enterPayload kind signature (line.renumber place)
        (content.map (Line.renumber place)) =
      renumbered place (relabel place change) (state.enterPayload kind signature line content) := by
  have scope : (state.relabel place change).scope = state.scope := rfl
  have read : ((PayloadItem.ofRest kind signature).mapError fun fault => ⟨place line.number, fault⟩) =
      renumbered place id
        ((PayloadItem.ofRest kind signature).mapError fun fault => ⟨line.number, fault⟩) := by
    cases PayloadItem.ofRest kind signature <;> rfl
  unfold enterPayload
  refine Eq.trans (congrArg (· >>= _) read) (renumbered_bind fun item _ => ?_)
  simp only [scope, id, Payload.build_renumber]
  split
  · refine renumbered_bind fun payload built => congrArg Except.ok ?_
    have moved := only payload (Payload.line_build built)
    rw [← moved]
    apply state.addPayload_relabel
    rw [moved]
    rfl
  · rfl

def answerRelabel (place : Nat → Nat) (change : Payload → Payload) (answer : Reading × Nat) :
    Reading × Nat :=
  (answer.1.relabel place change, answer.2)

theorem readStructure_relabel {line : Line} (only : line.OnlyRenumbered place change) (rest : List Line) :
    (state.relabel place change).readStructure (line.renumber place) (rest.map (Line.renumber place)) =
      renumbered place (answerRelabel place change) (state.readStructure line rest) := by
  have text : (line.renumber place).text = line.text := rfl
  have number : (line.renumber place).number = place line.number := rfl
  unfold readStructure
  rw [List.head?_map, Heading.detect_renumber, text, number]
  cases Heading.detect? line rest.head? with
  | some heading =>
    refine Eq.trans (congrArg (· >>= _) (state.enterHeading_relabel heading line.number)) ?_
    exact renumbered_bind fun next _ => rfl
  | none =>
    cases PayloadItem.keyword? line.text with
    | some item =>
      simp only [Payload.content_renumber, List.length_map, state.enterPayload_relabel only]
      exact renumbered_bind fun next _ => rfl
    | none => exact congrArg (fun next => Except.ok (next, 0)) (state.describe_relabel line.text)

theorem step_relabel {line : Line} (only : line.OnlyRenumbered place change) (rest : List Line) :
    (state.relabel place change).step (line.renumber place) (rest.map (Line.renumber place)) =
      renumbered place (answerRelabel place change) (state.step line rest) := by
  have fence : (state.relabel place change).fence = state.fence.map (Fence.renumber place) := rfl
  have metadata : (state.relabel place change).inMetadata = state.inMetadata := rfl
  have text : (line.renumber place).text = line.text := rfl
  have blank : (line.renumber place).isBlank = line.isBlank := rfl
  unfold step
  rw [fence, Fence.advance_renumber]
  obtain ⟨fenced, opened⟩ := Fence.advance state.fence line
  cases fenced with
  | true =>
    have inside := @describe_relabel place change
      { state with fence := opened, inMetadata := false } line.text
    exact congrArg (fun next => Except.ok (next, 0)) inside
  | false =>
    have late := readStructure_relabel { state with inMetadata := false } only rest
    simp only [metadata, text, blank]
    split
    · split
      · rfl
      · split
        · rfl
        · exact late
    · exact state.readStructure_relabel only rest

theorem finish_relabel :
    (state.relabel place change).finish =
      renumbered place (Blueprint.relabel place change) state.finish := by
  have fence : (state.relabel place change).fence = state.fence.map (Fence.renumber place) := rfl
  unfold finish
  rw [fence]
  cases state.fence with
  | some fence => rfl
  | none => exact congrArg Except.ok state.blueprint.tidy_relabel

/-- By induction on the number of lines. -/
theorem after_relabel {lines : List Line} (only : ∀ line ∈ lines, line.OnlyRenumbered place change) :
    (state.relabel place change).after (lines.map (Line.renumber place)) =
      renumbered place (relabel place change) (state.after lines) := by
  induction length : lines.length using Nat.strong_induction_on generalizing state lines with
  | _ count ih =>
    cases lines with
    | nil =>
      rw [List.map_nil, after, after]
      rfl
    | cons line rest =>
      obtain ⟨here, later⟩ := List.forall_mem_cons.mp only
      rw [List.map_cons, after, after, state.step_relabel here]
      refine renumbered_bind fun answer _ => ?_
      have shorter : (rest.drop answer.2).length < count := by
        rw [← length, List.length_drop, List.length_cons]
        omega
      have moved := ih _ shorter answer.1 (fun below member => later below (List.mem_of_mem_drop member)) rfl
      rwa [List.map_drop] at moved

/-- A run from a relabelled state, over renumbered lines, ends in the relabelled tree or in the same error
on another line. -/
theorem run_relabel {lines : List Line} (only : ∀ line ∈ lines, line.OnlyRenumbered place change) :
    (state.relabel place change).run (lines.map (Line.renumber place)) =
      renumbered place (Blueprint.relabel place change) (state.run lines) := by
  rw [run_eq_after, run_eq_after, state.after_relabel only]
  exact renumbered_bind fun last _ => last.finish_relabel

end Reading
end ApiBlueprint

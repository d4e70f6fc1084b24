import ApiBlueprint.Proofs.Grammar.Log
import ApiBlueprint.Proofs.Grammar.Outline

/-!
The nodes of a tree, and what becomes of them where something is added at the end of the tree: one more
node, or a change to the last one. The nodes of a log grow in the same way.
-/

namespace ApiBlueprint

def Node.tidy (node : Node) : Node :=
  { node with description := Blueprint.tidyText node.description }

theorem Blueprint.nodes_tidy (tree : Blueprint) : tree.tidy.nodes = tree.nodes.map Node.tidy := by
  simp [tidy, nodes, tidyGroup, Group.nodes, tidyResource, Resource.nodes, tidyAction, Action.node,
    Node.tidy, List.flatMap_map, List.map_flatMap, Function.comp_def]

/-- The last node of the tree is of this kind. -/
inductive Blueprint.EndsIn (tree : Blueprint) : Scope → Prop
  | api (groups : tree.groups = []) : EndsIn tree .api
  | group {front : List Group} {group : Group} (groups : tree.groups = front ++ [group])
      (resources : group.resources = []) : EndsIn tree .group
  | resource {front : List Group} {group : Group} {before : List Resource} {resource : Resource}
      (groups : tree.groups = front ++ [group]) (resources : group.resources = before ++ [resource])
      (actions : resource.actions = []) : EndsIn tree .resource
  | action {front : List Group} {group : Group} {before : List Resource} {resource : Resource}
      {earlier : List Action} {action : Action} (groups : tree.groups = front ++ [group])
      (resources : group.resources = before ++ [resource])
      (actions : resource.actions = earlier ++ [action]) : EndsIn tree .action

/-- The scope speaks of a node that is there. -/
structure Reading.IsPlaced (state : Reading) : Prop where
  api : state.scope = .api ↔ state.blueprint.groups = []
  resource : state.scope = .resource ∨ state.scope = .action →
    ∃ group, state.blueprint.groups.getLast? = some group ∧ group.resources ≠ []
  action : state.scope = .action →
    ∃ group resource, state.blueprint.groups.getLast? = some group ∧
      group.resources.getLast? = some resource ∧ resource.actions ≠ []

theorem Reading.isPlaced_of_endsIn {state : Reading} (ends : state.blueprint.EndsIn state.scope) :
    state.IsPlaced := by
  generalize scope : state.scope = kind at ends
  cases ends with
  | api groups => exact ⟨by simp [scope, groups], by simp [scope], by simp [scope]⟩
  | group groups resources => exact ⟨by simp [scope, groups], by simp [scope], by simp [scope]⟩
  | resource groups resources actions =>
    exact ⟨by simp [scope, groups], by simp [groups, resources], by simp [scope]⟩
  | action groups resources actions =>
    exact ⟨by simp [scope, groups], by simp [groups, resources], by simp [groups, resources, actions]⟩

theorem onLast_of_eq {α : Type} {list front : List α} {last : α} (equal : list = front ++ [last])
    (change : α → α) : onLast change list = front ++ [change last] := by
  rw [equal, onLast_append]

section Trees

variable {tree : Blueprint} {scope : Scope}

theorem Blueprint.EndsIn.api_iff (ends : tree.EndsIn scope) : scope = .api ↔ tree.groups = [] := by
  cases ends <;> simp_all

theorem Blueprint.EndsIn.of_groups {other : Blueprint} (ends : tree.EndsIn scope)
    (same : other.groups = tree.groups) : other.EndsIn scope := by
  cases ends with
  | api groups => exact .api (same.trans groups)
  | group groups resources => exact .group (same.trans groups) resources
  | resource groups resources actions => exact .resource (same.trans groups) resources actions
  | action groups resources actions => exact .action (same.trans groups) resources actions

/-- The change is one to the end of a list, and whatever stands before the end stays. -/
def IsAtEnd (change : List Node → List Node) : Prop :=
  ∀ (front : List Node) {list : List Node}, list ≠ [] → change (front ++ list) = front ++ change list

theorem isAtEnd_onLast (change : Node → Node) : IsAtEnd (onLast change) :=
  fun front _ some => onLast_append_list change front some

theorem isAtEnd_append (more : List Node) : IsAtEnd (· ++ more) :=
  fun _ _ _ => List.append_assoc ..

variable {change : List Node → List Node}

theorem Resource.nodes_onLast {resource : Resource} {earlier : List Action} {action : Action}
    {act : Action → Action} (atEnd : IsAtEnd change)
    (actions : resource.actions = earlier ++ [action]) (same : [(act action).node] = change [action.node]) :
    ({ resource with actions := onLast act resource.actions } : Resource).nodes =
      change resource.nodes := by
  have split := atEnd (({ resource with actions := earlier } : Resource).nodes) (List.cons_ne_nil action.node [])
  rw [← same] at split
  simpa [Resource.nodes, actions, onLast_append] using split.symm

theorem Group.nodes_onLast {group : Group} {before : List Resource} {resource : Resource}
    {act : Resource → Resource} (atEnd : IsAtEnd change)
    (resources : group.resources = before ++ [resource])
    (same : (act resource).nodes = change resource.nodes) :
    ({ group with resources := onLast act group.resources } : Group).nodes = change group.nodes := by
  have split := atEnd (({ group with resources := before } : Group).nodes)
    (show resource.nodes ≠ [] from List.cons_ne_nil _ _)
  rw [← same] at split
  simpa [Group.nodes, resources, onLast_append] using split.symm

theorem Blueprint.nodes_onGroup {front : List Group} {group : Group} {act : Group → Group}
    (atEnd : IsAtEnd change) (groups : tree.groups = front ++ [group])
    (same : (act group).nodes = change group.nodes) :
    (tree.onGroup act).nodes = change tree.nodes := by
  have split := atEnd (({ tree with groups := front } : Blueprint).nodes)
    (show group.nodes ≠ [] from List.cons_ne_nil _ _)
  rw [← same] at split
  simpa [Blueprint.nodes, Blueprint.onGroup, groups, onLast_append] using split.symm

def Node.add (entry : Entry) (node : Node) : Node where
  opening := node.opening
  description := node.description ++ entry.text?.elim [] fun text => text ++ ['\n']
  requests := node.requests ++ (entry.payload? .request).toList
  responses := node.responses ++ (entry.payload? .response).toList

theorem Action.node_push (action : Action) (payload : Payload) :
    (action.push payload).node =
      action.node.add (.payload payload.signature.payloadKind (.ok payload)) := by
  obtain ⟨signature, mediaType, description, headers, body, schema, line⟩ := payload
  cases signature <;>
    simp [push, node, Node.add, Signature.payloadKind, Entry.text?, Entry.payload?]

namespace Blueprint

/-- The tree with a further line at the node that the scope speaks of, and nowhere else. -/
def describeAt (tree : Blueprint) (scope : Scope) (text : Text) : Blueprint :=
  let line := text ++ ['\n']
  match scope with
  | .api => { tree with description := tree.description ++ line }
  | .group => tree.onGroup fun group => { group with description := group.description ++ line }
  | .resource =>
    tree.onResource fun resource => { resource with description := resource.description ++ line }
  | .action => tree.onAction (Action.describe line)

theorem top_describe (tree : Blueprint) (scope : Scope) (text : Text) :
    (tree.describe scope text).metadata = tree.metadata ∧
      (tree.describe scope text).name = tree.name := by
  unfold describe
  split <;> exact ⟨rfl, rfl⟩

/-- A line is not redirected where the scope speaks of the last node. -/
theorem EndsIn.describe_eq (ends : tree.EndsIn scope) (text : Text) :
    tree.describe scope text = tree.describeAt scope text := by
  cases ends with
  | api groups => rfl
  | group groups resources =>
    simp only [Blueprint.describe, onGroup, describeAt, groups]
    simp [onLast_append, Group.describe]
  | resource groups resources actions =>
    simp only [Blueprint.describe, onGroup, onResource, describeAt, groups]
    simp [onLast_append, Group.describe, resources, Resource.describe]
  | action groups resources actions =>
    simp only [Blueprint.describe, onGroup, onResource, onAction, describeAt, groups]
    simp [onLast_append, Group.describe, resources, Resource.describe, actions]

theorem nodes_describe (ends : tree.EndsIn scope) (text : Text) :
    (tree.describe scope text).nodes = onLast (Node.add (.text text)) tree.nodes := by
  rw [ends.describe_eq text]
  cases ends with
  | api groups => simp [describeAt, nodes, groups, onLast, Node.add, Entry.text?, Entry.payload?]
  | group groups resources =>
    apply nodes_onGroup (isAtEnd_onLast _) groups
    simp [Group.nodes, resources, onLast, Node.add, Entry.text?, Entry.payload?]
  | resource groups resources actions =>
    apply nodes_onGroup (isAtEnd_onLast _) groups
    apply Group.nodes_onLast (isAtEnd_onLast _) resources
    simp [Resource.nodes, actions, onLast, Node.add, Entry.text?, Entry.payload?]
  | action groups resources actions =>
    apply nodes_onGroup (isAtEnd_onLast _) groups
    apply Group.nodes_onLast (isAtEnd_onLast _) resources
    apply Resource.nodes_onLast (isAtEnd_onLast _) actions
    simp [Action.describe, Action.node, onLast, Node.add, Entry.text?, Entry.payload?]

theorem EndsIn.describe (ends : tree.EndsIn scope) (text : Text) :
    (tree.describe scope text).EndsIn scope := by
  rw [ends.describe_eq text]
  cases ends with
  | api groups => exact EndsIn.api groups
  | group groups resources => exact EndsIn.group (onLast_of_eq groups _) resources
  | resource groups resources actions =>
    exact EndsIn.resource (onLast_of_eq groups _) (onLast_of_eq resources _) actions
  | action groups resources actions =>
    exact EndsIn.action (onLast_of_eq groups _) (onLast_of_eq resources _) (onLast_of_eq actions _)

theorem nodes_pushPayload (ends : tree.EndsIn .action) (payload : Payload) :
    (tree.onAction fun action => action.push payload).nodes =
      onLast (Node.add (.payload payload.signature.payloadKind (.ok payload))) tree.nodes := by
  cases ends with
  | @action front group before resource earlier action groups resources actions =>
    apply nodes_onGroup (isAtEnd_onLast _) groups
    apply Group.nodes_onLast (isAtEnd_onLast _) resources
    apply Resource.nodes_onLast (isAtEnd_onLast _) actions
    exact congrArg (fun node => [node]) (action.node_push payload)

theorem EndsIn.pushPayload (ends : tree.EndsIn .action) (payload : Payload) :
    (tree.onAction fun action => action.push payload).EndsIn .action := by
  cases ends with
  | action groups resources actions =>
    exact EndsIn.action (onLast_of_eq groups _) (onLast_of_eq resources _) (onLast_of_eq actions _)

theorem nodes_pushGroup (tree : Blueprint) (group : Group) :
    (tree.pushGroup group).nodes = tree.nodes ++ group.nodes := by
  simp [nodes, pushGroup]

theorem nodes_pushResource {front : List Group} {group : Group}
    (groups : tree.groups = front ++ [group]) (resource : Resource) :
    (tree.onGroup fun group => group.push resource).nodes = tree.nodes ++ resource.nodes := by
  apply nodes_onGroup (isAtEnd_append resource.nodes) groups
  simp [Group.nodes, Group.push]

theorem exists_last_resource (ends : tree.EndsIn scope) (inside : scope = .resource ∨ scope = .action) :
    ∃ front group before resource, tree.groups = front ++ [group] ∧
      group.resources = before ++ [resource] := by
  cases ends with
  | api groups => simp at inside
  | group groups resources => simp at inside
  | resource groups resources actions => exact ⟨_, _, _, _, groups, resources⟩
  | action groups resources actions => exact ⟨_, _, _, _, groups, resources⟩

theorem nodes_pushAction {front : List Group} {group : Group} {before : List Resource}
    {resource : Resource} (groups : tree.groups = front ++ [group])
    (resources : group.resources = before ++ [resource]) (action : Action) :
    (tree.onResource fun resource => resource.push action).nodes = tree.nodes ++ [action.node] := by
  apply nodes_onGroup (isAtEnd_append [action.node]) groups
  apply Group.nodes_onLast (isAtEnd_append [action.node]) resources
  simp [Resource.nodes, Resource.push]

end Blueprint

end Trees

theorem Node.ofChapter_concat (opening : Option Opening) (chapter : List Entry) (entry : Entry) :
    ofChapter opening (chapter ++ [entry]) = (ofChapter opening chapter).add entry := by
  cases entry with
  | payload kind read => cases kind <;> simp [ofChapter, add, Entry.text?, Entry.payload?]
  | _ => simp [ofChapter, add, Entry.text?, Entry.payload?]

theorem Node.ofLog_ne_nil (opening : Option Opening) (chapter log : List Entry) :
    ofLog opening chapter log ≠ [] := by
  induction log generalizing opening chapter with
  | nil => exact List.cons_ne_nil _ _
  | cons entry log ih =>
    rw [ofLog]
    split
    · exact List.cons_ne_nil _ _
    · exact ih opening _

theorem Node.ofLog_opens (opening : Option Opening) (chapter log : List Entry) (next : Opening) :
    ofLog opening chapter (log ++ [.opens next]) =
      ofLog opening chapter log ++ [ofChapter (some next) []] := by
  induction log generalizing opening chapter with
  | nil => rfl
  | cons entry log ih =>
    rw [List.cons_append, ofLog, ofLog]
    split
    · rw [ih, List.cons_append]
    · exact ih opening _

theorem Node.ofLog_openings (opening : Option Opening) (chapter log : List Entry)
    (openings : List Opening) :
    ofLog opening chapter (log ++ openings.map .opens) =
      ofLog opening chapter log ++ openings.map fun next => ofChapter (some next) [] := by
  induction openings generalizing log with
  | nil => rw [List.map_nil, List.map_nil, List.append_nil, List.append_nil]
  | cons next openings ih =>
    rw [List.map_cons, List.append_cons, ih, ofLog_opens, List.map_cons, List.append_assoc]
    rfl

theorem Node.ofLog_concat (opening : Option Opening) (chapter log : List Entry) {entry : Entry}
    (inside : entry.opening? = none) :
    ofLog opening chapter (log ++ [entry]) = onLast (add entry) (ofLog opening chapter log) := by
  induction log generalizing opening chapter with
  | nil =>
    simp only [List.nil_append, ofLog, inside]
    exact congrArg (fun node => [node]) (ofChapter_concat opening chapter entry)
  | cons first log ih =>
    rw [List.cons_append, ofLog, ofLog]
    split
    · rw [ih]
      exact (onLast_append_list _ [_] (ofLog_ne_nil _ _ _)).symm
    · exact ih opening _

end ApiBlueprint

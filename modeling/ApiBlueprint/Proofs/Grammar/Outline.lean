import ApiBlueprint.Proofs.Grammar.Render

/-!
What a reading has of a tree, apart from line numbers and blank descriptions. A change at the end of
the tree is the same change at the end of its outline.
-/

namespace ApiBlueprint

theorem onLast_append {α : Type} (change : α → α) (front : List α) (last : α) :
    onLast change (front ++ [last]) = front ++ [change last] := by
  induction front with
  | nil => rfl
  | cons head front ih =>
    cases front with
    | nil => rfl
    | cons next front => exact congrArg (List.cons head) ih

theorem onLast_append_list {α : Type} (change : α → α) (front : List α) {list : List α}
    (some : list ≠ []) : onLast change (front ++ list) = front ++ onLast change list := by
  rcases List.eq_nil_or_concat' list with rfl | ⟨init, last, rfl⟩
  · exact absurd rfl some
  · rw [← List.append_assoc, onLast_append, onLast_append, List.append_assoc]

theorem onLast_ne_nil {α : Type} (change : α → α) {list : List α} (some : list ≠ []) :
    onLast change list ≠ [] := by
  rcases List.eq_nil_or_concat' list with rfl | ⟨init, last, rfl⟩
  · exact absurd rfl some
  · rw [onLast_append]
    exact List.append_ne_nil_of_right_ne_nil init (List.cons_ne_nil _ _)

theorem onLast_eq_nil_iff {α : Type} {change : α → α} {list : List α} :
    onLast change list = [] ↔ list = [] := by
  constructor
  · intro empty
    by_contra some
    exact onLast_ne_nil change some empty
  · rintro rfl
    rfl

theorem onLast_onLast {α : Type} (first second : α → α) (list : List α) :
    onLast second (onLast first list) = onLast (fun item => second (first item)) list := by
  rcases List.eq_nil_or_concat' list with rfl | ⟨front, last, rfl⟩
  · rfl
  · rw [onLast_append, onLast_append, onLast_append]

theorem onLast_id {α : Type} (list : List α) : onLast (fun item => item) list = list := by
  rcases List.eq_nil_or_concat' list with rfl | ⟨front, last, rfl⟩
  · rfl
  · rw [onLast_append]

theorem map_onLast {α β : Type} {view : α → β} {change : α → α} {changed : β → β}
    (same : ∀ item, view (change item) = changed (view item)) (list : List α) :
    (onLast change list).map view = onLast changed (list.map view) := by
  rcases List.eq_nil_or_concat' list with rfl | ⟨front, last, rfl⟩
  · rfl
  · rw [onLast_append, List.map_append, List.map_append, List.map_singleton, List.map_singleton,
      onLast_append, same]

theorem map_onLast_same {α β : Type} {view : α → β} {change : α → α}
    (same : ∀ item, view (change item) = view item) (list : List α) :
    (onLast change list).map view = list.map view :=
  (map_onLast same list).trans (onLast_id _)

def Action.outline (action : Action) : Action := (Blueprint.tidyAction action).unnumbered
def Resource.outline (resource : Resource) : Resource := (Blueprint.tidyResource resource).unnumbered
def Group.outline (group : Group) : Group := (Blueprint.tidyGroup group).unnumbered
def Blueprint.outline (blueprint : Blueprint) : Blueprint := blueprint.tidy.unnumbered

theorem resource_outline (resource : Resource) : resource.outline =
    { resource with
      description := Blueprint.tidyText resource.description
      actions := resource.actions.map Action.outline
      line := 0 } := by
  simp [Resource.outline, Resource.unnumbered, Blueprint.tidyResource, Action.outline,
    Function.comp_def]

theorem group_outline (group : Group) : group.outline =
    { group with
      description := Blueprint.tidyText group.description
      resources := group.resources.map Resource.outline } := by
  simp [Group.outline, Group.unnumbered, Blueprint.tidyGroup, Resource.outline, Function.comp_def]

namespace Blueprint

theorem outline_eq (blueprint : Blueprint) : blueprint.outline =
    { blueprint with
      description := tidyText blueprint.description
      groups := blueprint.groups.map Group.outline } := by
  simp [outline, unnumbered, tidy, Group.outline, Function.comp_def]

theorem outline_onGroup {change changed : Group → Group}
    (same : ∀ group, (change group).outline = changed group.outline) (blueprint : Blueprint) :
    (blueprint.onGroup change).outline = blueprint.outline.onGroup changed := by
  simp only [outline_eq, onGroup, map_onLast same]

theorem outline_onResource {change changed : Resource → Resource}
    (same : ∀ resource, (change resource).outline = changed resource.outline)
    (blueprint : Blueprint) :
    (blueprint.onResource change).outline = blueprint.outline.onResource changed := by
  refine outline_onGroup (fun group => ?_) blueprint
  simp only [group_outline, map_onLast same]

theorem outline_onAction {change changed : Action → Action}
    (same : ∀ action, (change action).outline = changed action.outline) (blueprint : Blueprint) :
    (blueprint.onAction change).outline = blueprint.outline.onAction changed := by
  refine outline_onResource (fun resource => ?_) blueprint
  simp only [resource_outline, map_onLast same]

theorem tidyText_blank (description : Text) : tidyText (description ++ ['\n']) = tidyText description := by
  unfold tidyText
  rw [List.dropWhile_append]
  split
  · rename_i empty
    rw [List.isEmpty_iff.mp empty]
    rfl
  · exact Text.trimEnd_append (by decide)

end Blueprint

theorem Action.outline_blank (action : Action) : (action.describe ['\n']).outline = action.outline := by
  simp only [describe, outline, unnumbered, Blueprint.tidyAction, Blueprint.tidyText_blank]

theorem Resource.outline_blank (scope : Scope) (resource : Resource) :
    (resource.describe scope ['\n']).outline = resource.outline := by
  unfold describe
  split
  · simp only [resource_outline, Blueprint.tidyText_blank]
  · simp only [resource_outline, map_onLast_same Action.outline_blank]

theorem Group.outline_blank (scope : Scope) (group : Group) :
    (group.describe scope ['\n']).outline = group.outline := by
  unfold describe
  split
  · simp only [group_outline, Blueprint.tidyText_blank]
  · simp only [group_outline, map_onLast_same (Resource.outline_blank scope)]

namespace Blueprint

theorem outline_blank (blueprint : Blueprint) (scope : Scope) :
    (blueprint.describe scope []).outline = blueprint.outline := by
  unfold describe
  simp only [List.nil_append]
  split
  · simp only [outline_eq, tidyText_blank]
  · simp only [outline_eq, onGroup, map_onLast_same (Group.outline_blank scope)]

theorem groups_onGroup_eq_nil_iff {change : Group → Group} {blueprint : Blueprint} :
    (blueprint.onGroup change).groups = [] ↔ blueprint.groups = [] :=
  onLast_eq_nil_iff

theorem groups_describe_eq_nil_iff {blueprint : Blueprint} {scope : Scope} {text : Text} :
    (blueprint.describe scope text).groups = [] ↔ blueprint.groups = [] := by
  unfold describe
  split
  · rfl
  · exact groups_onGroup_eq_nil_iff

def pushGroup (blueprint : Blueprint) (group : Group) : Blueprint :=
  { blueprint with groups := blueprint.groups ++ [group] }

end Blueprint

def Group.push (group : Group) (resource : Resource) : Group :=
  { group with resources := group.resources ++ [resource] }

def Resource.push (resource : Resource) (action : Action) : Resource :=
  { resource with actions := resource.actions ++ [action] }

def Action.push (action : Action) (payload : Payload) : Action :=
  match payload.signature with
  | .request _ => { action with requests := action.requests ++ [payload] }
  | .response _ => { action with responses := action.responses ++ [payload] }

theorem Reading.addResource_outside {state : Reading} (outside : state.scope = .api) (resource : Resource)
    (scope : Scope) : state.addResource resource scope =
      { state with
        scope
        blueprint := (state.blueprint.pushGroup {}).onGroup fun group => group.push resource } := by
  simp only [addResource, outside, decide_true, Bool.true_or, if_true]
  rfl

theorem Reading.addResource_inside {state : Reading} (inside : state.scope ≠ .api)
    (some : state.blueprint.groups ≠ []) (resource : Resource) (scope : Scope) :
    state.addResource resource scope =
      { state with
        scope
        blueprint := state.blueprint.onGroup fun group => group.push resource } := by
  have test : (state.scope = .api || state.blueprint.groups.isEmpty : Bool) = false := by
    simp [inside, some]
  simp only [addResource, test]
  rfl

namespace Blueprint

theorem onGroup_pushGroup (change : Group → Group) (blueprint : Blueprint) (group : Group) :
    (blueprint.pushGroup group).onGroup change = blueprint.pushGroup (change group) := by
  simp only [onGroup, pushGroup, onLast_append]

theorem onResource_push (change : Resource → Resource) (blueprint : Blueprint) (resource : Resource) :
    (blueprint.onGroup fun group => group.push resource).onResource change =
      blueprint.onGroup fun group => group.push (change resource) := by
  simp only [onResource, onGroup, Group.push, onLast_onLast, onLast_append]

theorem onAction_push (change : Action → Action) (blueprint : Blueprint) (action : Action) :
    (blueprint.onResource fun resource => resource.push action).onAction change =
      blueprint.onResource fun resource => resource.push (change action) := by
  simp only [onAction, onResource, onGroup, Resource.push, onLast_onLast, onLast_append]

theorem outline_pushGroup (blueprint : Blueprint) (group : Group) :
    (blueprint.pushGroup group).outline = blueprint.outline.pushGroup group.outline := by
  simp [outline_eq, pushGroup]

theorem outline_pushResource (blueprint : Blueprint) (resource : Resource) :
    (blueprint.onGroup fun group => group.push resource).outline =
      blueprint.outline.onGroup fun group => group.push resource.outline := by
  refine outline_onGroup (fun group => ?_) blueprint
  simp [group_outline, Group.push]

theorem outline_pushAction (blueprint : Blueprint) (action : Action) :
    (blueprint.onResource fun resource => resource.push action).outline =
      blueprint.outline.onResource fun resource => resource.push action.outline := by
  refine outline_onResource (fun resource => ?_) blueprint
  simp [resource_outline, Resource.push]

theorem outline_pushPayload (blueprint : Blueprint) (payload : Payload) :
    (blueprint.onAction fun action => action.push payload).outline =
      blueprint.outline.onAction fun action => action.push payload.unnumbered := by
  refine outline_onAction (fun action => ?_) blueprint
  obtain ⟨signature, mediaType, description, headers, body, schema, line⟩ := payload
  cases signature <;>
    simp [Action.push, Action.outline, Action.unnumbered, tidyAction, Payload.unnumbered]

end Blueprint

def Resource.bare (resource : Resource) : Resource :=
  { name := resource.name, uriTemplate := resource.uriTemplate, line := 0 }

def Action.bare (action : Action) : Action :=
  { name := action.name, method := action.method, uriTemplate := action.uriTemplate, line := 0 }

theorem Action.foldl_push (action : Action) (payloads : List Payload) :
    payloads.foldl (fun action payload => action.push payload.unnumbered) action =
      { action with
        requests := action.requests ++
          (payloads.filter (·.signature.payloadKind = .request)).map Payload.unnumbered
        responses := action.responses ++
          (payloads.filter (·.signature.payloadKind = .response)).map Payload.unnumbered } := by
  induction payloads generalizing action with
  | nil => simp
  | cons payload payloads ih =>
    obtain ⟨signature, mediaType, description, headers, body, schema, line⟩ := payload
    rw [List.foldl_cons, ih]
    cases signature with
    | request name => simp [Action.push, Payload.unnumbered, Signature.payloadKind]
    | response status => simp [Action.push, Payload.unnumbered, Signature.payloadKind]

theorem Resource.foldl_actions (resource : Resource) (actions : List Action) :
    actions.foldl (fun resource action => resource.push action.unnumbered) resource =
      { resource with actions := resource.actions ++ actions.map Action.unnumbered } := by
  induction actions generalizing resource with
  | nil => simp
  | cons action actions ih =>
    rw [List.foldl_cons, ih]
    simp [Resource.push]

theorem Group.foldl_resources (group : Group) (resources : List Resource) :
    resources.foldl (fun group resource => group.push resource.unnumbered) group =
      { group with resources := group.resources ++ resources.map Resource.unnumbered } := by
  induction resources generalizing group with
  | nil => simp
  | cons resource resources ih =>
    rw [List.foldl_cons, ih]
    simp [Group.push]

theorem Blueprint.foldl_groups (blueprint : Blueprint) (groups : List Group) :
    groups.foldl (fun blueprint group => blueprint.pushGroup group.unnumbered) blueprint =
      { blueprint with groups := blueprint.groups ++ groups.map Group.unnumbered } := by
  induction groups generalizing blueprint with
  | nil => simp
  | cons group groups ih =>
    rw [List.foldl_cons, ih]
    simp [Blueprint.pushGroup]

theorem filter_kind {payloads : List Payload} {kind : PayloadKind}
    (same : ∀ payload ∈ payloads, payload.signature.payloadKind = kind) (sought : PayloadKind) :
    payloads.filter (·.signature.payloadKind = sought) = if kind = sought then payloads else [] := by
  split
  · rename_i equal
    rw [List.filter_eq_self]
    intro payload member
    simp [same payload member, equal]
  · rename_i other
    rw [List.filter_eq_nil_iff]
    intro payload member
    simp [same payload member, other]

theorem Action.IsCanonical.foldl_payloads {action : Action} (canonical : action.IsCanonical) :
    (action.requests ++ action.responses).foldl
      (fun action payload => action.push payload.unnumbered) action.bare =
      action.unnumbered := by
  have requests := filter_kind fun payload member => (canonical.requests payload member).2
  have responses := filter_kind fun payload member => (canonical.responses payload member).2
  rw [Action.foldl_push]
  simp [Action.bare, Action.unnumbered, canonical.undescribed, requests, responses]

theorem Resource.IsCanonical.foldl_actions {resource : Resource} (canonical : resource.IsCanonical) :
    resource.actions.foldl (fun resource action => resource.push action.unnumbered)
      resource.bare = resource.unnumbered := by
  rw [Resource.foldl_actions]
  simp [Resource.bare, Resource.unnumbered, canonical.undescribed]

theorem Group.IsCanonical.foldl_resources {group : Group} (canonical : group.IsCanonical) :
    group.resources.foldl (fun group resource => group.push resource.unnumbered) { name := group.name } =
      group.unnumbered := by
  rw [Group.foldl_resources]
  simp [Group.unnumbered, canonical.undescribed]

end ApiBlueprint

import ApiBlueprint.Proofs.Grammar.Carries
import ApiBlueprint.Proofs.Grammar.Layout

/-!
Reading the canonical text of a blueprint gives the blueprint back: the pieces of the text follow
each other as the tree is built.
-/

namespace ApiBlueprint

open Render

namespace Reading

theorem breaks_marked {c : Char} {rest : Text} {more : List Text} (marker : c = '#' ∨ c = '+') :
    Breaks ((c :: rest) :: more) := by
  intro text first
  obtain rfl := Option.some.inj first
  rcases marker with rfl | rfl <;> exact ⟨rfl, rfl⟩

theorem payload_breaks (gap : Nat) (payload : Payload) : Breaks (payload.lines gap) :=
  breaks_marked (Or.inr rfl)

theorem action_breaks (gap : Nat) (action : Action) : Breaks (action.lines gap) :=
  breaks_marked (Or.inl rfl)

theorem resource_breaks (gap : Nat) (resource : Resource) : Breaks (resource.lines gap) :=
  breaks_marked (Or.inl rfl)

theorem group_breaks (gap : Nat) (group : Group) : Breaks (group.lines gap) := by
  have resources : Breaks (group.resources.flatMap (Resource.lines gap)) :=
    breaks_flatMap fun resource _ => resource_breaks gap resource
  unfold Group.lines
  cases group.name with
  | none => exact resources
  | some name => exact breaks_marked (Or.inl rfl)

section Members

variable {tree : Blueprint}

theorem carries_payloads {payloads : List Payload} (gap : Nat)
    (canonical : ∀ payload ∈ payloads, payload.IsCanonical) (tree : Blueprint) :
    Carries (payloads.flatMap (Payload.lines gap)) tree (· = .action)
      (payloads.foldl (fun tree payload => tree.onAction fun action => action.push payload.unnumbered) tree)
      (· = .action) :=
  Carries.items (fun payload member _ => carries_payload gap (canonical payload member))
    (fun payload _ => payload_breaks gap payload) tree

theorem carries_action {action : Action} (gap : Nat) (canonical : action.IsCanonical) :
    Carries (action.lines gap) tree (fun scope => scope = .resource ∨ scope = .action)
      (tree.onResource fun resource => resource.push action.unnumbered) (· = .action) := by
  have members : ∀ payload ∈ action.requests ++ action.responses, payload.IsCanonical := by
    intro payload member
    rcases List.mem_append.mp member with request | response
    · exact (canonical.requests payload request).1
    · exact (canonical.responses payload response).1
  have payloads := carries_payloads gap members
    (tree.onResource fun resource => resource.push action.bare)
  -- Payloads pushed to the action that the tree ends with are payloads of the action pushed.
  rw [List.foldl_hom (fun action => tree.onResource fun resource => resource.push action)
    fun action payload => Blueprint.onAction_push _ tree action, canonical.foldl_payloads] at payloads
  exact (carries_action_heading gap canonical).append payloads
    (breaks_flatMap fun payload _ => payload_breaks gap payload)

theorem carries_actions {actions : List Action} (gap : Nat)
    (canonical : ∀ action ∈ actions, action.IsCanonical) (tree : Blueprint) :
    Carries (actions.flatMap (Action.lines gap)) tree (fun scope => scope = .resource ∨ scope = .action)
      (actions.foldl (fun tree action => tree.onResource fun resource => resource.push action.unnumbered)
        tree)
      (fun scope => scope = .resource ∨ scope = .action) :=
  Carries.items
    (fun action member _ => (carries_action gap (canonical action member)).weaken (fun _ => id)
      fun _ => Or.inr)
    (fun action _ => action_breaks gap action) tree

theorem carries_resource {resource : Resource} {scopes : Scope → Prop} {base : Blueprint} (gap : Nat)
    (canonical : resource.IsCanonical)
    (headed : Carries (padded gap [heading 2 resource.declared]) tree scopes
      (base.onGroup fun group => group.push resource.bare) (· = .resource)) :
    Carries (resource.lines gap) tree scopes
      (base.onGroup fun group => group.push resource.unnumbered) (· ≠ .api) := by
  have actions := carries_actions gap canonical.actions
    (base.onGroup fun group => group.push resource.bare)
  rw [List.foldl_hom (fun resource => base.onGroup fun group => group.push resource)
    fun resource action => Blueprint.onResource_push _ base resource, canonical.foldl_actions] at actions
  have inside (scope : Scope) : scope = .resource ∨ scope = .action → scope ≠ .api := by
    rintro (rfl | rfl) <;> decide
  have behind := actions.weaken (fun _ => Or.inl) inside
  exact headed.append behind (breaks_flatMap fun action _ => action_breaks gap action)

theorem carries_resources {resources : List Resource} (gap : Nat)
    (canonical : ∀ resource ∈ resources, resource.IsCanonical) (tree : Blueprint) :
    Carries (resources.flatMap (Resource.lines gap)) tree (· ≠ .api)
      (resources.foldl (fun tree resource => tree.onGroup fun group => group.push resource.unnumbered)
        tree)
      (· ≠ .api) :=
  Carries.items
    (fun resource member _ => carries_resource gap (canonical resource member)
      (carries_resource_heading gap (canonical resource member)))
    (fun resource _ => resource_breaks gap resource) tree

theorem foldl_group {group : Group} (canonical : group.IsCanonical) (tree : Blueprint) :
    group.resources.foldl
      (fun tree resource => tree.onGroup fun group => group.push resource.unnumbered)
      (tree.pushGroup { name := group.name }) = tree.pushGroup group.unnumbered := by
  rw [List.foldl_hom tree.pushGroup fun group resource => Blueprint.onGroup_pushGroup _ tree group,
    canonical.foldl_resources]

theorem carries_named_group {group : Group} (gap : Nat) (canonical : group.IsCanonical)
    (named : group.name ≠ none) :
    Carries (group.lines gap) tree (fun _ => True) (tree.pushGroup group.unnumbered) (fun _ => True) := by
  obtain ⟨name, named⟩ := Option.ne_none_iff_exists'.mp named
  have resources := carries_resources gap canonical.resources (tree.pushGroup { name := group.name })
  rw [foldl_group canonical] at resources
  have inside (scope : Scope) : scope = .group → scope ≠ .api := by
    rintro rfl
    decide
  have behind := resources.weaken inside fun _ _ => trivial
  rw [named] at behind
  rw [Group.lines, named]
  exact (carries_group gap (canonical.name name named)).append behind
    (breaks_flatMap fun resource _ => resource_breaks gap resource)

theorem carries_first_group {group : Group} (gap : Nat) (canonical : group.IsCanonical)
    (unnamed : group.name = none → group.resources ≠ []) :
    Carries (group.lines gap) tree (· = .api) (tree.pushGroup group.unnumbered) (fun _ => True) := by
  cases named : group.name with
  | some name =>
    have whole := @carries_named_group tree group gap canonical (by simp [named])
    exact whole.weaken (fun _ _ => trivial) fun _ => id
  | none =>
    obtain ⟨first, rest, resources⟩ := List.exists_cons_of_ne_nil (unnamed named)
    have members := canonical.resources
    rw [resources] at members
    have grown := foldl_group canonical tree
    rw [named, resources, List.foldl_cons] at grown
    have opening := carries_resource gap (members first List.mem_cons_self)
      (@carries_first_heading tree first gap (members first List.mem_cons_self))
    have behind := carries_resources gap
      (fun resource member => members resource (List.mem_cons_of_mem first member))
      ((tree.pushGroup {}).onGroup fun group => group.push first.unnumbered)
    rw [grown] at behind
    have whole := opening.append behind (breaks_flatMap fun resource _ => resource_breaks gap resource)
    rw [Group.lines, named, resources]
    exact whole.weaken (fun _ => id) fun _ _ => trivial

theorem carries_groups {groups : List Group} (gap : Nat) (canonical : ∀ group ∈ groups, group.IsCanonical)
    (unnamed : ∀ group ∈ groups.head?, group.name = none → group.resources ≠ [])
    (named : ∀ group ∈ groups.tail, group.name ≠ none) (tree : Blueprint) :
    Carries (groups.flatMap (Group.lines gap)) tree (· = .api)
      (groups.foldl (fun tree group => tree.pushGroup group.unnumbered) tree) (fun _ => True) := by
  cases groups with
  | nil => exact (Carries.nil tree (· = .api)).weaken (fun _ => id) fun _ _ => trivial
  | cons first rest =>
    have opening := @carries_first_group tree first gap (canonical first List.mem_cons_self)
      (unnamed first rfl)
    have behind : Carries (rest.flatMap (Group.lines gap)) (tree.pushGroup first.unnumbered)
        (fun _ => True)
        (rest.foldl (fun tree group => tree.pushGroup group.unnumbered)
          (tree.pushGroup first.unnumbered)) (fun _ => True) :=
      Carries.items
        (fun group member _ => carries_named_group gap
          (canonical group (List.mem_cons_of_mem first member)) (named group member))
        (fun group _ => group_breaks gap group) _
    exact opening.append behind (breaks_flatMap fun group _ => group_breaks gap group)

end Members

theorem run_lines {blueprint : Blueprint} (gap : Nat) (canonical : blueprint.IsCanonical) :
    ∃ next : Reading, next.Shows blueprint.unnumbered (fun _ => True) ∧
      Reading.run {} (numbered 1 (blueprint.lines gap)) = next.finish := by
  have noted : (({} : Reading).note blueprint.metadata).Shows { metadata := blueprint.metadata }
      (· = .api) := ⟨rfl, rfl, iff_of_true rfl rfl, rfl⟩
  have named : Carries (blueprint.name.elim [] fun name => padded gap [heading 1 name])
      { metadata := blueprint.metadata } (· = .api)
      { metadata := blueprint.metadata, name := blueprint.name } (· = .api) := by
    cases written : blueprint.name with
    | none => exact Carries.nil _ _
    | some name => exact carries_name gap (canonical.name name written) rfl
  have groups := carries_groups gap canonical.groups canonical.unnamed canonical.named
    { metadata := blueprint.metadata, name := blueprint.name }
  have whole := named.append groups (breaks_flatMap fun group _ => group_breaks gap group)
  rw [Blueprint.foldl_groups] at whole
  obtain ⟨middle, shows, blank⟩ := run_blank noted gap (1 + blueprint.metadata.length)
    (blueprint.name.elim [] (fun name => padded gap [heading 1 name]) ++
      blueprint.groups.flatMap (Group.lines gap))
  obtain ⟨next, showsNext, run⟩ :=
    whole middle (1 + blueprint.metadata.length + gap) [] shows (by simp [Breaks])
  refine ⟨next, { showsNext with scope := trivial, tree := ?_ }, ?_⟩
  · rw [showsNext.tree]
    simp [Blueprint.unnumbered, canonical.undescribed]
  · rw [List.append_nil] at run
    rw [Blueprint.lines, padded, List.append_assoc, run_metadata 1 _ canonical.metadata rfl rfl, blank,
      run, numbered, Reading.run]

end Reading

/-- The canonical text of a blueprint is read as the blueprint, up to the numbers of its lines. -/
theorem Blueprint.read_render (gap : Nat) (blueprint : Blueprint) (canonical : blueprint.IsCanonical) :
    (Blueprint.read (blueprint.render gap)).map Blueprint.unnumbered = .ok blueprint.unnumbered := by
  obtain ⟨next, shows, run⟩ := Reading.run_lines gap canonical
  have finished : next.finish = .ok next.blueprint.tidy := by
    rw [Reading.finish, shows.unfenced]
  have read : Blueprint.read (blueprint.render gap) = .ok next.blueprint.tidy := by
    rw [← finished, ← run, Blueprint.read]
    rcases @splitLines_render gap blueprint canonical with lines | ⟨none, lines⟩
    · rw [lines]
    · have step : Reading.step {} ⟨[], 1⟩ [] = .ok ({}, 0) := rfl
      rw [none, lines]
      exact Reading.run_step step
  calc
    (Blueprint.read (blueprint.render gap)).map Blueprint.unnumbered =
        .ok next.blueprint.tidy.unnumbered := by rw [read]; rfl
    _ = .ok blueprint.unnumbered := congrArg Except.ok shows.tree

def Blueprint.beans : Blueprint where
  metadata := [⟨"FORMAT".toList, "1A".toList⟩]
  name := some "Coffee House".toList
  groups := [
    { resources := [{ uriTemplate := "/health".toList, line := 0 }] },
    { name := some "Beans".toList
      resources := [
        { name := some "One bean".toList
          uriTemplate := "/beans/{id}".toList
          actions := [
            { name := some "Roast it".toList
              method := .post
              uriTemplate := some "/beans/{id}/roast".toList
              requests := [
                { signature := .request (some "Dark roast".toList)
                  mediaType := some "application/json".toList
                  headers := [
                    ⟨"Content-Type".toList, "application/json".toList⟩,
                    ⟨"Accept".toList, "text/plain".toList⟩]
                  body := some "[\n    1,\n\n+ Body\n]".toList
                  schema := some "[]".toList
                  line := 0 }]
              responses := [{ signature := .response 204, line := 0 }]
              line := 0 }]
          line := 0 }] }]

theorem Blueprint.read_render_beans : Blueprint.beans.IsCanonical ∧
    (Blueprint.read (Blueprint.beans.render 1)).map Blueprint.unnumbered =
      .ok Blueprint.beans.unnumbered := by
  have canonical : Blueprint.beans.IsCanonical := by decide +kernel
  exact ⟨canonical, Blueprint.read_render 1 Blueprint.beans canonical⟩

end ApiBlueprint

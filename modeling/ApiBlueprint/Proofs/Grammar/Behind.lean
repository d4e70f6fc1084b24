import ApiBlueprint.Proofs.Grammar.Relabel
import ApiBlueprint.Proofs.Grammar.Shift

/-!
Reading behind the groups of another blueprint. Once a group is open, what stands before it is not
looked at again: each step does the same behind it, and the same faults are found further down.
-/

namespace ApiBlueprint

section Push

variable (n : Nat)

theorem Group.push_shift (group : Group) (resource : Resource) :
    (group.push resource).shift n = (group.shift n).push (resource.shift n) := by
  simp [push, shift]

theorem Resource.push_shift (resource : Resource) (action : Action) :
    (resource.push action).shift n = (resource.shift n).push (action.shift n) := by
  simp [push, shift]

theorem Action.push_shift (action : Action) (payload : Payload) :
    (action.push payload).shift n = (action.shift n).push (payload.shift n) :=
  action.push_relabel (· + n) (Payload.shift n) rfl

end Push

namespace Blueprint

/-- The groups of a second blueprint behind those of the first one, `n` lines further down. -/
def extend (base : Blueprint) (n : Nat) (second : Blueprint) : Blueprint :=
  { base with groups := base.groups ++ second.groups.map (Group.shift n) }

section Extend

variable {n : Nat} {blueprint : Blueprint} (base : Blueprint)

theorem onGroup_extend {change change' : Group → Group}
    (same : ∀ group, (change group).shift n = change' (group.shift n)) (some : blueprint.groups ≠ []) :
    (base.extend n blueprint).onGroup change' = base.extend n (blueprint.onGroup change) := by
  have groups : blueprint.groups.map (Group.shift n) ≠ [] := by simpa using some
  simp only [extend, onGroup, onLast_append_list _ _ groups, map_onLast same]

theorem onResource_extend {change change' : Resource → Resource}
    (same : ∀ resource, (change resource).shift n = change' (resource.shift n))
    (some : blueprint.groups ≠ []) :
    (base.extend n blueprint).onResource change' = base.extend n (blueprint.onResource change) := by
  refine onGroup_extend base (fun group => ?_) some
  simp only [Group.shift, map_onLast same]

theorem onAction_extend {change change' : Action → Action}
    (same : ∀ action, (change action).shift n = change' (action.shift n))
    (some : blueprint.groups ≠ []) :
    (base.extend n blueprint).onAction change' = base.extend n (blueprint.onAction change) := by
  refine onResource_extend base (fun resource => ?_) some
  simp only [Resource.shift, map_onLast same]

theorem extend_ne_nil (some : blueprint.groups ≠ []) : (base.extend n blueprint).groups ≠ [] :=
  List.append_ne_nil_of_right_ne_nil _ (mt List.map_eq_nil_iff.mp some)

theorem describe_of_ne_nil {tree : Blueprint} {scope : Scope} (inside : scope ≠ .api)
    (some : tree.groups ≠ []) (text : Text) :
    tree.describe scope text = tree.onGroup (Group.describe scope (text ++ ['\n'])) := by
  simp [describe, inside, some]

theorem describe_extend {scope : Scope} (inside : scope ≠ .api) (some : blueprint.groups ≠ [])
    (text : Text) :
    (base.extend n blueprint).describe scope text = base.extend n (blueprint.describe scope text) := by
  have same (group : Group) : (group.describe scope (text ++ ['\n'])).shift n =
      (group.shift n).describe scope (text ++ ['\n']) :=
    @Group.describe_relabel (· + n) (Payload.shift n) scope _ group
  rw [describe_of_ne_nil inside (extend_ne_nil base some), describe_of_ne_nil inside some,
    onGroup_extend base same some]

end Extend

theorem tidyGroup_shift (n : Nat) (group : Group) : tidyGroup (group.shift n) = (tidyGroup group).shift n :=
  @tidyGroup_relabel (· + n) (Payload.shift n) group

theorem tidy_extend (base : Blueprint) (n : Nat) (second : Blueprint) :
    (base.extend n second).tidy = base.tidy.extend n second.tidy := by
  simp [tidy, extend, Function.comp_def, tidyGroup_shift]

end Blueprint

namespace Reading

structure IsGrouped (state : Reading) : Prop where
  inside : state.scope ≠ .api
  groups : state.blueprint.groups ≠ []
  outOfMetadata : state.inMetadata = false

/-- The state with the groups of another blueprint before its own, all lines `n` further down. -/
def behind (base : Blueprint) (n : Nat) (state : Reading) : Reading :=
  { state with
    blueprint := base.extend n state.blueprint
    fence := state.fence.map (Fence.shift n) }

section Behind

variable {base : Blueprint} {n : Nat} {state : Reading}

theorem IsGrouped.describe (grouped : state.IsGrouped) (text : Text) : (state.describe text).IsGrouped :=
  ⟨grouped.inside, mt Blueprint.groups_describe_eq_nil_iff.mp grouped.groups, grouped.outOfMetadata⟩

theorem describe_behind (grouped : state.IsGrouped) (text : Text) :
    (state.behind base n).describe text = (state.describe text).behind base n := by
  have described := Blueprint.describe_extend (n := n) base grouped.inside grouped.groups text
  simp only [describe, behind, described]

theorem IsGrouped.addResource (grouped : state.IsGrouped) (resource : Resource) {scope : Scope}
    (inside : scope ≠ .api) : (state.addResource resource scope).IsGrouped :=
  ⟨inside, groups_addResource_ne_nil state resource scope, grouped.outOfMetadata⟩

theorem IsGrouped.behind (grouped : state.IsGrouped) : (state.behind base n).IsGrouped :=
  ⟨grouped.inside, Blueprint.extend_ne_nil base grouped.groups, grouped.outOfMetadata⟩

theorem addResource_behind (grouped : state.IsGrouped) (resource : Resource) (scope : Scope) :
    (state.behind base n).addResource (resource.shift n) scope =
      (state.addResource resource scope).behind base n := by
  have pushed : (base.extend n state.blueprint).onGroup (fun group => group.push (resource.shift n)) =
      base.extend n (state.blueprint.onGroup fun group => group.push resource) :=
    Blueprint.onGroup_extend base (fun group => group.push_shift n resource) grouped.groups
  have there : (state.behind base n).IsGrouped := grouped.behind
  rw [addResource_inside grouped.inside grouped.groups, addResource_inside there.inside there.groups]
  simp only [behind, pushed]

theorem IsGrouped.addAction (grouped : state.IsGrouped) (action : Action) :
    (state.addAction action).IsGrouped :=
  ⟨by simp [Reading.addAction], onLast_ne_nil _ grouped.groups, grouped.outOfMetadata⟩

theorem addAction_behind (grouped : state.IsGrouped) (action : Action) :
    (state.behind base n).addAction (action.shift n) = (state.addAction action).behind base n := by
  have pushed : (base.extend n state.blueprint).onResource
      (fun resource => resource.push (action.shift n)) =
      base.extend n (state.blueprint.onResource fun resource => resource.push action) :=
    Blueprint.onResource_extend base (fun resource => resource.push_shift n action) grouped.groups
  exact congrArg (fun blueprint => ({ state.behind base n with scope := .action, blueprint } : Reading)) pushed

theorem IsGrouped.addPayload (grouped : state.IsGrouped) (payload : Payload) :
    (state.addPayload payload).IsGrouped :=
  ⟨grouped.inside, onLast_ne_nil _ grouped.groups, grouped.outOfMetadata⟩

theorem addPayload_behind (grouped : state.IsGrouped) (payload : Payload) :
    (state.behind base n).addPayload (payload.shift n) = (state.addPayload payload).behind base n := by
  have pushed : (base.extend n state.blueprint).onAction (fun action => action.push (payload.shift n)) =
      base.extend n (state.blueprint.onAction fun action => action.push payload) :=
    Blueprint.onAction_extend base (fun action => action.push_shift n payload) grouped.groups
  exact congrArg (fun blueprint => ({ state.behind base n with blueprint } : Reading)) pushed

theorem IsGrouped.enterHeading (grouped : state.IsGrouped) {heading : Heading} {line : Nat}
    {next : Reading} (entered : state.enterHeading heading line = .ok next) : next.IsGrouped := by
  unfold Reading.enterHeading at entered
  split at entered
  · obtain rfl := Except.ok.inj entered
    exact ⟨by simp, by simp, grouped.outOfMetadata⟩
  · split at entered
    · obtain rfl := Except.ok.inj entered
      exact grouped.addAction _
    · cases entered
  · obtain rfl := Except.ok.inj entered
    exact grouped.addResource _ (by decide)
  · obtain rfl := Except.ok.inj entered
    exact grouped.addResource _ (by decide)
  · simp only [grouped.inside, decide_false, Bool.false_and, Bool.false_eq_true, if_false] at entered
    obtain rfl := Except.ok.inj entered
    exact grouped.describe _

theorem enterHeading_behind (grouped : state.IsGrouped) (heading : Heading) (line : Nat) :
    (state.behind base n).enterHeading heading (line + n) =
      shifted n (behind base n) (state.enterHeading heading line) := by
  have scope : (state.behind base n).scope = state.scope := rfl
  unfold enterHeading
  cases Declaration.ofHeading heading.text with
  | group name => simp [behind, Blueprint.extend, Group.shift]
  | action name method uriTemplate =>
    simp only [scope]
    split
    · exact congrArg Except.ok (addAction_behind grouped { name, method, uriTemplate, line })
    · rfl
  | resource name uriTemplate =>
    exact congrArg Except.ok (addResource_behind grouped { name, uriTemplate, line } .resource)
  | endpoint method uriTemplate =>
    exact congrArg Except.ok
      (addResource_behind grouped { uriTemplate, actions := [{ method, line }], line } .action)
  | plain =>
    simp only [scope, grouped.inside, decide_false, Bool.false_and, Bool.false_eq_true, if_false]
    exact congrArg Except.ok (describe_behind grouped heading.render)

theorem enterPayload_behind (grouped : state.IsGrouped) (kind : PayloadKind) (signature : Text)
    (line : Line) (content : List Line) :
    (state.behind base n).enterPayload kind signature (line.shift n) (content.map (Line.shift n)) =
      shifted n (behind base n) (state.enterPayload kind signature line content) := by
  have scope : (state.behind base n).scope = state.scope := rfl
  have read : ((PayloadItem.ofRest kind signature).mapError fun fault => ⟨line.number + n, fault⟩) =
      shifted n id ((PayloadItem.ofRest kind signature).mapError fun fault => ⟨line.number, fault⟩) := by
    cases PayloadItem.ofRest kind signature <;> rfl
  unfold enterPayload
  refine Eq.trans (congrArg (· >>= _) read) (shifted_bind fun item => ?_)
  simp only [scope, id, Payload.build_shift]
  split
  · exact shifted_bind fun payload => congrArg Except.ok (addPayload_behind grouped payload)
  · rfl

theorem IsGrouped.enterPayload (grouped : state.IsGrouped) {kind : PayloadKind} {signature : Text}
    {line : Line} {content : List Line} {next : Reading}
    (entered : state.enterPayload kind signature line content = .ok next) : next.IsGrouped := by
  obtain ⟨item, -, built⟩ := bind_eq_ok.mp entered
  split at built
  · obtain ⟨payload, -, pushed⟩ := bind_eq_ok.mp built
    obtain rfl := pure_eq_ok.mp pushed
    exact grouped.addPayload payload
  · cases built

def stepBehind (base : Blueprint) (n : Nat) (answer : Reading × Nat) : Reading × Nat :=
  (answer.1.behind base n, answer.2)

theorem readStructure_behind (grouped : state.IsGrouped) (line : Line) (rest : List Line) :
    (state.behind base n).readStructure (line.shift n) (rest.map (Line.shift n)) =
      shifted n (stepBehind base n) (state.readStructure line rest) := by
  have text : (line.shift n).text = line.text := rfl
  have number : (line.shift n).number = line.number + n := rfl
  unfold readStructure
  rw [List.head?_map, Heading.detect_shift, text, number]
  cases Heading.detect? line rest.head? with
  | some heading =>
    refine Eq.trans (congrArg (· >>= _) (enterHeading_behind grouped heading line.number)) ?_
    exact shifted_bind fun next => rfl
  | none =>
    cases PayloadItem.keyword? line.text with
    | some item =>
      simp only [Payload.content_shift, List.length_map, enterPayload_behind grouped]
      exact shifted_bind fun next => rfl
    | none => exact congrArg (fun next => Except.ok (next, 0)) (describe_behind grouped line.text)

theorem IsGrouped.readStructure (grouped : state.IsGrouped) {line : Line} {rest : List Line}
    {next : Reading} {taken : Nat} (read : state.readStructure line rest = .ok (next, taken)) :
    next.IsGrouped := by
  unfold Reading.readStructure at read
  split at read
  · obtain ⟨reached, entered, done⟩ := bind_eq_ok.mp read
    obtain ⟨rfl, -⟩ := Prod.mk.inj (pure_eq_ok.mp done)
    exact grouped.enterHeading entered
  · split at read
    · obtain ⟨reached, entered, done⟩ := bind_eq_ok.mp read
      obtain ⟨rfl, -⟩ := Prod.mk.inj (pure_eq_ok.mp done)
      exact grouped.enterPayload entered
    · obtain ⟨rfl, -⟩ := Prod.mk.inj (Except.ok.inj read)
      exact grouped.describe line.text

theorem step_behind (grouped : state.IsGrouped) (line : Line) (rest : List Line) :
    (state.behind base n).step (line.shift n) (rest.map (Line.shift n)) =
      shifted n (stepBehind base n) (state.step line rest) := by
  have fence : (state.behind base n).fence = state.fence.map (Fence.shift n) := rfl
  have metadata : (state.behind base n).inMetadata = false := grouped.outOfMetadata
  unfold step
  rw [fence, Fence.advance_shift]
  obtain ⟨fenced, opened⟩ := Fence.advance state.fence line
  cases fenced with
  | true =>
    have inside : ({ state with fence := opened, inMetadata := false } : Reading).IsGrouped :=
      ⟨grouped.inside, grouped.groups, rfl⟩
    exact congrArg (fun next => Except.ok (next, 0)) (describe_behind inside line.text)
  | false =>
    simp only [metadata, grouped.outOfMetadata, Bool.false_eq_true, if_false]
    exact readStructure_behind grouped line rest

theorem IsGrouped.step (grouped : state.IsGrouped) {line : Line} {rest : List Line} {next : Reading}
    {taken : Nat} (stepped : state.step line rest = .ok (next, taken)) : next.IsGrouped := by
  unfold Reading.step at stepped
  split at stepped
  · rename_i opened _
    have inside : ({ state with fence := opened, inMetadata := false } : Reading).IsGrouped :=
      ⟨grouped.inside, grouped.groups, rfl⟩
    obtain ⟨rfl, -⟩ := Prod.mk.inj (Except.ok.inj stepped)
    exact inside.describe line.text
  · simp only [grouped.outOfMetadata, Bool.false_eq_true, if_false] at stepped
    exact grouped.readStructure stepped

theorem finish_behind (state : Reading) :
    (state.behind base n).finish = shifted n (base.tidy.extend n) state.finish := by
  have fence : (state.behind base n).fence = state.fence.map (Fence.shift n) := rfl
  unfold finish
  rw [fence]
  cases state.fence with
  | some fence => rfl
  | none => exact congrArg Except.ok (Blueprint.tidy_extend base n state.blueprint)

/-- By induction on the number of lines: the states stay one behind the other. -/
theorem run_behind (grouped : state.IsGrouped) (lines : List Line) :
    (state.behind base n).run (lines.map (Line.shift n)) =
      shifted n (base.tidy.extend n) (state.run lines) := by
  induction length : lines.length using Nat.strong_induction_on generalizing state lines with
  | _ count ih =>
    cases lines with
    | nil =>
      rw [List.map_nil, run, run]
      exact finish_behind state
    | cons line rest =>
      rw [List.map_cons, run, run, step_behind grouped]
      cases stepped : state.step line rest with
      | error error => rfl
      | ok answer =>
        obtain ⟨next, taken⟩ := answer
        have shorter : (rest.drop taken).length < count := by
          rw [← length, List.length_drop, List.length_cons]
          omega
        have later := ih _ shorter (grouped.step stepped) _ rfl
        rw [List.map_drop] at later
        exact later

end Behind
end Reading
end ApiBlueprint

import ApiBlueprint.Proofs.Grammar.Nodes
import ApiBlueprint.Proofs.Grammar.Step

/-!
Where a reading puts what it reads. The scope is the kind of the last node of the tree, whatever has
been read, so there is a node for each line, payload and heading that is accepted, and it is the one
that was opened last.
-/

namespace ApiBlueprint

/-- All that was read is in the tree, each entry at the node that was opened last before it. -/
structure Blueprint.Records (tree : Blueprint) (log : List Entry) : Prop where
  metadata : tree.metadata = log.filterMap Entry.metadata?
  name : tree.name.toList = log.filterMap Entry.name?
  nodes : tree.nodes = Node.ofLog none [] log

namespace Blueprint.Records

variable {tree grown : Blueprint} {log : List Entry}

theorem opens (records : tree.Records log) (openings : List Opening)
    (metadata : grown.metadata = tree.metadata) (name : grown.name = tree.name)
    (nodes : grown.nodes = tree.nodes ++ openings.map fun next => Node.ofChapter (some next) []) :
    grown.Records (log ++ openings.map .opens) where
  metadata := by
    have none : (openings.map Entry.opens).filterMap Entry.metadata? = [] := by
      simp [List.filterMap_map, Function.comp_def, Entry.metadata?]
    rw [metadata, records.metadata, List.filterMap_append, none, List.append_nil]
  name := by
    have none : (openings.map Entry.opens).filterMap Entry.name? = [] := by
      simp [List.filterMap_map, Function.comp_def, Entry.name?]
    rw [name, records.name, List.filterMap_append, none, List.append_nil]
  nodes := by rw [nodes, records.nodes, Node.ofLog_openings]

theorem adds (records : tree.Records log) {entry : Entry} (inside : entry.opening? = none)
    (noMetadata : entry.metadata? = none) (noName : entry.name? = none)
    (metadata : grown.metadata = tree.metadata) (name : grown.name = tree.name)
    (nodes : grown.nodes = onLast (Node.add entry) tree.nodes) : grown.Records (log ++ [entry]) where
  metadata := by simp [metadata, records.metadata, noMetadata]
  name := by simp [name, records.name, noName]
  nodes := by rw [nodes, records.nodes, Node.ofLog_concat none [] log inside]

/-- What is said of the whole is at no node. -/
theorem nodes_same (records : tree.Records log) {entry : Entry} (inside : entry.opening? = none)
    (idle : ∀ node : Node, node.add entry = node) : tree.nodes = Node.ofLog none [] (log ++ [entry]) := by
  have same : Node.add entry = fun node => node := funext idle
  rw [Node.ofLog_concat none [] log inside, same, onLast_id, records.nodes]

theorem note (records : tree.Records log) (item : Metadata) :
    ({ tree with metadata := tree.metadata ++ [item] } : Blueprint).Records (log ++ [.metadata item]) where
  metadata := by simp [records.metadata, Entry.metadata?]
  name := by simp [records.name, Entry.name?]
  nodes := records.nodes_same rfl fun node => by simp [Node.add, Entry.text?, Entry.payload?]

theorem title (records : tree.Records log) (unnamed : tree.name = none) (name : Text) :
    ({ tree with name := some name } : Blueprint).Records (log ++ [.name name]) where
  metadata := by simp [records.metadata, Entry.metadata?]
  name := by simp [← records.name, unnamed, Entry.name?]
  nodes := records.nodes_same rfl fun node => by simp [Node.add, Entry.text?, Entry.payload?]

end Blueprint.Records

theorem PayloadItem.kind_of_ofRest {kind : PayloadKind} {rest : Text} {item : PayloadItem}
    (read : ofRest kind rest = .ok item) : item.signature.payloadKind = kind := by
  cases kind with
  | request =>
    simp only [ofRest] at read
    split at read
    · rename_i found
      obtain rfl := Except.ok.inj read
      obtain ⟨parts, -, same⟩ := Option.bind_eq_some_iff.mp found
      obtain rfl := Option.some.inj same
      rfl
    · cases read
  | response =>
    simp only [ofRest] at read
    split at read
    · cases read
    · obtain rfl := Except.ok.inj read
      rfl
    · split at read
      · obtain rfl := Except.ok.inj read
        rfl
      · cases read

namespace Payload

def origin (payload : Payload) : Signature × Option Text × Nat :=
  (payload.signature, payload.mediaType, payload.line)

theorem origin_withSection {payload result : Payload} {kind : Section} {block : List Line}
    (put : payload.withSection kind block = .ok result) : result.origin = payload.origin := by
  cases kind with
  | headers =>
    obtain ⟨headers, -, same⟩ := bind_eq_ok.mp put
    obtain rfl := pure_eq_ok.mp same
    rfl
  | body =>
    obtain rfl := Except.ok.inj put
    rfl
  | schema =>
    obtain rfl := Except.ok.inj put
    rfl

theorem origin_foldlM {parts : List (Section × List Line)} {payload result : Payload}
    (put : parts.foldlM (fun payload (kind, lines) => payload.withSection kind lines) payload =
      .ok result) : result.origin = payload.origin := by
  induction parts generalizing payload with
  | nil => exact congrArg origin (pure_eq_ok.mp put).symm
  | cons part parts ih =>
    rw [List.foldlM_cons] at put
    obtain ⟨grown, first, later⟩ := bind_eq_ok.mp put
    exact (ih later).trans (origin_withSection first)

theorem origin_withContentType (payload : Payload) : payload.withContentType.origin = payload.origin := by
  unfold withContentType
  split
  · split <;> rfl
  · rfl

theorem origin_build {item : PayloadItem} {first : Line} {content : List Line} {payload : Payload}
    (built : build item first content = .ok payload) :
    payload.origin = (item.signature, item.mediaType, first.number) := by
  unfold build at built
  simp only at built
  split at built
  · obtain rfl := pure_eq_ok.mp built
    exact origin_withContentType _
  · obtain ⟨grown, put, same⟩ := bind_eq_ok.mp built
    obtain rfl := pure_eq_ok.mp same
    exact (origin_withContentType _).trans (origin_foldlM put)

theorem signature_build {item : PayloadItem} {first : Line} {content : List Line} {payload : Payload}
    (built : build item first content = .ok payload) : payload.signature = item.signature :=
  congrArg Prod.fst (origin_build built)

theorem line_build {item : PayloadItem} {first : Line} {content : List Line} {payload : Payload}
    (built : build item first content = .ok payload) : payload.line = first.number :=
  congrArg (fun origin => origin.2.2) (origin_build built)

end Payload

namespace Reading

theorem groups_addResource_ne_nil (state : Reading) (resource : Resource) (scope : Scope) :
    (state.addResource resource scope).blueprint.groups ≠ [] := by
  unfold addResource
  rw [ne_eq, Blueprint.groups_onGroup_eq_nil_iff]
  split
  · exact List.append_ne_nil_of_right_ne_nil _ (List.cons_ne_nil _ _)
  · rename_i inside
    simp only [Bool.or_eq_true, not_or, List.isEmpty_iff] at inside
    exact inside.2

/-- The tree has all that was read, and the scope is the kind of its last node. -/
structure Holds (state : Reading) (log : List Entry) : Prop where
  ends : state.blueprint.EndsIn state.scope
  records : state.blueprint.Records log

namespace Holds

variable {state next : Reading} {log : List Entry}

theorem describe (holds : state.Holds log) (text : Text) :
    (state.describe text).Holds (log ++ [.text text]) where
  ends := holds.ends.describe text
  records := by
    have nodes := Blueprint.nodes_describe holds.ends text
    have kept := Blueprint.top_describe state.blueprint state.scope text
    exact holds.records.adds rfl rfl rfl kept.1 kept.2 nodes

theorem openGroup (holds : state.Holds log) (name : Option Text) :
    ({ state with scope := .group, blueprint := state.blueprint.pushGroup { name } } : Reading).Holds
      (log ++ [.opens (.group name)]) where
  ends := .group rfl rfl
  records := holds.records.opens [.group name] rfl rfl (Blueprint.nodes_pushGroup state.blueprint { name })

/-- A resource goes to the last group, or to one without a name that is opened for it. -/
theorem exists_group_for_resource (holds : state.Holds log) :
    ∃ (base : Blueprint) (front : List Group) (group : Group), base.groups = front ++ [group] ∧
      base.Records (log ++ (unnamedGroup state.blueprint).map .opens) ∧
      ∀ resource scope, (state.addResource resource scope).blueprint =
        base.onGroup fun group => group.push resource := by
  by_cases top : state.scope = .api
  · have none := holds.ends.api_iff.mp top
    refine ⟨state.blueprint.pushGroup {}, state.blueprint.groups, {}, rfl, ?_, fun resource scope => ?_⟩
    · rw [unnamedGroup, if_pos none]
      exact holds.records.opens [.group .none] rfl rfl (Blueprint.nodes_pushGroup state.blueprint {})
    · rw [addResource_outside top]
  · have some : state.blueprint.groups ≠ [] := fun none => top (holds.ends.api_iff.mpr none)
    obtain ⟨front, group, groups⟩ := (List.eq_nil_or_concat' state.blueprint.groups).resolve_left some
    refine ⟨state.blueprint, front, group, groups, ?_, fun resource scope => ?_⟩
    · rw [unnamedGroup, if_neg some, List.map_nil, List.append_nil]
      exact holds.records
    · rw [addResource_inside top some]

theorem addResource (holds : state.Holds log) (name : Option Text) (uriTemplate : Text) (line : Nat) :
    (state.addResource { name, uriTemplate, line } .resource).Holds
      (log ++ (unnamedGroup state.blueprint ++ [Opening.resource name uriTemplate line]).map .opens) := by
  obtain ⟨base, front, group, groups, records, same⟩ := holds.exists_group_for_resource
  rw [List.map_append, ← List.append_assoc]
  constructor
  · rw [same]
    exact .resource (onLast_of_eq groups _) rfl rfl
  · rw [same]
    exact records.opens [_] rfl rfl (Blueprint.nodes_pushResource groups _)

theorem addEndpoint (holds : state.Holds log) (method : Method) (uriTemplate : Text) (line : Nat) :
    (state.addResource { uriTemplate, actions := [{ method, line }], line } .action).Holds
      (log ++ (unnamedGroup state.blueprint ++
        [Opening.resource none uriTemplate line, .action none method none line]).map .opens) := by
  obtain ⟨base, front, group, groups, records, same⟩ := holds.exists_group_for_resource
  rw [List.map_append, ← List.append_assoc]
  constructor
  · rw [same]
    exact .action (onLast_of_eq groups _) rfl (List.nil_append _).symm
  · rw [same]
    exact records.opens [_, _] rfl rfl (Blueprint.nodes_pushResource groups _)

theorem addAction (holds : state.Holds log) (inside : state.scope = .resource ∨ state.scope = .action)
    (name : Option Text) (method : Method) (uriTemplate : Option Text) (line : Nat) :
    (state.addAction { name, method, uriTemplate, line }).Holds
      (log ++ [.opens (.action name method uriTemplate line)]) := by
  obtain ⟨front, group, before, resource, groups, resources⟩ :=
    Blueprint.exists_last_resource holds.ends inside
  constructor
  · exact .action (onLast_of_eq groups _) (onLast_of_eq resources _) rfl
  · exact holds.records.opens [_] rfl rfl (Blueprint.nodes_pushAction groups resources _)

theorem addPayload (holds : state.Holds log) (inside : state.scope = .action) (payload : Payload) :
    (state.addPayload payload).Holds
      (log ++ [.payload payload.signature.payloadKind (.ok payload)]) := by
  have ends := holds.ends
  rw [inside] at ends
  constructor
  · exact inside ▸ ends.pushPayload payload
  · exact holds.records.adds rfl rfl rfl rfl rfl (Blueprint.nodes_pushPayload ends payload)

theorem enterHeading {heading : Heading} {line : Nat} (holds : state.Holds log)
    (entered : state.enterHeading heading line = .ok next) :
    next.Holds (log ++ headingEntries state.blueprint heading line) := by
  cases declares : Declaration.ofHeading heading.text with
  | group name =>
    simp only [Reading.enterHeading, declares] at entered
    obtain rfl := Except.ok.inj entered
    simp only [headingEntries, declares]
    exact holds.openGroup (some name)
  | action name method uriTemplate =>
    simp only [Reading.enterHeading, declares] at entered
    split at entered
    · rename_i inside
      obtain rfl := Except.ok.inj entered
      simp only [headingEntries, declares]
      exact holds.addAction (by simpa using inside) name method uriTemplate line
    · cases entered
  | resource name uriTemplate =>
    simp only [Reading.enterHeading, declares] at entered
    obtain rfl := Except.ok.inj entered
    simp only [headingEntries, declares]
    exact holds.addResource name uriTemplate line
  | endpoint method uriTemplate =>
    simp only [Reading.enterHeading, declares] at entered
    obtain rfl := Except.ok.inj entered
    simp only [headingEntries, declares]
    exact holds.addEndpoint method uriTemplate line
  | plain =>
    have same : (state.blueprint.groups = [] ∧ state.blueprint.name = none) ↔
        (state.scope = .api && state.blueprint.name.isNone && state.blueprint.groups.isEmpty : Bool) =
          true := by
      simp [holds.ends.api_iff, and_comm]
    simp only [Reading.enterHeading, declares] at entered
    simp only [headingEntries, declares, same]
    split at entered
    · rename_i first
      obtain rfl := Except.ok.inj entered
      rw [if_pos first]
      exact ⟨holds.ends.of_groups rfl, holds.records.title (same.mpr first).2 heading.text⟩
    · rename_i later
      obtain rfl := Except.ok.inj entered
      rw [if_neg later]
      exact holds.describe heading.render

theorem enterPayload {kind : PayloadKind} {signature : Text} {line : Line} {content : List Line}
    (holds : state.Holds log) (entered : state.enterPayload kind signature line content = .ok next) :
    next.Holds (log ++ [.payload kind (readPayload kind signature line content)]) := by
  obtain ⟨item, found, entered⟩ := bind_eq_ok.mp entered
  split at entered
  · rename_i inside
    obtain ⟨payload, built, pushed⟩ := bind_eq_ok.mp entered
    obtain rfl := pure_eq_ok.mp pushed
    have read : readPayload kind signature line content = .ok payload :=
      bind_eq_ok.mpr ⟨item, found, built⟩
    have same : payload.signature.payloadKind = kind := by
      rw [Payload.signature_build built]
      exact PayloadItem.kind_of_ofRest (mapError_eq_ok.mp found)
    rw [read, ← same]
    exact holds.addPayload inside payload
  · cases entered

theorem readStructure {line : Line} {rest : List Line} {taken : Nat} (holds : state.Holds log)
    (read : state.readStructure line rest = .ok (next, taken)) :
    next.Holds (log ++ structureEntries state.blueprint line rest) := by
  unfold Reading.readStructure at read
  unfold structureEntries
  cases detected : Heading.detect? line rest.head? with
  | some heading =>
    rw [detected] at read
    obtain ⟨reached, entered, done⟩ := bind_eq_ok.mp read
    obtain ⟨rfl, -⟩ := Prod.mk.inj (pure_eq_ok.mp done)
    exact holds.enterHeading entered
  | none =>
    rw [detected] at read
    cases keyword : PayloadItem.keyword? line.text with
    | some item =>
      simp only [keyword] at read
      obtain ⟨reached, entered, done⟩ := bind_eq_ok.mp read
      obtain ⟨rfl, -⟩ := Prod.mk.inj (pure_eq_ok.mp done)
      exact holds.enterPayload entered
    | none =>
      simp only [keyword] at read
      obtain ⟨rfl, -⟩ := Prod.mk.inj (Except.ok.inj read)
      exact holds.describe line.text

theorem step {line : Line} {rest : List Line} {taken : Nat} (holds : state.Holds log)
    (stepped : state.step line rest = .ok (next, taken)) :
    next.Holds (log ++ state.entries line rest) := by
  have unflagged (fence : Option Fence) (inMetadata : Bool) :
      ({ state with fence, inMetadata } : Reading).Holds log := ⟨holds.ends, holds.records⟩
  unfold Reading.step at stepped
  unfold entries
  split at stepped
  · rename_i fence advanced
    rw [advanced, if_pos rfl]
    obtain ⟨rfl, -⟩ := Prod.mk.inj (Except.ok.inj stepped)
    exact (unflagged fence false).describe line.text
  · rename_i fence advanced
    rw [advanced, if_neg Bool.false_ne_true]
    split at stepped
    · rename_i early
      rw [if_pos early]
      split at stepped
      · rename_i blank
        rw [if_pos blank, List.append_nil]
        obtain ⟨rfl, -⟩ := Prod.mk.inj (Except.ok.inj stepped)
        exact holds
      · rename_i solid
        rw [if_neg solid]
        cases metadata : Metadata.ofLine? line.text with
        | some item =>
          rw [metadata] at stepped
          obtain ⟨rfl, -⟩ := Prod.mk.inj (Except.ok.inj stepped)
          exact ⟨holds.ends.of_groups rfl, holds.records.note item⟩
        | none =>
          rw [metadata] at stepped
          exact (unflagged state.fence false).readStructure stepped
    · rename_i late
      rw [if_neg late]
      exact holds.readStructure stepped

end Holds

/-- A step that reads its line takes this many further lines: none, the line that underlines a heading,
or the content of a payload, which is logged. -/
inductive Takes (state : Reading) (line : Line) (rest : List Line) : Nat → Prop
  | nothing : Takes state line rest 0
  | heading {heading : Heading} (found : Heading.detect? line rest.head? = some heading)
      (underlines : ∀ below ∈ rest.take heading.extraLines, (Heading.underlineDepth? below).isSome = true)
      (logged : state.entries line rest = headingEntries state.blueprint heading line.number) :
      Takes state line rest heading.extraLines
  | payload {taken : Nat} {kind : PayloadKind} {signature : Text}
      (item : PayloadItem.keyword? line.text = some (kind, signature))
      (logged : state.entries line rest =
        [.payload kind (readPayload kind signature line (rest.take taken))]) :
      Takes state line rest taken

section Takes

variable {state next : Reading} {line : Line} {rest : List Line} {taken : Nat}

theorem takes_readStructure {reading : Reading}
    (read : reading.readStructure line rest = .ok (next, taken))
    (logged : state.entries line rest = structureEntries state.blueprint line rest) :
    state.Takes line rest taken := by
  unfold readStructure at read
  unfold structureEntries at logged
  cases detected : Heading.detect? line rest.head? with
  | some heading =>
    rw [detected] at read logged
    obtain ⟨reached, -, done⟩ := bind_eq_ok.mp read
    obtain ⟨-, rfl⟩ := Prod.mk.inj (pure_eq_ok.mp done)
    refine .heading detected (fun below member => ?_) logged
    rcases Heading.detect_cases detected with none | ⟨one, under, depth, first, found⟩
    · simp [none] at member
    · obtain ⟨lower, rfl⟩ := List.head?_eq_some_iff.mp first
      obtain rfl : below = under := by simpa [one] using member
      exact Option.isSome_of_eq_some found
  | none =>
    rw [detected] at read logged
    cases keyword : PayloadItem.keyword? line.text with
    | some item =>
      simp only [keyword] at read logged
      obtain ⟨reached, -, done⟩ := bind_eq_ok.mp read
      obtain ⟨-, rfl⟩ := Prod.mk.inj (pure_eq_ok.mp done)
      refine .payload keyword (logged.trans ?_)
      have content : Payload.content line rest = rest.take (Payload.content line rest).length :=
        List.prefix_iff_eq_take.mp (List.takeWhile_prefix _)
      rw [← content]
    | none =>
      simp only [keyword] at read
      obtain ⟨-, rfl⟩ := Prod.mk.inj (Except.ok.inj read)
      exact .nothing

theorem takes_step (stepped : state.step line rest = .ok (next, taken)) :
    state.Takes line rest taken := by
  unfold step at stepped
  split at stepped
  · obtain ⟨-, rfl⟩ := Prod.mk.inj (Except.ok.inj stepped)
    exact .nothing
  · rename_i fence advanced
    have outside : (Fence.advance state.fence line).1 = false := congrArg Prod.fst advanced
    split at stepped
    · rename_i early
      split at stepped
      · obtain ⟨-, rfl⟩ := Prod.mk.inj (Except.ok.inj stepped)
        exact .nothing
      · rename_i solid
        split at stepped
        · obtain ⟨-, rfl⟩ := Prod.mk.inj (Except.ok.inj stepped)
          exact .nothing
        · rename_i other
          exact takes_readStructure stepped (by simp [entries, outside, early, solid, other])
    · rename_i late
      exact takes_readStructure stepped (by simp [entries, outside, late])

end Takes

/-- By induction on the steps. -/
theorem Reached.holds {source : Text} {state : Reading} {lines : List Line} {log : List Entry}
    (reached : Reached source state lines log) : state.Holds log := by
  induction reached with
  | start => exact ⟨.api rfl, rfl, rfl, rfl⟩
  | step reached stepped ih => exact ih.step stepped

/-- A source is read as it is from any state that its reading reaches. -/
theorem Reached.run_eq {source : Text} {state : Reading} {lines : List Line} {log : List Entry}
    (reached : Reached source state lines log) : Blueprint.read source = state.run lines := by
  induction reached with
  | start => rfl
  | step reached stepped ih =>
    rw [ih, run, stepped]
    rfl

/-- By induction on the number of lines. -/
theorem Reached.exists_last {source : Text} {state : Reading} {lines : List Line} {log : List Entry}
    {blueprint : Blueprint} (reached : Reached source state lines log)
    (ran : state.run lines = .ok blueprint) :
    ∃ last added, Reached source last [] (log ++ added) ∧ last.finish = .ok blueprint := by
  induction length : lines.length using Nat.strong_induction_on generalizing state lines log with
  | _ count ih =>
    cases lines with
    | nil =>
      rw [run] at ran
      exact ⟨state, [], (List.append_nil log).symm ▸ reached, ran⟩
    | cons line rest =>
      rw [run] at ran
      obtain ⟨⟨next, taken⟩, stepped, ran⟩ := bind_eq_ok.mp ran
      have shorter : (rest.drop taken).length < count := by
        rw [← length, List.length_drop, List.length_cons]
        omega
      obtain ⟨last, added, ends, done⟩ := ih _ shorter (reached.step stepped) ran rfl
      rw [List.append_assoc] at ends
      exact ⟨last, _, ends, done⟩

theorem finish_eq_ok {state : Reading} {blueprint : Blueprint} (done : state.finish = .ok blueprint) :
    state.fence = none ∧ blueprint = state.blueprint.tidy := by
  unfold finish at done
  split at done
  · cases done
  · rename_i unfenced
    exact ⟨unfenced, (Except.ok.inj done).symm⟩

end Reading

/-- No place has to be found for something whose node is missing: the tests for that are decided by the
scope. -/
structure Reading.IsDirect (state : Reading) : Prop where
  describe : ∀ text,
    state.blueprint.describe state.scope text = state.blueprint.describeAt state.scope text
  resource : (state.scope = .api || state.blueprint.groups.isEmpty : Bool) = decide (state.scope = .api)
  name : (state.scope = .api && state.blueprint.name.isNone && state.blueprint.groups.isEmpty : Bool) =
    (state.scope = .api && state.blueprint.name.isNone : Bool)

theorem Reading.isDirect_of_endsIn {state : Reading} (ends : state.blueprint.EndsIn state.scope) :
    state.IsDirect where
  describe := ends.describe_eq
  resource := by
    rw [Bool.eq_iff_iff]
    simp [ends.api_iff]
  name := by
    rw [Bool.eq_iff_iff]
    simp only [Bool.and_eq_true, decide_eq_true_eq, List.isEmpty_iff, ← ends.api_iff, and_iff_left_iff_imp]
    exact And.left

/-- Nothing that is read gets lost. In every state of a reading the scope speaks of a node that is
there, and the tree has what the lines so far are read as, each at the node that was opened last. The
lines that a step takes beside its own are logged with it. A blueprint is the tree of the state behind
the last line. -/
theorem Blueprint.read_places_everything (source : Text) :
    (∀ state lines log, Reading.Reached source state lines log →
      state.IsPlaced ∧ state.IsDirect ∧ state.blueprint.Records log) ∧
    (∀ (state next : Reading) line rest taken, state.step line rest = .ok (next, taken) →
      state.Takes line rest taken) ∧
    ∀ blueprint, Blueprint.read source = .ok blueprint →
      ∃ state log, Reading.Reached source state [] log ∧ state.fence = none ∧
        blueprint = state.blueprint.tidy := by
  refine ⟨?reached, fun _ _ _ _ _ => Reading.takes_step, ?read⟩
  case reached =>
    intro state lines log reached
    have ends := reached.holds.ends
    exact ⟨Reading.isPlaced_of_endsIn ends, Reading.isDirect_of_endsIn ends, reached.holds.records⟩
  case read =>
    intro blueprint read
    obtain ⟨state, log, reached, done⟩ := Reading.Reached.start.exists_last read
    exact ⟨state, log, reached, Reading.finish_eq_ok done⟩

def Blueprint.teas : Text :=
  "HOST: a\n\n# Teas\nall\n## Pot [/pot]\nround\n### Pour [GET]\nslowly\n".toList ++
    "+ Response 200\n\n        hot\n# Group More\n## GET /cup\n### Note\nfull\n".toList

theorem Blueprint.read_places_everything_teas :
    (∃ blueprint state log, Blueprint.read teas = .ok blueprint ∧
      Reading.Reached teas state [] log ∧ state.IsPlaced ∧ state.IsDirect ∧
      state.blueprint.Records log ∧ blueprint = state.blueprint.tidy) ∧
    ∃ next taken, Reading.step {} ⟨"Teas".toList, 1⟩ [⟨"====".toList, 2⟩] = .ok (next, taken) ∧
      Reading.Takes {} ⟨"Teas".toList, 1⟩ [⟨"====".toList, 2⟩] taken := by
  obtain ⟨reached, takes, ends⟩ := read_places_everything teas
  constructor
  · have readable : (Blueprint.read teas).isOk = true := by decide +kernel
    cases read : Blueprint.read teas with
    | error error =>
      rw [read] at readable
      cases readable
    | ok blueprint =>
      obtain ⟨state, log, last, -, same⟩ := ends blueprint read
      obtain ⟨placed, direct, records⟩ := reached state [] log last
      exact ⟨blueprint, state, log, rfl, last, placed, direct, records, same⟩
  · have stepped : Reading.step {} ⟨"Teas".toList, 1⟩ [⟨"====".toList, 2⟩] =
        .ok ({ blueprint := { name := some "Teas".toList }, inMetadata := false }, 1) := by
      decide +kernel
    exact ⟨_, _, stepped, takes _ _ _ _ _ stepped⟩

end ApiBlueprint

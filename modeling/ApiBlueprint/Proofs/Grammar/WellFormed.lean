import ApiBlueprint.Proofs.Grammar.Order
import Mathlib.Data.List.Flatten

/-!
Every blueprint that is read is well-formed: its names, URIs, statuses, media types, headers and blocks
have their form, and its line numbers are those of the source and rise along the tree.
-/

namespace ApiBlueprint

namespace Node

def payloads (node : Node) : PayloadKind → List (Except GrammarError Payload)
  | .request => node.requests
  | .response => node.responses

/-- The entries that a node comes from, apart from its description, with the payloads of one kind. -/
def entries (node : Node) (kind : PayloadKind) : List Entry :=
  (node.opening.map Entry.opens).toList ++ (node.payloads kind).map (Entry.payload kind)

theorem entries_ofChapter (opening : Option Opening) (chapter : List Entry) (kind : PayloadKind) :
    ((ofChapter opening chapter).entries kind).Sublist ((opening.map Entry.opens).toList ++ chapter) := by
  have payloads : (ofChapter opening chapter).payloads kind = chapter.filterMap (Entry.payload? kind) := by
    cases kind <;> rfl
  rw [entries, payloads]
  apply List.Sublist.append_left
  induction chapter with
  | nil => exact List.Sublist.slnil
  | cons entry chapter ih =>
    have later := ih (by cases kind <;> rfl)
    rw [List.filterMap_cons]
    split
    · exact later.cons entry
    · rename_i read found
      have same : Entry.payload kind read = entry := by
        unfold Entry.payload? at found
        split at found
        · split at found
          · rename_i equal
            rw [equal, Option.some.inj found]
          · cases found
        · cases found
      rw [List.map_cons, same]
      exact later.cons_cons entry

/-- How the nodes of a tree stand to each other. -/
def Precedes (source : Text) (earlier later : Node) : Prop :=
  ∀ kind, ∀ first ∈ earlier.entries kind, ∀ other, ∀ second ∈ later.entries other,
    first.Precedes source second

end Node

/-- What the log of a reading says of the nodes of a tree. -/
structure AreTraced (source : Text) (nodes : List Node) : Prop where
  wellFormed : ∀ node ∈ nodes, ∀ kind, ∀ entry ∈ node.entries kind, entry.IsWellFormed source
  inside : ∀ node ∈ nodes, ∀ kind, (node.entries kind).Pairwise (Entry.Precedes source)
  across : nodes.Pairwise (Node.Precedes source)

section Nodes

variable {source : Text} {nodes : List Node}

theorem AreTraced.sublist {some : List Node} (traced : AreTraced source nodes)
    (part : some.Sublist nodes) : AreTraced source some where
  wellFormed := fun node member => traced.wellFormed node (part.subset member)
  inside := fun node member => traced.inside node (part.subset member)
  across := traced.across.sublist part

/-- An opening and what is logged behind it. -/
structure Chapter where
  opening : Option Opening
  behind : List Entry

def Chapter.entries (chapter : Chapter) : List Entry :=
  (chapter.opening.map Entry.opens).toList ++ chapter.behind

def Chapter.node (chapter : Chapter) : Node := Node.ofChapter chapter.opening chapter.behind

/-- By induction on the log: an opening begins a chapter, and any other entry goes on with one. -/
theorem Node.exists_chapters (opening : Option Opening) (behind log : List Entry) :
    ∃ chapters : List Chapter, ofLog opening behind log = chapters.map Chapter.node ∧
      chapters.flatMap Chapter.entries = Chapter.entries ⟨opening, behind⟩ ++ log := by
  induction log generalizing opening behind with
  | nil => exact ⟨[⟨opening, behind⟩], rfl, by simp⟩
  | cons entry log ih =>
    rw [ofLog]
    split
    · rename_i next opens
      have same : entry = .opens next := by
        cases entry with
        | opens opening => exact congrArg Entry.opens (Option.some.inj opens)
        | _ => cases opens
      obtain ⟨chapters, nodes, whole⟩ := ih (some next) []
      refine ⟨⟨opening, behind⟩ :: chapters, by rw [nodes]; rfl, ?_⟩
      rw [List.flatMap_cons, whole, same]
      rfl
    · obtain ⟨chapters, nodes, whole⟩ := ih opening (behind ++ [entry])
      refine ⟨chapters, nodes, ?_⟩
      rw [whole]
      simp [Chapter.entries]

theorem areTraced_of_log {log : List Entry} (wellFormed : ∀ entry ∈ log, entry.IsWellFormed source)
    (ordered : log.Pairwise (Entry.Precedes source)) : AreTraced source (Node.ofLog none [] log) := by
  obtain ⟨chapters, nodes, whole⟩ := Node.exists_chapters none [] log
  change _ = log at whole
  rw [← whole] at wellFormed ordered
  obtain ⟨inside, across⟩ := List.pairwise_flatMap.mp ordered
  rw [nodes]
  constructor
  · intro node member kind entry inNode
    obtain ⟨chapter, inChapters, rfl⟩ := List.mem_map.mp member
    have inChapter := (Node.entries_ofChapter _ _ kind).subset inNode
    exact wellFormed entry (List.mem_flatMap.mpr ⟨chapter, inChapters, inChapter⟩)
  · intro node member kind
    obtain ⟨chapter, inChapters, rfl⟩ := List.mem_map.mp member
    exact (inside chapter inChapters).sublist (Node.entries_ofChapter _ _ kind)
  · apply List.pairwise_map.mpr
    apply across.imp
    intro earlier later precede kind first inEarlier other second inLater
    exact precede first ((Node.entries_ofChapter _ _ kind).subset inEarlier) second
      ((Node.entries_ofChapter _ _ other).subset inLater)

theorem AreTraced.tidy (traced : AreTraced source nodes) : AreTraced source (nodes.map Node.tidy) where
  wellFormed := List.forall_mem_map.mpr traced.wellFormed
  inside := List.forall_mem_map.mpr traced.inside
  across := List.pairwise_map.mpr traced.across

theorem Blueprint.nodes_areTraced {blueprint : Blueprint} (read : Blueprint.read source = .ok blueprint) :
    AreTraced source blueprint.nodes := by
  obtain ⟨state, log, reached, done⟩ := Reading.Reached.start.exists_last read
  obtain ⟨-, rfl⟩ := Reading.finish_eq_ok done
  have traces := reached.traces
  rw [nodes_tidy, reached.holds.records.nodes]
  exact (areTraced_of_log traces.wellFormed traces.ordered).tidy

end Nodes

def Action.payloads (action : Action) : PayloadKind → List Payload
  | .request => action.requests
  | .response => action.responses

def Action.numbers (action : Action) : List Nat :=
  action.line :: (action.requests ++ action.responses).map Payload.line

def Resource.numbers (resource : Resource) : List Nat :=
  resource.line :: resource.actions.flatMap Action.numbers

/-- A payload of one kind, with what the item on its line declares. -/
structure Payload.IsPlaced (source : Text) (kind : PayloadKind) (payload : Payload) : Prop where
  kind : payload.signature.payloadKind = kind
  wellFormed : payload.IsWellFormed (declaredHeaders source payload.line)
  line : IsLineNumber source payload.line

structure Action.IsWellFormed (source : Text) (action : Action) : Prop where
  uri : ∀ uri ∈ action.uriTemplate, IsTarget uri
  line : IsLineNumber source action.line
  payloads : ∀ kind, ∀ payload ∈ action.payloads kind, payload.IsPlaced source kind
  rising : ∀ kind, (action.payloads kind).Pairwise fun earlier later => earlier.line < later.line
  below : ∀ kind, ∀ payload ∈ action.payloads kind, action.line < payload.line

structure Resource.IsEndpoint (source : Text) (resource : Resource) (action : Action) : Prop where
  declared : Declares source resource.line (.endpoint action.method resource.uriTemplate)
  same : action.line = resource.line
  unnamed : resource.name = none ∧ action.name = none ∧ action.uriTemplate = none
  first : resource.actions.head? = some action

structure Resource.IsWellFormed (source : Text) (resource : Resource) : Prop where
  uri : IsTarget resource.uriTemplate
  line : IsLineNumber source resource.line
  actions : ∀ action ∈ resource.actions, action.IsWellFormed source
  rising : resource.actions.Pairwise fun earlier later => ∀ number ∈ earlier.numbers, number < later.line
  below : ∀ action ∈ resource.actions,
    resource.line < action.line ∨ resource.IsEndpoint source action

structure Blueprint.IsWellFormed (source : Text) (blueprint : Blueprint) : Prop where
  named : ∀ group ∈ blueprint.groups.tail, group.name.isSome = true
  groups : ∀ group ∈ blueprint.groups, ∀ name ∈ group.name, IsPhrase name
  resources : ∀ resource ∈ blueprint.resources, resource.IsWellFormed source
  rising : blueprint.resources.Pairwise fun earlier later =>
    ∀ number ∈ earlier.numbers, number < later.line

section Trees

variable {source : Text}

theorem Action.entries_node (action : Action) (kind : PayloadKind) : action.node.entries kind =
    .opens (.action action.name action.method action.uriTemplate action.line) ::
      (action.payloads kind).map fun payload => .payload kind (.ok payload) := by
  cases kind <;> simp [node, Node.entries, Node.payloads, payloads]

section Endpoints

variable {name uriTemplate : Option Text} {method : Method} {kind : PayloadKind} {line : Nat}

theorem not_areEndpoint_action (later : Entry) :
    ¬ Entry.AreEndpoint source (.opens (.action name method uriTemplate line)) later := by
  intro together
  obtain ⟨method', uri, line', resource, -⟩ := together
  cases resource

theorem not_areEndpoint_payload (read : Except GrammarError Payload) (later : Entry) :
    ¬ Entry.AreEndpoint source (.payload kind read) later := by
  intro together
  obtain ⟨method', uri, line', resource, -⟩ := together
  cases resource

theorem not_areEndpoint_before_resource (earlier : Entry) (uri : Text) :
    ¬ Entry.AreEndpoint source earlier (.opens (.resource name uri line)) := by
  intro together
  obtain ⟨method', uri', line', -, action, -⟩ := together
  cases action

end Endpoints

/-- What an action has on a line. It is no resource, so that no endpoint declares it together with an
action. -/
theorem Action.exists_entry (source : Text) {action : Action} {number : Nat}
    (member : number ∈ action.numbers) :
    ∃ kind, ∃ entry ∈ action.node.entries kind, entry.line? = some number ∧
      ∀ later, ¬ Entry.AreEndpoint source entry later := by
  have ofPayload {payload : Payload} {kind : PayloadKind} (inside : payload ∈ action.payloads kind) :
      ∃ entry ∈ action.node.entries kind, entry.line? = some payload.line ∧
        ∀ later, ¬ Entry.AreEndpoint source entry later := by
    refine ⟨.payload kind (.ok payload), ?_, rfl, not_areEndpoint_payload _⟩
    rw [entries_node]
    exact List.mem_cons_of_mem _ (List.mem_map_of_mem inside)
  rcases List.mem_cons.mp member with rfl | below
  · exact ⟨.request, _, entries_node action _ ▸ List.mem_cons_self, rfl, not_areEndpoint_action⟩
  · obtain ⟨payload, inside, rfl⟩ := List.mem_map.mp below
    rcases List.mem_append.mp inside with request | response
    · exact ⟨.request, ofPayload request⟩
    · exact ⟨.response, ofPayload response⟩

theorem Entry.Precedes.lt {earlier later : Entry} {first second : Nat}
    (precedes : earlier.Precedes source later) (firstLine : earlier.line? = some first)
    (secondLine : later.line? = some second) (apart : ¬ AreEndpoint source earlier later) :
    first < second :=
  (precedes.above first firstLine second secondLine).resolve_right apart

theorem AreTraced.action {nodes : List Node} {action : Action} (traced : AreTraced source nodes)
    (member : action.node ∈ nodes) : action.IsWellFormed source := by
  have wellFormed := traced.wellFormed action.node member
  have inside := traced.inside action.node member
  simp only [Action.entries_node, List.forall_mem_cons, List.pairwise_cons, List.pairwise_map]
    at wellFormed inside
  have ofPayload (kind : PayloadKind) {payload : Payload} (inside : payload ∈ action.payloads kind) :=
    (wellFormed kind).2 _ (List.mem_map_of_mem inside)
  constructor
  · exact (wellFormed .request).1.1
  · exact (wellFormed .request).1.2
  · intro kind payload member
    obtain ⟨whole, same, line⟩ := ofPayload kind member
    exact ⟨same, whole, line⟩
  · intro kind
    apply (inside kind).2.imp
    intro earlier later precedes
    exact precedes.lt rfl rfl (not_areEndpoint_payload _ _)
  · intro kind payload member
    have precedes := (inside kind).1 _ (List.mem_map_of_mem member)
    exact precedes.lt rfl rfl (not_areEndpoint_action _)

theorem AreTraced.resource {resource : Resource} (traced : AreTraced source resource.nodes) :
    resource.IsWellFormed source := by
  obtain ⟨before, across⟩ := List.pairwise_cons.mp traced.across
  have ofAction {action : Action} (member : action ∈ resource.actions) : action.node ∈ resource.nodes :=
    List.mem_cons_of_mem _ (List.mem_map_of_mem member)
  have own := traced.wellFormed _ List.mem_cons_self .request _ List.mem_cons_self
  have rising : resource.actions.Pairwise fun earlier later =>
      ∀ number ∈ earlier.numbers, number < later.line := by
    apply (List.pairwise_map.mp across).imp
    intro earlier later precedes number member
    obtain ⟨kind, entry, inEarlier, line, apart⟩ := Action.exists_entry source member
    have inLater : _ ∈ later.node.entries .request := later.entries_node _ ▸ List.mem_cons_self
    exact (precedes kind entry inEarlier .request _ inLater).lt line rfl (apart _)
  have below {action : Action} (member : action ∈ resource.actions) : resource.line < action.line ∨
      Declares source resource.line (.endpoint action.method resource.uriTemplate) ∧
        action.line = resource.line ∧ resource.name = none ∧ action.name = none ∧
        action.uriTemplate = none := by
    have inNode : _ ∈ action.node.entries .request := action.entries_node _ ▸ List.mem_cons_self
    have precedes :=
      before _ (List.mem_map_of_mem member) .request _ List.mem_cons_self .request _ inNode
    rcases precedes.above _ rfl _ rfl with above | ⟨method, uriTemplate, line, first, second, declared⟩
    · exact Or.inl above
    · simp only [Entry.opens.injEq, Opening.resource.injEq] at first
      simp only [Entry.opens.injEq, Opening.action.injEq] at second
      obtain ⟨name, rfl, rfl⟩ := first
      obtain ⟨actionName, rfl, actionUri, same⟩ := second
      exact Or.inr ⟨declared, same, name, actionName, actionUri⟩
  refine ⟨own.1, own.2, fun action member => traced.action (ofAction member), rising, ?_⟩
  intro action member
  rcases below member with above | ⟨declared, same, unnamed⟩
  · exact Or.inl above
  · refine Or.inr ⟨declared, same, unnamed, ?_⟩
    cases actions : resource.actions with
    | nil => exact absurd (actions ▸ member) List.not_mem_nil
    | cons first rest =>
      rw [actions] at member rising
      rcases List.mem_cons.mp member with rfl | later
      · rfl
      · have higher := (List.pairwise_cons.mp rising).1 action later first.line List.mem_cons_self
        have lower : resource.line ≤ first.line := by
          rcases below (actions ▸ List.mem_cons_self) with above | ⟨-, equal, -⟩
          · exact Nat.le_of_lt above
          · exact Nat.le_of_eq equal.symm
        omega

theorem Blueprint.resources_sublist (blueprint : Blueprint) :
    (blueprint.resources.flatMap Resource.nodes).Sublist blueprint.nodes := by
  rw [resources, List.flatMap_assoc, nodes]
  apply List.Sublist.cons
  apply List.Sublist.flatMap_right
  exact fun group _ => List.sublist_cons_self _ _

def Group.head (group : Group) : Node :=
  { opening := some (.group group.name)
    description := group.description }

theorem Blueprint.heads_sublist (blueprint : Blueprint) :
    (blueprint.groups.map Group.head).Sublist blueprint.nodes := by
  rw [List.map_eq_flatMap, nodes]
  apply List.Sublist.cons
  apply List.Sublist.flatMap_right
  exact fun group _ => List.singleton_sublist.mpr List.mem_cons_self

theorem Resource.exists_entry {resource : Resource} {number : Nat} (member : number ∈ resource.numbers) :
    ∃ node ∈ resource.nodes, ∃ kind, ∃ entry ∈ node.entries kind, entry.line? = some number := by
  rcases List.mem_cons.mp member with rfl | below
  · exact ⟨_, List.mem_cons_self, .request, _, List.mem_cons_self, rfl⟩
  · obtain ⟨action, inside, member⟩ := List.mem_flatMap.mp below
    obtain ⟨kind, entry, inNode, line, -⟩ := Action.exists_entry [] member
    exact ⟨action.node, List.mem_cons_of_mem _ (List.mem_map_of_mem inside), kind, entry, inNode, line⟩

theorem AreTraced.blueprint {blueprint : Blueprint} (traced : AreTraced source blueprint.nodes) :
    blueprint.IsWellFormed source := by
  have groups := traced.sublist blueprint.heads_sublist
  have resources := traced.sublist blueprint.resources_sublist
  obtain ⟨-, across⟩ := List.pairwise_flatMap.mp resources.across
  constructor
  · intro group member
    cases all : blueprint.groups with
    | nil => simp [all] at member
    | cons first rest =>
      rw [all] at member
      have heads := List.pairwise_map.mp groups.across
      rw [all] at heads
      have precedes := (List.pairwise_cons.mp heads).1 group member .request _ List.mem_cons_self
        .request _ List.mem_cons_self
      by_contra unnamed
      rw [Option.not_isSome_iff_eq_none] at unnamed
      have later := precedes.unnamed (by rw [unnamed])
      cases later
  · intro group member
    exact groups.wellFormed group.head (List.mem_map_of_mem member) .request _ List.mem_cons_self
  · intro resource member
    obtain ⟨before, behind, split⟩ := List.append_of_mem member
    have part : resource.nodes.Sublist (blueprint.resources.flatMap Resource.nodes) := by
      rw [split, List.flatMap_append, List.flatMap_cons]
      exact (List.sublist_append_left _ _).trans (List.sublist_append_right _ _)
    exact (resources.sublist part).resource
  · apply across.imp
    intro earlier later precedes number member
    obtain ⟨node, inEarlier, kind, entry, inNode, line⟩ := Resource.exists_entry member
    have above := precedes node inEarlier _ List.mem_cons_self kind entry inNode .request _
      List.mem_cons_self
    exact above.lt line rfl (not_areEndpoint_before_resource _ _)

end Trees

/-- Every blueprint that is read from a source is well-formed. -/
theorem Blueprint.read_isWellFormed {source : Text} {blueprint : Blueprint}
    (read : Blueprint.read source = .ok blueprint) : blueprint.IsWellFormed source :=
  (nodes_areTraced read).blueprint

def Blueprint.kettles : Text :=
  "## Kettle [/kettle]\n### Boil [POST]\n+ Request at once (text/plain)\n\n        now\n".toList ++
    "+ Response 204\n# Group Parts\n## GET /lid\n+ Response (text/plain)\n".toList ++
    "    + Headers\n\n            content-type: text/html\n".toList

theorem Blueprint.read_isWellFormed_kettles :
    ∃ blueprint, Blueprint.read kettles = .ok blueprint ∧
      blueprint.resources.map Resource.numbers = [[1, 2, 3, 6], [8, 8, 9]] ∧
      blueprint.IsWellFormed kettles := by
  have numbers : ((Blueprint.read kettles).map fun blueprint =>
      blueprint.resources.map Resource.numbers).toOption = some [[1, 2, 3, 6], [8, 8, 9]] := by
    decide +kernel
  cases read : Blueprint.read kettles with
  | error failure =>
    rw [read] at numbers
    cases numbers
  | ok blueprint =>
    rw [read] at numbers
    exact ⟨blueprint, rfl, Option.some.inj numbers, read_isWellFormed read⟩

end ApiBlueprint

import ApiBlueprint.Proofs.Grammar.Placement
import Mathlib.Data.List.Basic

/-!
The descriptions of a tree, by the numbers of its nodes. A tree is known by its metadata, its name and its
nodes, so a change to one description is a change to one node.
-/

namespace ApiBlueprint

/-- Changes what is at a number, where each member of the list is so many in size. -/
def changeNth {α : Type} (size : α → Nat) (change : Nat → α → α) : Nat → List α → List α
  | _, [] => []
  | n, item :: rest =>
    if n < size item then change n item :: rest else item :: changeNth size change (n - size item) rest

def Node.redescribe (text : Text) (node : Node) : Node := { node with description := text }

def Action.redescribe (text : Text) (action : Action) : Action := { action with description := text }

def Resource.redescribe (text : Text) : Nat → Resource → Resource
  | 0, resource => { resource with description := text }
  | n + 1, resource => { resource with actions := resource.actions.modify n (Action.redescribe text) }

def Group.redescribe (text : Text) : Nat → Group → Group
  | 0, group => { group with description := text }
  | n + 1, group =>
    { group with
      resources := changeNth (fun resource => resource.nodes.length) (Resource.redescribe text) n
        group.resources }

/-- The tree with another description at the node of that number. -/
def Blueprint.redescribe (text : Text) : Nat → Blueprint → Blueprint
  | 0, tree => { tree with description := text }
  | n + 1, tree =>
    { tree with
      groups := changeNth (fun group => group.nodes.length) (Group.redescribe text) n tree.groups }

theorem modify_append_of_lt {α : Type} {front back : List α} {n : Nat} {act : α → α}
    (inFront : n < front.length) : (front ++ back).modify n act = front.modify n act ++ back := by
  refine List.ext_getElem? fun i => ?_
  simp only [List.getElem?_modify, List.getElem?_append, List.length_modify]
  grind

theorem modify_append_of_not_lt {α : Type} {front back : List α} {n : Nat} {act : α → α}
    (behind : ¬ n < front.length) :
    (front ++ back).modify n act = front ++ back.modify (n - front.length) act := by
  refine List.ext_getElem? fun i => ?_
  simp only [List.getElem?_modify, List.getElem?_append]
  grind

theorem map_modify {α β : Type} {view : α → β} {change : α → α} {act : β → β}
    (same : ∀ item, view (change item) = act (view item)) (n : Nat) (items : List α) :
    (items.modify n change).map view = (items.map view).modify n act := by
  refine List.ext_getElem? fun i => ?_
  simp only [List.getElem?_modify, List.getElem?_map]
  grind

theorem flatMap_changeNth {α β : Type} {view : α → List β} {change : Nat → α → α} {act : β → β}
    (same : ∀ n item, view (change n item) = (view item).modify n act) (n : Nat) (items : List α) :
    (changeNth (fun item => (view item).length) change n items).flatMap view =
      (items.flatMap view).modify n act := by
  induction items generalizing n with
  | nil => simp [changeNth]
  | cons item rest ih =>
    rw [changeNth, List.flatMap_cons]
    split
    · rename_i here
      rw [List.flatMap_cons, same, modify_append_of_lt here]
    · rename_i behind
      rw [List.flatMap_cons, ih, modify_append_of_not_lt behind]

theorem Resource.nodes_redescribe (text : Text) (n : Nat) (resource : Resource) :
    (resource.redescribe text n).nodes = resource.nodes.modify n (Node.redescribe text) := by
  cases n with
  | zero => rfl
  | succ n =>
    have moved : (resource.actions.modify n (Action.redescribe text)).map Action.node =
        (resource.actions.map Action.node).modify n (Node.redescribe text) :=
      map_modify (fun action => by rfl) n resource.actions
    exact congrArg (List.cons _) moved

theorem Group.nodes_redescribe (text : Text) (n : Nat) (group : Group) :
    (group.redescribe text n).nodes = group.nodes.modify n (Node.redescribe text) := by
  cases n with
  | zero => rfl
  | succ n =>
    exact congrArg (List.cons _) (flatMap_changeNth (Resource.nodes_redescribe text) n group.resources)

theorem Blueprint.nodes_redescribe (text : Text) (n : Nat) (tree : Blueprint) :
    (tree.redescribe text n).nodes = tree.nodes.modify n (Node.redescribe text) := by
  cases n with
  | zero => rfl
  | succ n => exact congrArg (List.cons _) (flatMap_changeNth (Group.nodes_redescribe text) n tree.groups)

def Node.isGroup (node : Node) : Bool := node.opening matches some (.group ..)

def Node.isResource (node : Node) : Bool := node.opening matches some (.resource ..)

/-- The view of a list tells its members apart if that of each member has one start, which comes first. -/
theorem flatMap_injective {α β : Type} {view : α → List β} (starts : β → Bool)
    (shape : ∀ item, ∃ first later, view item = first :: later ∧ starts first = true ∧
      ∀ other ∈ later, starts other = false)
    (injective : Function.Injective view) : Function.Injective (List.flatMap view) := by
  -- What follows the start of a member ends at the start of the next one.
  have cut (later : List β) (quiet : ∀ other ∈ later, starts other = false) (rest : List α) :
      (later ++ rest.flatMap view).takeWhile (fun other => !starts other) = later := by
    have ends : (rest.flatMap view).takeWhile (fun other => !starts other) = [] := by
      cases rest with
      | nil => rfl
      | cons item rest =>
        obtain ⟨first, later, spelled, begins, -⟩ := shape item
        rw [List.flatMap_cons, spelled, List.cons_append, List.takeWhile_cons_of_neg (by simp [begins])]
    rw [List.takeWhile_append_of_pos (by simpa using quiet), ends, List.append_nil]
  have nonempty (item : α) (rest : List α) : (item :: rest).flatMap view ≠ [] := by
    obtain ⟨first, later, spelled, -⟩ := shape item
    simp [spelled]
  intro left right same
  induction left generalizing right with
  | nil =>
    cases right with
    | nil => rfl
    | cons item rest => exact absurd same.symm (nonempty item rest)
  | cons item rest ih =>
    cases right with
    | nil => exact absurd same (nonempty item rest)
    | cons other rest' =>
      obtain ⟨first, later, spelled, -, quiet⟩ := shape item
      obtain ⟨first', later', spelled', -, quiet'⟩ := shape other
      rw [List.flatMap_cons, List.flatMap_cons, spelled, spelled', List.cons_append, List.cons_append] at same
      obtain ⟨rfl, behind⟩ := List.cons.inj same
      obtain rfl : later = later' := by rw [← cut later quiet rest, behind, cut later' quiet' rest']
      rw [injective (spelled.trans spelled'.symm), ih (List.append_cancel_left behind)]

theorem Action.node_injective : Function.Injective Action.node := by
  intro action other same
  have read : Function.Injective (Except.ok : Payload → Except GrammarError Payload) :=
    fun _ _ equal => Except.ok.inj equal
  obtain ⟨opening, description, requests, responses⟩ := Node.mk.inj same
  obtain ⟨name, method, uriTemplate, line⟩ := Opening.action.inj (Option.some.inj opening)
  have requests := read.list_map requests
  have responses := read.list_map responses
  cases action
  cases other
  simp_all

theorem Resource.nodes_injective : Function.Injective Resource.nodes := by
  intro resource other same
  obtain ⟨first, later⟩ := List.cons.inj same
  obtain ⟨opening, description, -, -⟩ := Node.mk.inj first
  obtain ⟨name, uriTemplate, line⟩ := Opening.resource.inj (Option.some.inj opening)
  have actions := Action.node_injective.list_map later
  cases resource
  cases other
  simp_all

theorem Group.nodes_injective : Function.Injective Group.nodes := by
  intro group other same
  obtain ⟨first, later⟩ := List.cons.inj same
  obtain ⟨opening, description, -, -⟩ := Node.mk.inj first
  have name := Opening.group.inj (Option.some.inj opening)
  have shape (resource : Resource) : ∃ first later, resource.nodes = first :: later ∧
      first.isResource = true ∧ ∀ other ∈ later, other.isResource = false := by
    refine ⟨_, _, rfl, rfl, fun other member => ?_⟩
    obtain ⟨action, -, rfl⟩ := List.mem_map.mp member
    rfl
  have resources := flatMap_injective Node.isResource shape Resource.nodes_injective later
  cases group
  cases other
  simp_all

theorem Blueprint.eq_of_nodes {tree other : Blueprint} (metadata : tree.metadata = other.metadata)
    (name : tree.name = other.name) (nodes : tree.nodes = other.nodes) : tree = other := by
  obtain ⟨first, later⟩ := List.cons.inj nodes
  obtain ⟨-, description, -, -⟩ := Node.mk.inj first
  have shape (group : Group) : ∃ first later, group.nodes = first :: later ∧
      first.isGroup = true ∧ ∀ other ∈ later, other.isGroup = false := by
    refine ⟨_, _, rfl, rfl, fun other member => ?_⟩
    obtain ⟨resource, -, inside⟩ := List.mem_flatMap.mp member
    rcases List.mem_cons.mp inside with rfl | below
    · rfl
    · obtain ⟨action, -, rfl⟩ := List.mem_map.mp below
      rfl
  have groups := flatMap_injective Node.isGroup shape Group.nodes_injective later
  cases tree
  cases other
  simp_all

/-- A tree that differs at one node, and there in the description, is the other one with that description. -/
theorem Blueprint.eq_redescribe {tree base : Blueprint} {before after : List Node} {node : Node}
    {text held : Text} (metadata : tree.metadata = base.metadata) (name : tree.name = base.name)
    (nodes : tree.nodes = before ++ node.redescribe text :: after)
    (others : base.nodes = before ++ node.redescribe held :: after) :
    tree = base.redescribe text before.length := by
  apply eq_of_nodes
  · rw [metadata]
    cases before.length <;> rfl
  · rw [name]
    cases before.length <;> rfl
  · rw [nodes, nodes_redescribe, others, modify_append_of_not_lt (Nat.lt_irrefl _), Nat.sub_self]
    rfl

theorem Entry.metadata_texts (log behind : List Entry) (texts : List Text) :
    (log ++ (texts.map Entry.text ++ behind)).filterMap Entry.metadata? =
      log.filterMap Entry.metadata? ++ behind.filterMap Entry.metadata? := by
  have unseen : (texts.map Entry.text).filterMap Entry.metadata? = [] := by simp [Entry.metadata?]
  rw [List.filterMap_append, List.filterMap_append, unseen, List.nil_append]

namespace Node

variable (opening : Option Opening) (chapter log : List Entry)

theorem exists_ofLog_append : ∃ before last chapter',
    ∀ more, ofLog opening chapter (log ++ more) = before ++ ofLog last chapter' more := by
  induction log generalizing opening chapter with
  | nil => exact ⟨[], opening, chapter, fun more => rfl⟩
  | cons entry log ih =>
    simp only [List.cons_append, ofLog]
    cases entry.opening? with
    | none => exact ih opening (chapter ++ [entry])
    | some next =>
      obtain ⟨before, last, chapter', behind⟩ := ih (some next) []
      exact ⟨ofChapter opening chapter :: before, last, chapter', fun more =>
        congrArg (List.cons _) (behind more)⟩

theorem exists_ofLog_first : ∃ behind after,
    ∀ chapter, ofLog opening chapter log = ofChapter opening (chapter ++ behind) :: after := by
  induction log with
  | nil => exact ⟨[], [], fun chapter => by rw [List.append_nil]; rfl⟩
  | cons entry log ih =>
    simp only [ofLog]
    cases entry.opening? with
    | none =>
      obtain ⟨behind, after, first⟩ := ih
      exact ⟨entry :: behind, after, fun chapter => by rw [first, List.append_assoc]; rfl⟩
    | some next => exact ⟨[], ofLog (some next) [] log, fun chapter => by rw [List.append_nil]⟩

theorem ofLog_texts (texts : List Text) :
    ofLog opening chapter (texts.map .text ++ log) = ofLog opening (chapter ++ texts.map .text) log := by
  induction texts generalizing chapter with
  | nil => rw [List.map_nil, List.append_nil, List.nil_append]
  | cons text texts ih =>
    rw [List.map_cons, List.append_cons]
    exact ih (chapter ++ [.text text])

theorem ofChapter_texts (behind : List Entry) (texts : List Text) :
    ofChapter opening (chapter ++ texts.map .text ++ behind) =
      (ofChapter opening (chapter ++ behind)).redescribe ((ofChapter opening chapter).description ++
        texts.flatMap (fun text => text ++ ['\n']) ++ (ofChapter opening behind).description) := by
  simp [ofChapter, redescribe, List.filterMap_map, Function.comp_def, Entry.text?, Entry.payload?]

/-- Lines of text in a log are in the description of the last node in front of them, between what is there
without them; nothing else of the nodes depends on them. -/
theorem exists_ofLog_texts (behind : List Entry) :
    ∃ (before : List Node) (node : Node) (after : List Node) (above below : Text),
    (ofLog opening chapter log).length = before.length + 1 ∧
      ∀ texts : List Text, ofLog opening chapter (log ++ (texts.map .text ++ behind)) =
        before ++ node.redescribe (above ++ texts.flatMap (fun text => text ++ ['\n']) ++ below) :: after := by
  obtain ⟨before, last, chapter', more⟩ := exists_ofLog_append opening chapter log
  obtain ⟨rest, after, first⟩ := exists_ofLog_first last behind
  refine ⟨before, ofChapter last (chapter' ++ rest), after, (ofChapter last chapter').description,
    (ofChapter last rest).description, ?_, fun texts => ?_⟩
  · have alone := more []
    rw [List.append_nil] at alone
    rw [alone, List.length_append]
    rfl
  · rw [more, ofLog_texts, first, ofChapter_texts]

end Node

namespace Blueprint

/-- Two trees of the same entries, but for some lines of text behind a log, differ at most in the description
of the last node that the log opens. -/
theorem Records.eq_redescribe {tree other : Blueprint} {log behind : List Entry}
    {texts texts' : List Text} (records : tree.Records (log ++ (texts.map .text ++ behind)))
    (records' : other.Records (log ++ (texts'.map .text ++ behind))) (name : tree.name = other.name) :
    ∃ above below,
      let n := (Node.ofLog none [] log).length - 1
      let described (texts : List Text) :=
        tidyText (above ++ texts.flatMap (fun text => text ++ ['\n']) ++ below)
      n < tree.tidy.nodes.length ∧ tree.tidy = tree.tidy.redescribe (described texts) n ∧
        other.tidy = tree.tidy.redescribe (described texts') n := by
  obtain ⟨before, node, after, above, below, length, spelled⟩ := Node.exists_ofLog_texts none [] log behind
  have nodes {tree : Blueprint} {texts : List Text}
      (records : tree.Records (log ++ (texts.map .text ++ behind))) : tree.tidy.nodes =
        before.map Node.tidy ++
          node.redescribe (tidyText (above ++ texts.flatMap (fun text => text ++ ['\n']) ++ below)) ::
            after.map Node.tidy := by
    rw [nodes_tidy, records.nodes, spelled, List.map_append, List.map_cons]
    rfl
  have metadata : other.metadata = tree.metadata := by
    rw [records'.metadata, records.metadata, Entry.metadata_texts, Entry.metadata_texts]
  have number : (Node.ofLog none [] log).length - 1 = (before.map Node.tidy).length := by
    rw [length, List.length_map, Nat.add_sub_cancel]
  have held : (before.map Node.tidy).length < tree.tidy.nodes.length := by
    rw [nodes records, List.length_append, List.length_cons]
    exact Nat.lt_add_of_pos_right (Nat.succ_pos _)
  refine ⟨above, below, ?_⟩
  rw [number]
  exact ⟨held, Blueprint.eq_redescribe rfl rfl (nodes records) (nodes records),
    Blueprint.eq_redescribe metadata name.symm (nodes records') (nodes records)⟩

end Blueprint

end ApiBlueprint

import ApiBlueprint.Grammar.Reading

/-!
The log of a reading: what each line is read as. The openings in it cut it into chapters, each with
what is said of the node that is opened there.
-/

namespace ApiBlueprint

/-- A node of a tree, as its heading declares it. -/
inductive Opening where
  | group (name : Option Text)
  | resource (name : Option Text) (uriTemplate : Text) (line : Nat)
  | action (name : Option Text) (method : Method) (uriTemplate : Option Text) (line : Nat)
  deriving DecidableEq, Repr

/-- What a line, with the further lines that it takes, is read as. -/
inductive Entry where
  | metadata (item : Metadata)
  | name (value : Text)
  | opens (opening : Opening)
  | payload (kind : PayloadKind) (read : Except GrammarError Payload)
  | text (line : Text)

namespace Entry

def metadata? : Entry → Option Metadata
  | metadata item => some item
  | _ => none

def name? : Entry → Option Text
  | name value => some value
  | _ => none

def opening? : Entry → Option Opening
  | opens opening => some opening
  | _ => none

def text? : Entry → Option Text
  | text line => some line
  | _ => none

def payload? (sought : PayloadKind) : Entry → Option (Except GrammarError Payload)
  | payload kind read => if kind = sought then some read else none
  | _ => none

end Entry

namespace Reading

/-- What stands between the top of a tree and a resource: a group without a name, before any group. -/
def unnamedGroup (tree : Blueprint) : List Opening := if tree.groups = [] then [.group none] else []

def headingEntries (tree : Blueprint) (heading : Heading) (line : Nat) : List Entry :=
  match Declaration.ofHeading heading.text with
  | .group name => [.opens (.group (some name))]
  | .resource name uriTemplate =>
    (unnamedGroup tree ++ [Opening.resource name uriTemplate line]).map .opens
  | .action name method uriTemplate => [.opens (.action name method uriTemplate line)]
  | .endpoint method uriTemplate =>
    (unnamedGroup tree ++
      [Opening.resource none uriTemplate line, .action none method none line]).map .opens
  | .plain =>
    if tree.groups = [] ∧ tree.name = none then [.name heading.text] else [.text heading.render]

def readPayload (kind : PayloadKind) (signature : Text) (line : Line) (content : List Line) :
    Except GrammarError Payload := do
  let item ← (PayloadItem.ofRest kind signature).mapError fun fault => ⟨line.number, fault⟩
  Payload.build item line content

def structureEntries (tree : Blueprint) (line : Line) (rest : List Line) : List Entry :=
  match Heading.detect? line rest.head? with
  | some heading => headingEntries tree heading line.number
  | none =>
    match PayloadItem.keyword? line.text with
    | some (kind, signature) =>
      [.payload kind (readPayload kind signature line (Payload.content line rest))]
    | none => [.text line.text]

/-- What the next line is read as. It depends on the tree, on whether a fence is open and on whether
metadata may still come, but not on the scope. -/
def entries (state : Reading) (line : Line) (rest : List Line) : List Entry :=
  if (Fence.advance state.fence line).1 then [.text line.text]
  else if state.inMetadata then
    if line.isBlank then []
    else
      match Metadata.ofLine? line.text with
      | some item => [.metadata item]
      | none => structureEntries state.blueprint line rest
  else structureEntries state.blueprint line rest

/-- The states that the reading of a source comes to, with the lines ahead and the log of those
behind. -/
inductive Reached (source : Text) : Reading → List Line → List Entry → Prop
  | start : Reached source {} (splitLines source) []
  | step {state next : Reading} {line : Line} {rest : List Line} {log : List Entry} {taken : Nat}
      (reached : Reached source state (line :: rest) log)
      (stepped : state.step line rest = .ok (next, taken)) :
      Reached source next (rest.drop taken) (log ++ state.entries line rest)

end Reading

/-- What a tree has at one of its nodes, or at its top where nothing is opened. A payload is there
as it was read. -/
structure Node where
  opening : Option Opening
  description : Text := []
  requests : List (Except GrammarError Payload) := []
  responses : List (Except GrammarError Payload) := []

namespace Node

/-- The node of an opening and of what is logged behind it: the description has all its lines, in
their order, and each payload counts. -/
def ofChapter (opening : Option Opening) (chapter : List Entry) : Node where
  opening
  description := (chapter.filterMap Entry.text?).flatMap fun text => text ++ ['\n']
  requests := chapter.filterMap (Entry.payload? .request)
  responses := chapter.filterMap (Entry.payload? .response)

def ofLog (opening : Option Opening) (chapter : List Entry) : List Entry → List Node
  | [] => [ofChapter opening chapter]
  | entry :: log =>
    match entry.opening? with
    | some next => ofChapter opening chapter :: ofLog (some next) [] log
    | none => ofLog opening (chapter ++ [entry]) log

end Node

def Action.node (action : Action) : Node where
  opening := some (.action action.name action.method action.uriTemplate action.line)
  description := action.description
  requests := action.requests.map .ok
  responses := action.responses.map .ok

def Resource.nodes (resource : Resource) : List Node :=
  { opening := some (.resource resource.name resource.uriTemplate resource.line)
    description := resource.description } :: resource.actions.map Action.node

def Group.nodes (group : Group) : List Node :=
  { opening := some (.group group.name)
    description := group.description } :: group.resources.flatMap Resource.nodes

/-- The top of a tree and its nodes, each before those below it. -/
def Blueprint.nodes (blueprint : Blueprint) : List Node :=
  { opening := none
    description := blueprint.description } :: blueprint.groups.flatMap Group.nodes

end ApiBlueprint

import ApiBlueprint.Grammar.Fence
import ApiBlueprint.Grammar.Heading
import ApiBlueprint.Grammar.Payload

/-!
Reading a blueprint line by line. The state keeps the tree read so far and the kind of the node
that description lines go to.
-/

namespace ApiBlueprint

inductive Scope where
  | api | group | resource | action
  deriving DecidableEq, Repr

structure Reading where
  blueprint : Blueprint := {}
  scope : Scope := .api
  fence : Option Fence := none
  inMetadata : Bool := true
  deriving DecidableEq, Repr

def onLast {α : Type} (change : α → α) : List α → List α
  | [] => []
  | [last] => [change last]
  | head :: next :: rest => head :: onLast change (next :: rest)

def Action.describe (line : Text) (action : Action) : Action :=
  { action with description := action.description ++ line }

def Resource.describe (scope : Scope) (line : Text) (resource : Resource) : Resource :=
  if scope = .resource || resource.actions.isEmpty then
    { resource with description := resource.description ++ line }
  else { resource with actions := onLast (Action.describe line) resource.actions }

def Group.describe (scope : Scope) (line : Text) (group : Group) : Group :=
  if scope = .group || group.resources.isEmpty then
    { group with description := group.description ++ line }
  else { group with resources := onLast (Resource.describe scope line) group.resources }

namespace Blueprint

def onGroup (change : Group → Group) (blueprint : Blueprint) : Blueprint :=
  { blueprint with groups := onLast change blueprint.groups }

def onResource (change : Resource → Resource) : Blueprint → Blueprint :=
  onGroup fun group => { group with resources := onLast change group.resources }

def onAction (change : Action → Action) : Blueprint → Blueprint :=
  onResource fun resource => { resource with actions := onLast change resource.actions }

/-- Adds a line to the description of the node that `scope` speaks of, or of the nearest one above it
that is there. -/
def describe (blueprint : Blueprint) (scope : Scope) (text : Text) : Blueprint :=
  let line := text ++ ['\n']
  if scope = .api || blueprint.groups.isEmpty then
    { blueprint with description := blueprint.description ++ line }
  else blueprint.onGroup (Group.describe scope line)

/-- A description without blank ends: line ends at the start, white space at the end. -/
def tidyText (description : Text) : Text :=
  Text.trimEnd (description.dropWhile fun c => c = '\n' || c = '\r')

def tidyAction (action : Action) : Action :=
  { action with description := tidyText action.description }

def tidyResource (resource : Resource) : Resource :=
  { resource with
    description := tidyText resource.description
    actions := resource.actions.map tidyAction }

def tidyGroup (group : Group) : Group :=
  { group with
    description := tidyText group.description
    resources := group.resources.map tidyResource }

def tidy (blueprint : Blueprint) : Blueprint :=
  { blueprint with
    description := tidyText blueprint.description
    groups := blueprint.groups.map tidyGroup }

end Blueprint

namespace Metadata

def isKeyCharacter (c : Char) : Bool := Text.isAlphanumeric c || c = '_' || c = '-'

def ofLine? (text : Text) : Option Metadata :=
  let key := text.takeWhile isKeyCharacter
  match text.dropWhile isKeyCharacter with
  | ':' :: value => if key.head?.any Text.isLetter then some ⟨key, Text.trim value⟩ else none
  | _ => none

end Metadata

namespace Reading

def describe (state : Reading) (text : Text) : Reading :=
  { state with blueprint := state.blueprint.describe state.scope text }

/-- Adds a resource to the last group; the first one of a blueprint may need an unnamed group. -/
def addResource (state : Reading) (resource : Resource) (scope : Scope) : Reading :=
  let blueprint :=
    if state.scope = .api || state.blueprint.groups.isEmpty then
      { state.blueprint with groups := state.blueprint.groups ++ [{}] }
    else state.blueprint
  { state with
    scope
    blueprint := blueprint.onGroup fun group =>
      { group with resources := group.resources ++ [resource] } }

def addAction (state : Reading) (action : Action) : Reading :=
  { state with
    scope := .action
    blueprint := state.blueprint.onResource fun resource =>
      { resource with actions := resource.actions ++ [action] } }

def addPayload (state : Reading) (payload : Payload) : Reading :=
  { state with
    blueprint := state.blueprint.onAction fun action =>
      match payload.signature with
      | .request _ => { action with requests := action.requests ++ [payload] }
      | .response _ => { action with responses := action.responses ++ [payload] } }

def enterHeading (state : Reading) (heading : Heading) (line : Nat) : Except GrammarError Reading :=
  match Declaration.ofHeading heading.text with
  | .group name =>
    .ok { state with
      scope := .group
      blueprint := { state.blueprint with groups := state.blueprint.groups ++ [{ name }] } }
  | .action name method uriTemplate =>
    if state.scope = .resource || state.scope = .action then
      .ok (state.addAction { name, method, uriTemplate, line })
    else .error ⟨line, .actionOutsideResource heading.text⟩
  | .resource name uriTemplate => .ok (state.addResource { name, uriTemplate, line } .resource)
  | .endpoint method uriTemplate =>
    .ok (state.addResource { uriTemplate, actions := [{ method, line }], line } .action)
  | .plain =>
    if state.scope = .api && state.blueprint.name.isNone && state.blueprint.groups.isEmpty then
      .ok { state with blueprint := { state.blueprint with name := some heading.text } }
    else .ok (state.describe heading.render)

def enterPayload (state : Reading) (kind : PayloadKind) (signature : Text) (line : Line)
    (content : List Line) : Except GrammarError Reading := do
  let item ← (PayloadItem.ofRest kind signature).mapError fun fault => ⟨line.number, fault⟩
  if state.scope = .action then
    return state.addPayload (← Payload.build item line content)
  else
    throw ⟨line.number,
      match kind with
      | .request => .requestOutsideAction
      | .response => .responseOutsideAction⟩

/-- Reads a line outside of fences and metadata; also gives the number of further lines taken. -/
def readStructure (state : Reading) (line : Line) (rest : List Line) :
    Except GrammarError (Reading × Nat) :=
  match Heading.detect? line rest.head? with
  | some heading => do return (← state.enterHeading heading line.number, heading.extraLines)
  | none =>
    match PayloadItem.keyword? line.text with
    | some (kind, signature) => do
      let content := Payload.content line rest
      return (← state.enterPayload kind signature line content, content.length)
    | none => .ok (state.describe line.text, 0)

def step (state : Reading) (line : Line) (rest : List Line) : Except GrammarError (Reading × Nat) :=
  match Fence.advance state.fence line with
  | (true, fence) => .ok ({ state with fence, inMetadata := false }.describe line.text, 0)
  | (false, _) =>
    if state.inMetadata then
      if line.isBlank then .ok (state, 0)
      else
        match Metadata.ofLine? line.text with
        | some entry =>
          .ok ({ state with
            blueprint := { state.blueprint with
              metadata := state.blueprint.metadata ++ [entry] } }, 0)
        | none => readStructure { state with inMetadata := false } line rest
    else readStructure state line rest

def finish (state : Reading) : Except GrammarError Blueprint :=
  match state.fence with
  | some fence => .error ⟨fence.openedAt, .unclosedFence⟩
  | none => .ok state.blueprint.tidy

def run (state : Reading) : List Line → Except GrammarError Blueprint
  | [] => state.finish
  | line :: rest => do
    let (next, taken) ← state.step line rest
    next.run (rest.drop taken)
  termination_by lines => lines.length
  decreasing_by
    simp only [List.length_drop, List.length_cons]
    omega

end Reading

def Blueprint.read (source : Text) : Except GrammarError Blueprint :=
  Reading.run {} (splitLines source)

end ApiBlueprint

import ApiBlueprint.Grammar.Reading
import ApiBlueprint.Proofs.Text.Words
import Mathlib.Tactic.MkIffOfInductiveProp

/-!
The canonical text of a blueprint, and the trees that are written in it: no descriptions, and names,
media types, headers and blocks that cannot be taken for something else.
-/

namespace ApiBlueprint

def Text.IsLine (text : Text) : Prop := '\n' ∉ text

instance (text : Text) : Decidable (Text.IsLine text) := inferInstanceAs (Decidable (¬ _))

/-- Words of letters and digits with single spaces between them; the first one is not `Group`. -/
@[mk_iff]
structure IsName (name : Text) : Prop where
  nonempty : name ≠ []
  squeezed : Text.IsSqueezed name
  characters : ∀ c ∈ name, Text.isAlphanumeric c = true ∨ c = ' '
  ungrouped : (Text.words name).head? ≠ some "Group".toList

instance (name : Text) : Decidable (IsName name) :=
  decidable_of_iff' _ (isName_iff name)

/-- A slash, and behind it letters, digits, slashes and braces. -/
@[mk_iff]
structure IsUri (uri : Text) : Prop where
  rooted : uri.head? = some '/'
  characters : ∀ c ∈ uri, Text.isAlphanumeric c = true ∨ c = '/' ∨ c = '{' ∨ c = '}'

instance (uri : Text) : Decidable (IsUri uri) :=
  decidable_of_iff' _ (isUri_iff uri)

@[mk_iff]
structure Metadata.IsCanonical (entry : Metadata) : Prop where
  letter : entry.key.head?.any Text.isLetter = true
  characters : ∀ c ∈ entry.key, Text.isAlphanumeric c = true ∨ c = '_' ∨ c = '-'
  trimmed : Text.IsTrimmed entry.value
  line : Text.IsLine entry.value

instance (entry : Metadata) : Decidable entry.IsCanonical :=
  decidable_of_iff' _ (Metadata.isCanonical_iff entry)

@[mk_iff]
structure Header.IsCanonical (header : Header) : Prop where
  nonempty : header.name ≠ []
  colonFree : ':' ∉ header.name
  trimmedName : Text.IsTrimmed header.name
  lineName : Text.IsLine header.name
  trimmedValue : Text.IsTrimmed header.value
  lineValue : Text.IsLine header.value

instance (header : Header) : Decidable header.IsCanonical :=
  decidable_of_iff' _ (Header.isCanonical_iff header)

@[mk_iff]
structure IsMediaType (media : Text) : Prop where
  nonempty : media ≠ []
  trimmed : Text.IsTrimmed media
  line : Text.IsLine media
  bare : '(' ∉ media ∧ ')' ∉ media

instance (media : Text) : Decidable (IsMediaType media) :=
  decidable_of_iff' _ (isMediaType_iff media)

/-- Lines of which the first and the last one are not blank. Some line is not blank and not indented,
and no line ends in white space. -/
@[mk_iff]
structure IsBlock (text : Text) : Prop where
  first : ∀ line ∈ (text.splitOn '\n').head?, Text.isBlank line = false
  last : ∀ line ∈ (text.splitOn '\n').getLast?, Text.isBlank line = false
  flush : ∃ line ∈ text.splitOn '\n', Text.isBlank line = false ∧ Line.indentWidth line = 0
  solid : ∀ line ∈ text.splitOn '\n', Text.trimEnd line = line

instance (text : Text) : Decidable (IsBlock text) :=
  decidable_of_iff' _ (isBlock_iff text)

def Signature.IsCanonical : Signature → Prop
  | request name => ∀ text ∈ name, IsName text
  | response status => 100 ≤ status ∧ status ≤ 599

instance : (signature : Signature) → Decidable signature.IsCanonical
  | .request name => inferInstanceAs (Decidable (∀ text ∈ name, IsName text))
  | .response status => inferInstanceAs (Decidable (100 ≤ status ∧ status ≤ 599))

def Signature.payloadKind : Signature → PayloadKind
  | request _ => .request
  | response _ => .response

def Signature.subject : Signature → Option Text
  | request name => name
  | response status => some (Text.ofNat status)

def PayloadKind.keyword : PayloadKind → Text
  | request => "Request".toList
  | response => "Response".toList

@[mk_iff]
structure Payload.IsCanonical (payload : Payload) : Prop where
  undescribed : payload.description = []
  signature : payload.signature.IsCanonical
  media : ∀ text ∈ payload.mediaType, IsMediaType text
  headers : ∀ header ∈ payload.headers, header.IsCanonical
  typed : payload.mediaType.isSome = true → (payload.header? "Content-Type".toList).isSome = true
  body : ∀ text ∈ payload.body, IsBlock text
  schema : ∀ text ∈ payload.schema, IsBlock text

instance (payload : Payload) : Decidable payload.IsCanonical :=
  decidable_of_iff' _ (Payload.isCanonical_iff payload)

@[mk_iff]
structure Action.IsCanonical (action : Action) : Prop where
  undescribed : action.description = []
  name : ∀ text ∈ action.name, IsName text
  uri : ∀ text ∈ action.uriTemplate, IsUri text
  requests : ∀ payload ∈ action.requests, payload.IsCanonical ∧ payload.signature.payloadKind = .request
  responses : ∀ payload ∈ action.responses, payload.IsCanonical ∧ payload.signature.payloadKind = .response

instance (action : Action) : Decidable action.IsCanonical :=
  decidable_of_iff' _ (Action.isCanonical_iff action)

@[mk_iff]
structure Resource.IsCanonical (resource : Resource) : Prop where
  undescribed : resource.description = []
  name : ∀ text ∈ resource.name, IsName text
  uri : IsUri resource.uriTemplate
  actions : ∀ action ∈ resource.actions, action.IsCanonical

instance (resource : Resource) : Decidable resource.IsCanonical :=
  decidable_of_iff' _ (Resource.isCanonical_iff resource)

@[mk_iff]
structure Group.IsCanonical (group : Group) : Prop where
  undescribed : group.description = []
  name : ∀ text ∈ group.name, IsName text
  resources : ∀ resource ∈ group.resources, resource.IsCanonical

instance (group : Group) : Decidable group.IsCanonical :=
  decidable_of_iff' _ (Group.isCanonical_iff group)

/-- Only the first group may do without a name, and then it has a resource. -/
@[mk_iff]
structure Blueprint.IsCanonical (blueprint : Blueprint) : Prop where
  undescribed : blueprint.description = []
  metadata : ∀ entry ∈ blueprint.metadata, entry.IsCanonical
  name : ∀ text ∈ blueprint.name, IsName text
  groups : ∀ group ∈ blueprint.groups, group.IsCanonical
  unnamed : ∀ group ∈ blueprint.groups.head?, group.name = none → group.resources ≠ []
  named : ∀ group ∈ blueprint.groups.tail, group.name ≠ none

instance (blueprint : Blueprint) : Decidable blueprint.IsCanonical :=
  decidable_of_iff' _ (Blueprint.isCanonical_iff blueprint)

namespace Render

def spaced (text : Option Text) : Text := text.elim [] fun text => ' ' :: text

def titled (name : Option Text) (declared : Text) : Text :=
  name.elim declared fun name => name ++ ' ' :: declared

def brackets (text : Text) : Text := '[' :: (text ++ [']'])
def parentheses (text : Text) : Text := '(' :: (text ++ [')'])
def colon (name value : Text) : Text := name ++ ':' :: ' ' :: value
def heading (depth : Nat) (text : Text) : Text := List.replicate depth '#' ++ ' ' :: text

def indented (width : Nat) (line : Text) : Text :=
  if line.isEmpty then [] else List.replicate width ' ' ++ line

def padded (gap : Nat) (lines : List Text) : List Text := lines ++ List.replicate gap []

end Render

open Render

inductive PayloadPart where
  | headers (list : List Header)
  | body (text : Text)
  | schema (text : Text)
  deriving DecidableEq, Repr

namespace PayloadPart

def marker : PayloadPart → Text
  | headers _ => "+ Headers".toList
  | body _ => "+ Body".toList
  | schema _ => "+ Schema".toList

def content : PayloadPart → List Text
  | headers list => list.map fun header => colon header.name header.value
  | body text => text.splitOn '\n'
  | schema text => text.splitOn '\n'

def lines (gap : Nat) (part : PayloadPart) : List Text :=
  padded gap [indented 4 part.marker] ++ padded gap (part.content.map (indented 12))

end PayloadPart

namespace Payload

def item (payload : Payload) : Text :=
  '+' :: ' ' :: (payload.signature.payloadKind.keyword ++
    (spaced payload.signature.subject ++ spaced (payload.mediaType.map parentheses)))

def parts (payload : Payload) : List PayloadPart :=
  (if payload.headers = [] then [] else [.headers payload.headers]) ++
    ((payload.body.map PayloadPart.body).toList ++ (payload.schema.map PayloadPart.schema).toList)

def lines (gap : Nat) (payload : Payload) : List Text :=
  padded gap [payload.item] ++ payload.parts.flatMap (PayloadPart.lines gap)

end Payload

def Action.declared (action : Action) : Text :=
  titled action.name (brackets (action.method.name ++ spaced action.uriTemplate))

def Action.lines (gap : Nat) (action : Action) : List Text :=
  padded gap [heading 3 action.declared] ++
    (action.requests ++ action.responses).flatMap (Payload.lines gap)

def Resource.declared (resource : Resource) : Text :=
  titled resource.name (brackets resource.uriTemplate)

def Resource.lines (gap : Nat) (resource : Resource) : List Text :=
  padded gap [heading 2 resource.declared] ++ resource.actions.flatMap (Action.lines gap)

def Group.lines (gap : Nat) (group : Group) : List Text :=
  group.name.elim [] (fun name => padded gap [heading 1 ("Group ".toList ++ name)]) ++
    group.resources.flatMap (Resource.lines gap)

namespace Blueprint

def lines (gap : Nat) (blueprint : Blueprint) : List Text :=
  padded gap (blueprint.metadata.map fun entry => colon entry.key entry.value) ++
    (blueprint.name.elim [] (fun name => padded gap [heading 1 name]) ++
      blueprint.groups.flatMap (Group.lines gap))

/-- The canonical text, in which `gap` blank lines follow each item. -/
def render (gap : Nat) (blueprint : Blueprint) : Text :=
  Text.joinWith ['\n'] (blueprint.lines gap)

end Blueprint

def Payload.unnumbered (payload : Payload) : Payload := { payload with line := 0 }

def Action.unnumbered (action : Action) : Action :=
  { action with
    requests := action.requests.map Payload.unnumbered
    responses := action.responses.map Payload.unnumbered
    line := 0 }

def Resource.unnumbered (resource : Resource) : Resource :=
  { resource with actions := resource.actions.map Action.unnumbered, line := 0 }

def Group.unnumbered (group : Group) : Group :=
  { group with resources := group.resources.map Resource.unnumbered }

def Blueprint.unnumbered (blueprint : Blueprint) : Blueprint :=
  { blueprint with groups := blueprint.groups.map Group.unnumbered }

end ApiBlueprint

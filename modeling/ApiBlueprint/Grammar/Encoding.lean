import ApiBlueprint.Grammar.Blueprint
import ApiBlueprint.Json.Basic

/-! Blueprints as JSON: one member for each field, null for what is absent. -/

namespace ApiBlueprint

def Json.ofText? : Option Text → Json := Json.ofOption .string

def Metadata.toJson (entry : Metadata) : Json :=
  .object [("key".toList, .string entry.key), ("value".toList, .string entry.value)]

def Header.toJson (header : Header) : Json :=
  .object [("name".toList, .string header.name), ("value".toList, .string header.value)]

namespace Signature

def kind : Signature → Text
  | request _ => "request".toList
  | response _ => "response".toList

def name? : Signature → Option Text
  | request name => name
  | response _ => none

def status? : Signature → Option Nat
  | request _ => none
  | response status => some status

end Signature

def Payload.toJson (payload : Payload) : Json :=
  .object
    [("kind".toList, .string payload.signature.kind),
      ("name".toList, .ofText? payload.signature.name?),
      ("status".toList, .ofOption .ofNat payload.signature.status?),
      ("media_type".toList, .ofText? payload.mediaType),
      ("description".toList, .string payload.description),
      ("headers".toList, .array (payload.headers.map Header.toJson)),
      ("body".toList, .ofText? payload.body),
      ("schema".toList, .ofText? payload.schema),
      ("line".toList, .ofNat payload.line)]

def Action.toJson (action : Action) : Json :=
  .object
    [("name".toList, .ofText? action.name),
      ("method".toList, .string action.method.name),
      ("uri_template".toList, .ofText? action.uriTemplate),
      ("description".toList, .string action.description),
      ("requests".toList, .array (action.requests.map Payload.toJson)),
      ("responses".toList, .array (action.responses.map Payload.toJson)),
      ("line".toList, .ofNat action.line)]

def Resource.toJson (resource : Resource) : Json :=
  .object
    [("name".toList, .ofText? resource.name),
      ("uri_template".toList, .string resource.uriTemplate),
      ("description".toList, .string resource.description),
      ("actions".toList, .array (resource.actions.map Action.toJson)),
      ("line".toList, .ofNat resource.line)]

def Group.toJson (group : Group) : Json :=
  .object
    [("name".toList, .ofText? group.name),
      ("description".toList, .string group.description),
      ("resources".toList, .array (group.resources.map Resource.toJson))]

def Blueprint.toJson (blueprint : Blueprint) : Json :=
  .object
    [("metadata".toList, .array (blueprint.metadata.map Metadata.toJson)),
      ("name".toList, .ofText? blueprint.name),
      ("description".toList, .string blueprint.description),
      ("groups".toList, .array (blueprint.groups.map Group.toJson))]

end ApiBlueprint

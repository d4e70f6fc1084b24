import ApiBlueprint.Text.Basic

/-!
The tree of a blueprint: groups hold resources, resources hold actions, and actions hold the
payloads of their requests and responses.
-/

namespace ApiBlueprint

inductive Method where
  | get | post | put | patch | delete | head | options
  deriving DecidableEq, Repr

namespace Method

def all : List Method := [get, post, put, patch, delete, head, options]

def name : Method → Text
  | get => "GET".toList
  | post => "POST".toList
  | put => "PUT".toList
  | patch => "PATCH".toList
  | delete => "DELETE".toList
  | head => "HEAD".toList
  | options => "OPTIONS".toList

def ofName? (token : Text) : Option Method := all.find? fun method => method.name = token

theorem of_name_name (method : Method) : ofName? method.name = some method := by
  cases method <;> decide

end Method

structure Metadata where
  key : Text
  value : Text
  deriving DecidableEq, Repr

structure Header where
  name : Text
  value : Text
  deriving DecidableEq, Repr

inductive Signature where
  | request (name : Option Text)
  | response (status : Nat)
  deriving DecidableEq, Repr

structure Payload where
  signature : Signature
  mediaType : Option Text := none
  description : Text := []
  headers : List Header := []
  body : Option Text := none
  schema : Option Text := none
  line : Nat
  deriving DecidableEq, Repr

structure Action where
  name : Option Text := none
  method : Method
  uriTemplate : Option Text := none
  description : Text := []
  requests : List Payload := []
  responses : List Payload := []
  line : Nat
  deriving DecidableEq, Repr

structure Resource where
  name : Option Text := none
  uriTemplate : Text
  description : Text := []
  actions : List Action := []
  line : Nat
  deriving DecidableEq, Repr

structure Group where
  name : Option Text := none
  description : Text := []
  resources : List Resource := []
  deriving DecidableEq, Repr

structure Blueprint where
  metadata : List Metadata := []
  name : Option Text := none
  description : Text := []
  groups : List Group := []
  deriving DecidableEq, Repr

namespace Payload

/-- The value of the first header of that name, whatever the case of its letters. -/
def header? (payload : Payload) (name : Text) : Option Text :=
  (payload.headers.find? fun header => Text.sameLetters header.name name).map Header.value

end Payload

namespace Blueprint

def metadata? (blueprint : Blueprint) (key : Text) : Option Text :=
  (blueprint.metadata.find? fun entry => Text.sameLetters entry.key key).map Metadata.value

def resources (blueprint : Blueprint) : List Resource := blueprint.groups.flatMap Group.resources
def actions (blueprint : Blueprint) : List Action := blueprint.resources.flatMap Resource.actions

end Blueprint
end ApiBlueprint

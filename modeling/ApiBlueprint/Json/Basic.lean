import ApiBlueprint.Decimal.Binary64
import ApiBlueprint.Text.Basic

/-! JSON values. The members of an object keep the order in which they stand. -/

namespace ApiBlueprint

inductive JsonNumber where
  | integer (value : Int)
  | binary (value : Binary64)
  deriving DecidableEq, Repr

inductive Json where
  | null
  | boolean (value : Bool)
  | number (value : JsonNumber)
  | string (value : Text)
  | array (items : List Json)
  | object (members : List (Text × Json))
  deriving Inhabited, Repr

namespace Json

def ofNat (n : Nat) : Json := number (.integer n)
def ofOption {α : Type} (encode : α → Json) : Option α → Json
  | none => null
  | some value => encode value

/-- The order of texts by their code points, which is that of their bytes in UTF-8. -/
def keyLess : Text → Text → Bool
  | _, [] => false
  | [], _ :: _ => true
  | c :: rest, d :: other => c < d || (c = d && keyLess rest other)

def insertMember (key : Text) (value : Json) : List (Text × Json) → List (Text × Json)
  | [] => [(key, value)]
  | (other, held) :: rest =>
    if key = other then (key, value) :: rest
    else if keyLess key other then (key, value) :: (other, held) :: rest
    else (other, held) :: insertMember key value rest

/-- Members in the order of their keys; of two equal keys the later one counts. -/
def sortMembers (members : List (Text × Json)) : List (Text × Json) :=
  members.foldl (fun sorted (key, value) => insertMember key value sorted) []

end Json
end ApiBlueprint

import ApiBlueprint.Toml.Fault

/-! Decoding TOML values into types of their own. -/

namespace ApiBlueprint

abbrev TomlDecoder (Result : Type) := Toml → Except TomlError Result

namespace TomlDecoder

def refuse {Result : Type} (value : Toml) (expected : Text) : Except TomlError Result :=
  .error ⟨.wrongKind value.describe expected, value.extent?⟩

def text (expected : Text) : TomlDecoder Text
  | .scalar _ (.string value) => .ok value
  | value => refuse value expected

def natural (bound : Nat) (expected : Text) : TomlDecoder Nat
  | .scalar extent (.integer value) =>
    if 0 ≤ value && value < bound then .ok value.toNat
    else .error ⟨.outOfRange value expected, some extent⟩
  | value => refuse value expected

def list {Result : Type} (item : TomlDecoder Result) : TomlDecoder (List Result)
  | .array _ items => items.mapM item
  | .tables members => members.mapM item
  | value => refuse value "a sequence".toList

structure Member (Record : Type) where
  name : Text
  set : Toml → Record → Except TomlError Record

namespace Member

variable {Record Value : Type}

def ofDecoder (name : Text) (decode : TomlDecoder Value) (put : Value → Record → Record) :
    Member Record :=
  ⟨name, fun value record => do return put (← decode value) record⟩

def setEntry (members : List (Member Record)) (record : Record) (entry : TomlKey × Toml) :
    Except TomlError Record :=
  match members.find? fun member => member.name = entry.1.name with
  | none => .error ⟨.unknownKey entry.1.name (members.map Member.name), some entry.1.extent⟩
  | some member =>
    (member.set entry.2 record).mapError
      (TomlError.locate (entry.2.extent? <|> some entry.1.extent))

def setItems (members : List (Member Record)) (record : Record) (items : List Toml) :
    Except TomlError Record :=
  (members.zip items).foldlM (fun record (member, value) => member.set value record) record

end Member

def momentKey : Text := "$__toml_private_datetime".toList

/-- A record from a table, or from a sequence with the values of its members in order. Keys that no
member has are refused. -/
def record {Record : Type} (title : Text) (members : List (Member Record)) (start : Record) :
    TomlDecoder Record
  | .table _ _ entries => entries.foldlM (Member.setEntry members) start
  | .array _ items => Member.setItems members start items
  | .tables items => Member.setItems members start items
  | .scalar extent .moment =>
    .error ⟨.unknownKey momentKey (members.map Member.name), some extent⟩
  | value => refuse value ("struct ".toList ++ title)

end TomlDecoder
end ApiBlueprint

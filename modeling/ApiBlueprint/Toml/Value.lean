import ApiBlueprint.Decimal.Shortest
import ApiBlueprint.Text.Quoted

/-!
Values of a TOML document, with the places where they are written. A place is given by the numbers
of characters from its ends to the end of the document.
-/

namespace ApiBlueprint

structure Extent where
  fromStart : Nat
  fromEnd : Nat
  deriving DecidableEq, Repr

inductive TomlFloat where
  | finite (value : Binary64)
  | infinite (negative : Bool)
  | notANumber
  deriving DecidableEq, Repr

inductive TomlScalar where
  | string (value : Text)
  | integer (value : Int)
  | float (value : TomlFloat)
  | boolean (value : Bool)
  | moment
  deriving DecidableEq, Repr

inductive TableForm where
  | header
  /-- The header of a table inside it. -/
  | implied
  | dotted
  /-- Braces; such a table is complete. -/
  | braces
  deriving DecidableEq, Repr

structure TomlKey where
  name : Text
  extent : Extent
  deriving DecidableEq, Repr

/-- Entries of tables stand in the order in which their keys were made. -/
inductive Toml where
  | scalar (extent : Extent) (value : TomlScalar)
  | array (extent : Extent) (items : List Toml)
  | table (extent : Option Extent) (form : TableForm) (entries : List (TomlKey × Toml))
  | tables (members : List Toml)
  deriving Repr

abbrev TomlEntries := List (TomlKey × Toml)

namespace TomlFloat

def layout : DecimalLayout := ⟨-400, 400⟩

def display : TomlFloat → Text
  | finite value => value.render layout
  | infinite false => "inf".toList
  | infinite true => "-inf".toList
  | notANumber => "NaN".toList

end TomlFloat

namespace TomlScalar

def describe : TomlScalar → Text
  | string value => "string ".toList ++ Text.quoted value
  | integer value =>
    "integer \x60".toList ++ (if value < 0 then ['-'] else []) ++ Text.ofNat value.natAbs ++ ['\x60']
  | float value => "floating point \x60".toList ++ value.display ++ ['\x60']
  | boolean true => "boolean \x60true\x60".toList
  | boolean false => "boolean \x60false\x60".toList
  | moment => "map".toList

end TomlScalar

namespace Toml

def describe : Toml → Text
  | scalar _ value => value.describe
  | array _ _ => "sequence".toList
  | table _ _ _ => "map".toList
  | tables _ => "sequence".toList

def extent? : Toml → Option Extent
  | scalar extent _ => some extent
  | array extent _ => some extent
  | table extent _ _ => extent
  | tables members =>
    match members.head?, members.getLast? with
    | some (table (some first) _ _), some (table (some last) _ _) =>
      some ⟨first.fromStart, last.fromEnd⟩
    | _, _ => none

end Toml
end ApiBlueprint

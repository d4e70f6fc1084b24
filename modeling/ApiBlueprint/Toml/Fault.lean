import ApiBlueprint.Toml.Value

/-! Why a TOML document does not say what a reader of it expects, and where. -/

namespace ApiBlueprint

inductive TomlFault where
  | malformed
  | unknownKey (name : Text) (known : List Text)
  | wrongKind (found expected : Text)
  | outOfRange (found : Int) (expected : Text)
  deriving DecidableEq, Repr

structure TomlError where
  fault : TomlFault
  extent : Option Extent := none
  deriving DecidableEq, Repr

namespace TomlFault

def mark (name : Text) : Text := '\x60' :: name ++ ['\x60']

def alternatives : List Text → Text
  | [name] => mark name
  | [first, second] => mark first ++ " or ".toList ++ mark second
  | names => "one of ".toList ++ Text.joinWith ", ".toList (names.map mark)

def message : TomlFault → Text
  | malformed => "malformed document".toList
  | unknownKey name known =>
    "unknown field ".toList ++ mark name ++ ", expected ".toList ++ alternatives known
  | wrongKind found expected =>
    "invalid type: ".toList ++ found ++ ", expected ".toList ++ expected
  | outOfRange found expected =>
    "invalid value: ".toList ++ (TomlScalar.integer found).describe ++ ", expected ".toList ++ expected

end TomlFault

namespace TomlError

def locate (extent : Option Extent) (error : TomlError) : TomlError :=
  { error with extent := error.extent <|> extent }

/-- The place of an error in a document: the line it starts on with the number of that line, the
number of characters before it, and as many marks as it has bytes on that line. -/
def excerpt (document : Text) (extent : Extent) : Text :=
  let before := document.take (document.length - extent.fromStart)
  let bytes := Text.byteLength ((document.drop before.length).take (extent.fromStart - extent.fromEnd))
  let number := Text.ofNat (before.count '\n' + 1)
  let column := (before.reverse.takeWhile (· ≠ '\n')).length
  let line := (document.drop (before.length - column)).takeWhile (· ≠ '\n')
  let marks := max 1 (min bytes (Text.byteLength line - column))
  let gutter := List.replicate (number.length + 1) ' '
  "TOML parse error at line ".toList ++ number ++ ", column ".toList ++ Text.ofNat (column + 1) ++
    '\n' :: gutter ++ '|' :: '\n' :: number ++ " | ".toList ++ line ++
    '\n' :: gutter ++ '|' :: List.replicate (column + 1) ' ' ++ List.replicate marks '^' ++ ['\n']

def report (document : Text) (error : TomlError) : Text :=
  (match error.extent with
    | some extent => excerpt document extent
    | none => []) ++ error.fault.message ++ ['\n']

end TomlError
end ApiBlueprint

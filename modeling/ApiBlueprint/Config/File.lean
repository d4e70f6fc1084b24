import ApiBlueprint.Path.Basic
import ApiBlueprint.Toml.Decode
import ApiBlueprint.Toml.Reader

/-! What a configuration file sets. Every key may be missing; keys with other names are refused. -/

namespace ApiBlueprint

structure ConfigFile where
  name : Option Text := none
  root : Option Path := none
  exclude : Option (List Text) := none
  includePatterns : Option (List Text) := none
  excludePatterns : Option (List Text) := none
  maxDepth : Option Nat := none
  seed : Option UInt64 := none
  outputFolder : Option Path := none
  defaultFormat : Option Text := none
  deriving DecidableEq, Repr

namespace ConfigFile

abbrev Members := List (TomlDecoder.Member ConfigFile)

def string : TomlDecoder Text := TomlDecoder.text "a string".toList
def strings : TomlDecoder (List Text) := TomlDecoder.list string

def path : TomlDecoder Path := fun value => do
  return .ofText (← TomlDecoder.text "path string".toList value)

def depth : TomlDecoder Nat := TomlDecoder.natural (Nat.pow 2 32) "u32".toList

def word : TomlDecoder UInt64 := fun value => do
  return UInt64.ofNat (← TomlDecoder.natural (Nat.pow 2 64) "u64".toList value)

def project : Members := [
  .ofDecoder "name".toList string fun value file => { file with name := some value },
  .ofDecoder "root".toList path fun value file => { file with root := some value },
  .ofDecoder "exclude".toList strings fun value file => { file with exclude := some value }]

def sources : Members := [
  .ofDecoder "include_patterns".toList strings fun value file =>
    { file with includePatterns := some value },
  .ofDecoder "exclude_patterns".toList strings fun value file =>
    { file with excludePatterns := some value }]

def transclusion : Members := [
  .ofDecoder "max_depth".toList depth fun value file => { file with maxDepth := some value }]

def fixtures : Members := [
  .ofDecoder "seed".toList word fun value file => { file with seed := some value }]

def dist : Members := [
  .ofDecoder "output_dir".toList path fun value file => { file with outputFolder := some value },
  .ofDecoder "default_format".toList string fun value file =>
    { file with defaultFormat := some value }]

def table (name title : String) (members : Members) : TomlDecoder.Member ConfigFile :=
  ⟨name.toList, fun value file => TomlDecoder.record title.toList members file value⟩

def tables : Members := [
  table "project" "ProjectTable" project,
  table "sources" "SourcesTable" sources,
  table "transclusion" "TransclusionTable" transclusion,
  table "fixtures" "FixturesTable" fixtures,
  table "dist" "DistTable" dist]

def read (text : Text) : Except TomlError ConfigFile :=
  match TomlEntries.read? text with
  | none => .error ⟨.malformed, none⟩
  | some entries => TomlDecoder.record "FileSchema".toList tables {} (.table none .header entries)

/-- The values that hold where no file sets any. The root and the output folder have none: they
follow the working folder. -/
def defaults : ConfigFile where
  exclude := some []
  includePatterns := some ["**/*.apib".toList]
  excludePatterns := some ["**/node_modules/**".toList]
  maxDepth := some 16
  defaultFormat := some "apib".toList

end ConfigFile
end ApiBlueprint

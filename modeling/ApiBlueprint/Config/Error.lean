import ApiBlueprint.Config.Source
import ApiBlueprint.Files.Fault
import ApiBlueprint.Glob.Pattern
import ApiBlueprint.Toml.Fault

/-! What can go wrong when a configuration is found, read and checked. -/

namespace ApiBlueprint

def ConfigFile.depthLimit : Nat := 64

inductive SettingFault where
  | pattern (error : GlobError)
  | depth (value : Nat)
  | formatKey (text : Text)
  deriving DecidableEq, Repr

structure SettingError where
  key : Text
  fault : SettingFault
  source : Option LayerSource
  deriving DecidableEq, Repr

inductive ConfigError where
  | workingFolder (attempted : Path) (fault : FileFault)
  | overrideMissing (path : Path)
  | unreadable (path : Path) (fault : FileFault)
  /-- A file, or a text without a path, that cannot be understood. -/
  | malformed (path : Option Path) (document : Text) (error : TomlError)
  | invalid (errors : List SettingError)
  deriving DecidableEq, Repr

namespace SettingFault

def message : SettingFault → Text
  | pattern error =>
    "invalid glob pattern '".toList ++ error.pattern ++ "': ".toList ++ error.message
  | depth value =>
    "must be between 1 and ".toList ++ Text.ofNat ConfigFile.depthLimit ++ " (got ".toList ++
      Text.ofNat value ++ [')']
  | formatKey text => '\x27' :: text ++ "' is not a format key".toList

end SettingFault

namespace SettingError

def describe (error : SettingError) : Text :=
  error.key ++ ": ".toList ++ error.fault.message ++
    match error.source with
    | some source => " (".toList ++ source.describe ++ [')']
    | none => []

end SettingError

namespace ConfigError

def pathText : Option Path → Text
  | some path => path.text
  | none => "<inline>".toList

def cause? : ConfigError → Option Text
  | workingFolder _ fault => some fault.message
  | overrideMissing _ => none
  | unreadable _ fault => some fault.message
  | malformed _ document error => some (error.report document)
  | invalid _ => none

def message : ConfigError → Text
  | workingFolder attempted fault =>
    "failed to resolve working directory ".toList ++ attempted.text ++ ": ".toList ++ fault.message
  | overrideMissing path => "override config ".toList ++ path.text ++ " not found".toList
  | unreadable path fault =>
    "failed to read config ".toList ++ path.text ++ ": ".toList ++ fault.message
  | malformed path document error =>
    "failed to parse config ".toList ++ pathText path ++ ": ".toList ++ error.report document
  | invalid errors =>
    "configuration validation failed:\n".toList ++
      Text.joinWith ['\n'] (errors.map fun error => "- ".toList ++ error.describe)

def fullMessage (error : ConfigError) : Text :=
  match error.cause? with
  | some cause => error.message ++ ": ".toList ++ cause
  | none => error.message

end ConfigError
end ApiBlueprint

import ApiBlueprint.Document.Error
import ApiBlueprint.Json.Writer
import ApiBlueprint.Text.Quoted

/-! Output formats of compiled documents, found by key or by the extension of a destination. -/

namespace ApiBlueprint

structure Artifact where
  markdown : Text
  fixtures : List Json
  deriving Repr

inductive Rendition where
  | text (contents : Text)
  | json (value : Json)
  deriving Repr

def Rendition.render : Rendition → Text
  | text contents => contents
  | json value => value.pretty ++ ['\n']

structure Format where
  key : Text
  marshal : Artifact → Rendition

namespace Format

def apib : Format := ⟨"apib".toList, fun artifact => .text artifact.markdown⟩
def json : Format := ⟨"json".toList, fun artifact => .json (.array artifact.fixtures)⟩

def describe (format : Format) : Text :=
  "FormatDescriptor \x7b key: ".toList ++ Text.quoted format.key ++ ", .. \x7d".toList

end Format

structure FormatRegistry where
  formats : List Format

namespace FormatRegistry

def empty : FormatRegistry := ⟨[]⟩

def replaceOrAppend (format : Format) : List Format → List Format
  | [] => [format]
  | other :: rest =>
    if other.key = format.key then format :: rest else other :: replaceOrAppend format rest

/-- Adds a format; one with the same key is replaced where it stands. -/
def register (registry : FormatRegistry) (format : Format) : FormatRegistry :=
  ⟨replaceOrAppend format registry.formats⟩

def standard : FormatRegistry := (empty.register .apib).register .json

def keys (registry : FormatRegistry) : List Text := registry.formats.map Format.key

def find? (registry : FormatRegistry) (key : Text) : Option Format :=
  registry.formats.find? fun format => format.key = key

def get (registry : FormatRegistry) (key : Text) : Except CompileError Format :=
  match registry.find? key with
  | some format => .ok format
  | none => .error (.unsupportedFormat key)

def marshal (registry : FormatRegistry) (artifact : Artifact) (key : Text) :
    Except CompileError Rendition := do
  return (← registry.get key).marshal artifact

def isFormatKey (key : Text) : Bool := !key.isEmpty && key.all Text.isAlphanumeric

/-- The extension of a path in lower case; it must consist of ASCII letters and digits. -/
def extensionOf (path : Path) : Except CompileError Text :=
  match path.extension? >>= OsText.text? with
  | some extension =>
    if isFormatKey extension then .ok (extension.map Text.lower)
    else .error (.invalidDestination path)
  | none => .error (.invalidDestination path)

def forDestination (registry : FormatRegistry) (path : Path) : Except CompileError Format := do
  registry.get (← extensionOf path)

end FormatRegistry
end ApiBlueprint

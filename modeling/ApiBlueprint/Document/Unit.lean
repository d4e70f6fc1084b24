import ApiBlueprint.Files.FileSystem
import ApiBlueprint.Format.Registry
import ApiBlueprint.Grammar.Reading

/-!
Compiling a document: its includes are expanded, its placeholders replaced and its JSON values
collected. A compilation unit keeps a document and its artifact.
-/

namespace ApiBlueprint

variable {G : Type} [Engine G]

structure Document where
  text : Text
  origin : Option Path := none
  deriving DecidableEq, Repr

structure CompileOptions where
  loader : Loader
  maxDepth : Nat := 16
  formats : FormatRegistry := .standard

namespace Document

def base (document : Document) : Option Path := document.origin >>= Path.parent?

def collect (document : Document) (markdown : Text) : Except CompileError Artifact :=
  match extractFixtures markdown with
  | .ok fixtures => .ok ⟨markdown, fixtures⟩
  | .error error => .error (.fixture error document.origin)

def compile (document : Document) (options : CompileOptions) (generator : G) :
    Except CompileError Artifact × G :=
  match transclude options.loader options.maxDepth document.base document.text with
  | .error fault => (.error (.transclusion fault), generator)
  | .ok embedded =>
    match Engine.process generator embedded with
    | (.error fault, generator) => (.error (.interpolation fault), generator)
    | (.ok markdown, generator) => (document.collect markdown, generator)

end Document

def readBlueprint (text : Text) : Except CompileError Blueprint :=
  if Text.isBlank text then .error (.input .noMarkdown)
  else (Blueprint.read text).mapError .grammar

/-- Where a unit stands; it is compiling only while its document is compiled. -/
inductive UnitState where
  | created
  | compiling
  | compiled
  | failed
  deriving DecidableEq, Repr

structure CompilationUnit where
  document : Document
  artifact? : Option Artifact := none
  state : UnitState := .created
  deriving Repr

namespace CompilationUnit

/-- The unit at the start of a compilation; an artifact that it had is given up. -/
def start (unit : CompilationUnit) : CompilationUnit :=
  { unit with artifact? := none, state := .compiling }

def finish (unit : CompilationUnit) (result : Except CompileError Artifact) : CompilationUnit :=
  match result with
  | .ok artifact => { unit with artifact? := some artifact, state := .compiled }
  | .error _ => { unit with state := .failed }

def compile (unit : CompilationUnit) (options : CompileOptions) (generator : G) :
    Except CompileError Artifact × CompilationUnit × G :=
  let unit := unit.start
  let (result, generator) := unit.document.compile options generator
  (result, unit.finish result, generator)

def toArtifact (unit : CompilationUnit) (options : CompileOptions) (generator : G) :
    Except CompileError Artifact × G :=
  match unit.artifact? with
  | some artifact => (.ok artifact, generator)
  | none => unit.document.compile options generator

def blueprint (unit : CompilationUnit) : Except CompileError Blueprint :=
  match unit.artifact? with
  | some artifact => readBlueprint artifact.markdown
  | none => readBlueprint unit.document.text

def ensure (unit : CompilationUnit) (options : CompileOptions) (generator : G) :
    Except CompileError Unit × CompilationUnit × G :=
  match unit.artifact? with
  | some _ => (.ok ⟨⟩, unit, generator)
  | none =>
    let (result, unit, generator) := unit.compile options generator
    (result.map fun _ => ⟨⟩, unit, generator)

structure DistOutcome (State G : Type) where
  result : Except CompileError Unit
  unit : CompilationUnit
  files : State
  generator : G

/-- Writes the artifact in the format that the extension of the target names. A target without a
format changes nothing. -/
def dist {State : Type} (unit : CompilationUnit) (system : FileSystem State) (files : State)
    (target : Path) (options : CompileOptions) (generator : G) : DistOutcome State G :=
  match options.formats.forDestination target with
  | .error error => ⟨.error error, unit, files, generator⟩
  | .ok format =>
    match unit.ensure options generator with
    | (.error error, unit, generator) => ⟨.error error, unit, files, generator⟩
    | (.ok _, unit, generator) =>
      match unit.artifact? with
      | none => ⟨.error (.input .noArtifact), unit, files, generator⟩
      | some artifact =>
        let (result, files) := system.write files target (format.marshal artifact).render
        ⟨result, unit, files, generator⟩

end CompilationUnit
end ApiBlueprint

import ApiBlueprint.Files.Store
import ApiBlueprint.Proofs.Document.Lifecycle
import ApiBlueprint.Proofs.Files.Store

/-!
A dist into a store of documents is all or nothing. A target without a format changes nothing at
all, a compilation that fails changes no file, and success changes one.
-/

namespace ApiBlueprint.CompilationUnit

variable {G : Type} [Engine G] {unit next : CompilationUnit} {store : Store} {target : Path}
  {options : CompileOptions} {generator after : G} {format : Format} {artifact : Artifact}

/-- What a dist into a store comes to when it succeeds: the text is under the target, and the unit
and the generator are as given. -/
structure Delivers (store : Store) (target : Path) (text : Text) (next : CompilationUnit)
    (after : G) (outcome : DistOutcome Store G) : Prop where
  result : outcome.result = .ok ⟨⟩
  unit : outcome.unit = next
  generator : outcome.generator = after
  files : store.Wrote target text outcome.files

theorem delivers_dist (found : options.formats.forDestination target = .ok format)
    (ready : unit.ensure options generator = (.ok ⟨⟩, next, after))
    (stored : next.artifact? = some artifact) :
    Delivers store target (format.marshal artifact).render next after
      (unit.dist Store.fileSystem store target options generator) := by
  rw [dist_written found ready stored]
  exact ⟨rfl, rfl, rfl, Store.wrote_write store target _⟩

/-- The target is looked at first, then the document is compiled if it has to be, and the file is
written last; what fails leaves behind what came before it. -/
theorem dist_atomic (unit : CompilationUnit) (store : Store) (target : Path)
    (options : CompileOptions) (generator : G) :
    let outcome := unit.dist Store.fileSystem store target options generator
    ((∀ key, ¬target.Names key) →
      outcome = ⟨.error (.invalidDestination target), unit, store, generator⟩) ∧
    (∀ key, target.Names key → key ∉ options.formats.keys →
      outcome = ⟨.error (.unsupportedFormat key), unit, store, generator⟩) ∧
    ∀ key format, target.Names key → options.formats.find? key = some format →
      (∀ error after, unit.artifact? = none →
        unit.document.compile options generator = (.error error, after) →
          outcome = ⟨.error error, ⟨unit.document, none, .failed⟩, store, after⟩) ∧
      (∀ artifact after, unit.artifact? = none →
        unit.document.compile options generator = (.ok artifact, after) →
          Delivers store target (format.marshal artifact).render
            ⟨unit.document, some artifact, .compiled⟩ after outcome) ∧
      ∀ artifact, unit.artifact? = some artifact →
        Delivers store target (format.marshal artifact).render unit generator outcome := by
  refine ⟨?unnamed, ?unregistered, fun key format names registered => ?named⟩
  case unnamed =>
    intro unnamed
    exact dist_rejected (FormatRegistry.forDestination_eq_error_iff.mpr (.inl ⟨unnamed, rfl⟩))
  case unregistered =>
    intro key names absent
    exact dist_rejected
      (FormatRegistry.forDestination_eq_error_iff.mpr (.inr ⟨key, names, absent, rfl⟩))
  case named =>
    have found : options.formats.forDestination target = .ok format :=
      FormatRegistry.forDestination_eq_ok_iff.mpr ⟨key, names, registered⟩
    refine ⟨?failed, ?compiled, ?stored⟩
    case failed =>
      intro error after missing failed
      exact dist_failed found (ensure_failed missing failed)
    case compiled =>
      intro artifact after missing compiled
      exact delivers_dist found (ensure_compiled missing compiled) rfl
    case stored =>
      intro artifact stored
      exact delivers_dist found (ensure_stored stored) stored

def shelf : Store := .ofList [(⟨"out.json".toList⟩, "[]".toList)]

def fresh : CompilationUnit := { document := { text := "a \x7b\x7d".toList } }

def braces : Artifact := ⟨"a \x7b\x7d".toList, [.object []]⟩

def held : CompilationUnit := ⟨fresh.document, some braces, .compiled⟩

/-- A target without an extension, one without a format, and one where a file is replaced: by a unit
that cannot be compiled, by a new one and by one that has its artifact. -/
theorem dist_atomic_shelf :
    (∀ key, ¬Path.Names ⟨"out".toList⟩ key) ∧
    fresh.dist Store.fileSystem shelf ⟨"out".toList⟩ localOptions (Generator.seeded 0) =
      ⟨.error (.invalidDestination ⟨"out".toList⟩), fresh, shelf, .seeded 0⟩ ∧
    Path.Names ⟨"out.XML".toList⟩ "xml".toList ∧ "xml".toList ∉ localOptions.formats.keys ∧
    fresh.dist Store.fileSystem shelf ⟨"out.XML".toList⟩ localOptions (Generator.seeded 0) =
      ⟨.error (.unsupportedFormat "xml".toList), fresh, shelf, .seeded 0⟩ ∧
    Path.Names ⟨"out.JSON".toList⟩ "json".toList ∧
    localOptions.formats.find? "json".toList = some .json ∧
    fresh.artifact? = none ∧
    fresh.document.compile localOptions (Generator.refusing []) =
      (.error (.interpolation (.refused [])), .refusing []) ∧
    fresh.dist Store.fileSystem shelf ⟨"out.JSON".toList⟩ localOptions (Generator.refusing []) =
      ⟨.error (.interpolation (.refused [])), ⟨fresh.document, none, .failed⟩, shelf, .refusing []⟩ ∧
    fresh.document.compile localOptions (Generator.seeded 0) = (.ok braces, .seeded 0) ∧
    Delivers shelf ⟨"out.JSON".toList⟩ (Format.json.marshal braces).render held (Generator.seeded 0)
      (fresh.dist Store.fileSystem shelf ⟨"out.JSON".toList⟩ localOptions (Generator.seeded 0)) ∧
    held.artifact? = some braces ∧
    Delivers shelf ⟨"out.JSON".toList⟩ (Format.json.marshal braces).render held (Generator.refusing [])
      (held.dist Store.fileSystem shelf ⟨"out.JSON".toList⟩ localOptions (Generator.refusing [])) := by
  have unnamed (key : Text) : ¬Path.Names ⟨"out".toList⟩ key :=
    (FormatRegistry.extensionOf_eq_error_iff.mp rfl).1 key
  have xml : Path.Names ⟨"out.XML".toList⟩ "xml".toList :=
    FormatRegistry.extensionOf_eq_ok_iff.mp (by decide)
  have json : Path.Names ⟨"out.JSON".toList⟩ "json".toList :=
    FormatRegistry.extensionOf_eq_ok_iff.mp (by decide)
  have absent : "xml".toList ∉ localOptions.formats.keys := by decide
  have registered : localOptions.formats.find? "json".toList = some .json := rfl
  have failed : fresh.document.compile localOptions (Generator.refusing []) =
      (.error (.interpolation (.refused [])), .refusing []) := by cbv
  have compiled : fresh.document.compile localOptions (Generator.seeded 0) = (.ok braces, .seeded 0) := by
    cbv
  refine ⟨unnamed, ?_, xml, absent, ?_, json, registered, rfl, failed, ?_, compiled, ?_, rfl, ?_⟩
  · exact (dist_atomic fresh shelf _ localOptions (Generator.seeded 0)).1 unnamed
  · exact (dist_atomic fresh shelf _ localOptions (Generator.seeded 0)).2.1 _ xml absent
  · exact ((dist_atomic fresh shelf _ localOptions _).2.2 _ _ json registered).1 _ _ rfl failed
  · exact ((dist_atomic fresh shelf _ localOptions _).2.2 _ _ json registered).2.1 _ _ rfl compiled
  · exact ((dist_atomic held shelf _ localOptions _).2.2 _ _ json registered).2.2 _ rfl

end ApiBlueprint.CompilationUnit

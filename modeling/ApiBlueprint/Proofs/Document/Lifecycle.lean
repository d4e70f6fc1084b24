import ApiBlueprint.Document.Unit
import ApiBlueprint.Include.Table
import ApiBlueprint.Proofs.Format.Destination

/-!
What a compilation unit goes through: whatever is done with it, its state tells whether it has an
artifact, and its document stays the same.
-/

namespace ApiBlueprint

variable {G : Type} [Engine G]

/-- The error of a stage of compiling. -/
inductive CompileError.IsStage : CompileError → Prop where
  | transclusion (fault : TransclusionFault) : IsStage (.transclusion fault)
  | interpolation (fault : InterpolationFault) : IsStage (.interpolation fault)
  | fixture (error : FixtureError) (origin : Option Path) : IsStage (.fixture error origin)

theorem Document.compile_isStage {document : Document} {options : CompileOptions}
    {generator : G} {error : CompileError}
    (failed : (document.compile options generator).1 = .error error) : error.IsStage := by
  unfold compile at failed
  split at failed
  · cases failed
    exact .transclusion _
  · split at failed
    · cases failed
      exact .interpolation _
    · unfold collect at failed
      split at failed
      · cases failed
      · cases failed
        exact .fixture _ _

namespace CompilationUnit

variable {unit next : CompilationUnit} {options : CompileOptions} {generator after : G}
  {artifact : Artifact} {error : CompileError}

theorem compile_ok (compiled : unit.document.compile options generator = (.ok artifact, after)) :
    unit.compile options generator =
      (.ok artifact, ⟨unit.document, some artifact, .compiled⟩, after) := by
  simp only [compile, start, compiled, finish]

theorem compile_error (failed : unit.document.compile options generator = (.error error, after)) :
    unit.compile options generator = (.error error, ⟨unit.document, none, .failed⟩, after) := by
  simp only [compile, start, failed, finish]

theorem compile_cases (unit : CompilationUnit) (options : CompileOptions) (generator : G) :
    (∃ artifact after, unit.document.compile options generator = (.ok artifact, after)) ∨
      ∃ error after, unit.document.compile options generator = (.error error, after) := by
  cases compiled : unit.document.compile options generator with
  | mk result after =>
    cases result with
    | ok artifact => exact Or.inl ⟨artifact, after, rfl⟩
    | error error => exact Or.inr ⟨error, after, rfl⟩

theorem ensure_stored (stored : unit.artifact? = some artifact) :
    unit.ensure options generator = (.ok ⟨⟩, unit, generator) := by
  simp only [ensure, stored]

theorem ensure_missing (missing : unit.artifact? = none) :
    (unit.ensure options generator).2.1 = (unit.compile options generator).2.1 := by
  simp only [ensure, missing]

theorem ensure_compiled (missing : unit.artifact? = none)
    (compiled : unit.document.compile options generator = (.ok artifact, after)) :
    unit.ensure options generator = (.ok ⟨⟩, ⟨unit.document, some artifact, .compiled⟩, after) := by
  simp only [ensure, missing, compile_ok compiled]
  rfl

theorem ensure_failed (missing : unit.artifact? = none)
    (failed : unit.document.compile options generator = (.error error, after)) :
    unit.ensure options generator = (.error error, ⟨unit.document, none, .failed⟩, after) := by
  simp only [ensure, missing, compile_error failed]
  rfl

/-- Either the unit is ready to be written and has an artifact, or a stage of compiling failed. -/
theorem ensure_cases (unit : CompilationUnit) (options : CompileOptions) (generator : G) :
    (∃ next after artifact, unit.ensure options generator = (.ok ⟨⟩, next, after) ∧
      next.artifact? = some artifact) ∨
    ∃ error next after, unit.ensure options generator = (.error error, next, after) ∧
      error.IsStage := by
  cases stored : unit.artifact? with
  | some artifact => exact Or.inl ⟨unit, generator, artifact, ensure_stored stored, stored⟩
  | none =>
    rcases compile_cases unit options generator with ⟨artifact, after, compiled⟩ | ⟨error, after, failed⟩
    · exact Or.inl ⟨_, after, artifact, ensure_compiled stored compiled, rfl⟩
    · have stage := Document.compile_isStage (congrArg Prod.fst failed)
      exact Or.inr ⟨error, _, after, ensure_failed stored failed, stage⟩

theorem ensure_ready (ready : unit.ensure options generator = (.ok ⟨⟩, next, after)) :
    ∃ artifact, next.artifact? = some artifact := by
  rcases ensure_cases unit options generator with
    ⟨other, last, artifact, same, stored⟩ | ⟨error, other, last, failed, -⟩
  · rw [same, Prod.mk.injEq, Prod.mk.injEq] at ready
    exact ⟨artifact, ready.2.1 ▸ stored⟩
  · rw [failed, Prod.mk.injEq] at ready
    cases ready.1

section Dist

variable {State : Type} {system : FileSystem State} {files : State} {target : Path} {format : Format}

theorem dist_rejected (refused : options.formats.forDestination target = .error error) :
    unit.dist system files target options generator = ⟨.error error, unit, files, generator⟩ := by
  simp only [dist, refused]

theorem dist_failed (found : options.formats.forDestination target = .ok format)
    (failed : unit.ensure options generator = (.error error, next, after)) :
    unit.dist system files target options generator = ⟨.error error, next, files, after⟩ := by
  simp only [dist, found, failed]

theorem dist_written (found : options.formats.forDestination target = .ok format)
    (ready : unit.ensure options generator = (.ok ⟨⟩, next, after))
    (stored : next.artifact? = some artifact) :
    unit.dist system files target options generator =
      let (result, files) := system.write files target (format.marshal artifact).render
      ⟨result, next, files, after⟩ := by
  simp only [dist, found, ready, stored]

theorem dist_unit (found : options.formats.forDestination target = .ok format) :
    (unit.dist system files target options generator).unit = (unit.ensure options generator).2.1 := by
  rcases ensure_cases unit options generator with
    ⟨next, after, artifact, ready, stored⟩ | ⟨error, next, after, failed, -⟩
  · rw [dist_written found ready stored, ready]
  · rw [dist_failed found failed, failed]

/-- A dist fails for its target, in a stage of compiling, or where its file is written. -/
theorem dist_error_cases
    (failed : (unit.dist system files target options generator).result = .error error) :
    options.formats.forDestination target = .error error ∨ error.IsStage ∨
      ∃ text, (system.write files target text).1 = .error error := by
  cases found : options.formats.forDestination target with
  | error other =>
    rw [dist_rejected found] at failed
    exact Or.inl (congrArg Except.error (Except.error.inj failed))
  | ok format =>
    right
    rcases ensure_cases unit options generator with
      ⟨next, after, artifact, ready, stored⟩ | ⟨other, next, after, unready, stage⟩
    · rw [dist_written found ready stored] at failed
      exact Or.inr ⟨_, failed⟩
    · rw [dist_failed found unready] at failed
      obtain rfl := Except.error.inj failed
      exact Or.inl stage

theorem dist_noArtifact
    (missing : (unit.dist system files target options generator).result =
      .error (.input .noArtifact)) :
    ∃ text, (system.write files target text).1 = .error (.input .noArtifact) := by
  rcases dist_error_cases missing with refused | stage | unwritten
  · rcases FormatRegistry.forDestination_eq_error_iff.mp refused with ⟨-, other⟩ | ⟨key, -, -, other⟩
    · cases other
    · cases other
  · cases stage
  · exact unwritten

theorem dist_invalidDestination {path : Path}
    (refused : (unit.dist system files target options generator).result =
      .error (.invalidDestination path)) :
    (∀ key, ¬target.Names key) ∨
      ∃ text, (system.write files target text).1 = .error (.invalidDestination path) := by
  rcases dist_error_cases refused with rejected | stage | unwritten
  · rcases FormatRegistry.forDestination_eq_error_iff.mp rejected with
      ⟨unnamed, -⟩ | ⟨key, -, -, other⟩
    · exact Or.inl unnamed
    · cases other
  · cases stage
  · exact Or.inr unwritten

end Dist

/-- Something that is done with a unit; each brings options, a generator and files of its own. -/
inductive Operation : Type 1 where
  | compile {G : Type} [Engine G] (options : CompileOptions) (generator : G)
  | dist {State G : Type} [Engine G] (system : FileSystem State) (files : State) (target : Path)
      (options : CompileOptions) (generator : G)
  | parse
  /-- The artifact is taken from a copy of the unit. -/
  | toArtifact {G : Type} [Engine G] (options : CompileOptions) (generator : G)

namespace Operation

def apply (unit : CompilationUnit) : Operation → CompilationUnit
  | compile options generator => (unit.compile options generator).2.1
  | dist system files target options generator =>
    (unit.dist system files target options generator).unit
  | parse => unit
  | toArtifact _ _ => unit

def starts (unit : CompilationUnit) : Operation → Bool
  | compile _ _ => true
  | dist _ _ target options _ =>
    (options.formats.forDestination target).isOk && unit.artifact?.isNone
  | parse => false
  | toArtifact _ _ => false

end Operation

def run (unit : CompilationUnit) (operations : List Operation) : CompilationUnit :=
  operations.foldl Operation.apply unit

def started (unit : CompilationUnit) : List Operation → Bool
  | [] => false
  | operation :: rest => operation.starts unit || started (operation.apply unit) rest

/-- What holds of a unit of the document between operations; `compiled` tells whether a compilation
was started. -/
structure Settled (document : Document) (compiled : Bool) (unit : CompilationUnit) : Prop where
  document : unit.document = document
  resting : unit.state ≠ .compiling
  stored : unit.state = .compiled ↔ unit.artifact?.isSome = true
  created : unit.state = .created ↔ compiled = false

theorem settled_new (document : Document) : Settled document false { document } := by
  constructor <;> simp

section

variable {document : Document} {before : Bool}

theorem settled_compile (settled : Settled document before unit) (options : CompileOptions)
    (generator : G) : Settled document true (unit.compile options generator).2.1 := by
  rcases compile_cases unit options generator with ⟨artifact, after, compiled⟩ | ⟨error, after, failed⟩
  · rw [compile_ok compiled]
    exact ⟨settled.document, by simp, by simp, by simp⟩
  · rw [compile_error failed]
    exact ⟨settled.document, by simp, by simp, by simp⟩

theorem settled_ensure (settled : Settled document before unit) (options : CompileOptions)
    (generator : G) :
    Settled document (before || unit.artifact?.isNone) (unit.ensure options generator).2.1 := by
  cases stored : unit.artifact? with
  | some artifact =>
    rw [ensure_stored stored]
    simpa using settled
  | none =>
    rw [ensure_missing stored]
    simpa using settled_compile settled options generator

theorem settled_dist (settled : Settled document before unit) {State : Type}
    (system : FileSystem State) (files : State) (target : Path) (options : CompileOptions)
    (generator : G) :
    Settled document (before || (Operation.dist system files target options generator).starts unit)
      (unit.dist system files target options generator).unit := by
  cases found : options.formats.forDestination target with
  | error error =>
    rw [dist_rejected found]
    simpa [Operation.starts, found, Except.isOk, Except.toBool] using settled
  | ok format =>
    rw [dist_unit found]
    simpa [Operation.starts, found, Except.isOk, Except.toBool] using
      settled_ensure settled options generator

theorem settled_apply (settled : Settled document before unit) (operation : Operation) :
    Settled document (before || operation.starts unit) (operation.apply unit) := by
  cases operation with
  | compile options generator =>
    simp only [Operation.starts, Bool.or_true]
    exact settled_compile settled options generator
  | dist system files target options generator =>
    exact settled_dist settled system files target options generator
  | parse =>
    simp only [Operation.starts, Bool.or_false]
    exact settled
  | toArtifact options generator =>
    simp only [Operation.starts, Bool.or_false]
    exact settled

/-- By induction on the operations, from any unit on. -/
theorem settled_run (settled : Settled document before unit) (operations : List Operation) :
    Settled document (before || unit.started operations) (unit.run operations) := by
  induction operations generalizing unit before with
  | nil =>
    simp only [started, Bool.or_false]
    exact settled
  | cons operation rest ih =>
    have first := settled_apply settled operation
    simp only [started, ← Bool.or_assoc]
    exact ih first

end

/-- After any operations on a new unit, its state tells whether it has an artifact and whether a
compilation was started, and it is not compiling. Where it is made ready to be written it has an artifact,
so that no dist finds none. -/
theorem settled_after_operations (document : Document) (operations : List Operation) :
    let unit := run { document } operations
    Settled document (started { document } operations) unit ∧
    ∀ (G : Type) [Engine G] (options : CompileOptions) (generator : G),
      (∀ next after, unit.ensure options generator = (.ok ⟨⟩, next, after) →
        ∃ artifact, next.artifact? = some artifact) ∧
      ∀ (State : Type) (system : FileSystem State) (files : State) (target : Path),
        (unit.dist system files target options generator).result = .error (.input .noArtifact) →
          ∃ text, (system.write files target text).1 = .error (.input .noArtifact) := by
  refine ⟨?settled, fun G _ options generator => ⟨?ready, ?missing⟩⟩
  case settled => simpa using settled_run (settled_new document) operations
  case ready =>
    intro next after ready
    exact ensure_ready ready
  case missing =>
    intro State system files target missing
    exact dist_noArtifact missing

def localOptions : CompileOptions where
  loader := IncludeTable.loader {}

/-- A file system that refuses every write as if there were nothing to write. -/
def refusing : FileSystem Unit where
  read _ path := .error (.file path .notFound)
  write files _ _ := (.error (.input .noArtifact), files)
  glob _ _ _ := .ok []

def mishaps : List Operation := [
  .dist refusing ⟨⟩ ⟨"out".toList⟩ localOptions (Generator.seeded 0),
  .compile localOptions (Generator.refusing "offline".toList),
  .compile localOptions (Generator.seeded 0)]

theorem settled_after_operations_mishaps :
    let unit := run { document := { text := "a".toList } } mishaps
    unit.state = .compiled ∧
    (unit.dist refusing ⟨⟩ ⟨"a.json".toList⟩ localOptions (Generator.seeded 0)).result =
      .error (.input .noArtifact) ∧
    (∃ text, (refusing.write ⟨⟩ ⟨"a.json".toList⟩ text).1 = .error (.input .noArtifact)) ∧
    ∃ next after, unit.ensure localOptions (Generator.seeded 0) = (.ok ⟨⟩, next, after) ∧
      ∃ artifact, next.artifact? = some artifact := by
  obtain ⟨settled, later⟩ := settled_after_operations { text := "a".toList } mishaps
  obtain ⟨ready, only⟩ := later Generator localOptions (.seeded 0)
  have compiled : (run { document := { text := "a".toList } } mishaps).artifact?.isSome = true := by
    decide +kernel
  obtain ⟨artifact, stored⟩ := Option.isSome_iff_exists.mp compiled
  have held := @ensure_stored Generator _ _ localOptions (.seeded 0) artifact stored
  refine ⟨settled.stored.mpr compiled, ?missing, only _ _ _ _ ?missing, _, _, held, ready _ _ held⟩
  decide +kernel

end CompilationUnit
end ApiBlueprint

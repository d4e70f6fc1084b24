import ApiBlueprint.Files.Store
import ApiBlueprint.Proofs.Document.Lifecycle

/-!
The values of an artifact are those of its own text. Hence everything that is written of a unit until
it is compiled anew agrees, although the placeholders in the text were drawn at random: the texts are
one text, and the values are the values of this text.
-/

namespace ApiBlueprint

variable {G : Type} [Engine G]

/-- The values are those that stand in the text. -/
def Artifact.IsConsistent (artifact : Artifact) : Prop :=
  extractFixtures artifact.markdown = .ok artifact.fixtures

theorem Document.collect_isConsistent {document : Document} {markdown : Text} {artifact : Artifact}
    (collected : document.collect markdown = .ok artifact) : artifact.IsConsistent := by
  unfold collect at collected
  split at collected
  case h_1 fixtures extracted =>
    cases collected
    exact extracted
  case h_2 => cases collected

theorem Document.compile_isConsistent {document : Document} {options : CompileOptions}
    {generator : G} {artifact : Artifact}
    (compiled : (document.compile options generator).1 = .ok artifact) :
    artifact.IsConsistent := by
  unfold compile at compiled
  split at compiled
  · cases compiled
  · split at compiled
    · cases compiled
    · exact collect_isConsistent compiled

theorem Format.find?_standard {key : Text} {format : Format}
    (found : FormatRegistry.standard.find? key = some format) :
    (key = "apib".toList ∧ format = .apib) ∨ (key = "json".toList ∧ format = .json) := by
  have named : format.key = key := by simpa using List.find?_some found
  have listed : format ∈ [Format.apib, Format.json] := List.mem_of_find?_eq_some found
  rcases List.mem_pair.mp listed with rfl | rfl
  · exact .inl ⟨named.symm, rfl⟩
  · exact .inr ⟨named.symm, rfl⟩

namespace CompilationUnit

variable {unit : CompilationUnit} {options : CompileOptions} {generator : G}
  {artifact : Artifact}

def Consistent (unit : CompilationUnit) : Prop :=
  ∀ artifact, unit.artifact? = some artifact → artifact.IsConsistent

theorem consistent_new (document : Document) : Consistent { document } := by
  intro artifact stored
  cases stored

theorem consistent_compile (unit : CompilationUnit) (options : CompileOptions)
    (generator : G) : (unit.compile options generator).2.1.Consistent := by
  rcases compile_cases unit options generator with ⟨artifact, after, compiled⟩ | ⟨error, after, failed⟩
  · rw [compile_ok compiled]
    intro stored same
    cases same
    exact Document.compile_isConsistent (congrArg Prod.fst compiled)
  · rw [compile_error failed]
    intro stored same
    cases same

theorem ensure_unit (unit : CompilationUnit) (options : CompileOptions) (generator : G) :
    (unit.ensure options generator).2.1 = unit ∨
      unit.artifact? = none ∧
        (unit.ensure options generator).2.1 = (unit.compile options generator).2.1 := by
  cases stored : unit.artifact? with
  | some artifact =>
    rw [ensure_stored stored]
    exact .inl rfl
  | none => exact .inr ⟨rfl, ensure_missing stored⟩

theorem dist_unit_cases {State : Type} (unit : CompilationUnit) (system : FileSystem State)
    (files : State) (target : Path) (options : CompileOptions) (generator : G) :
    (unit.dist system files target options generator).unit = unit ∨
      unit.artifact? = none ∧ (unit.dist system files target options generator).unit =
        (unit.compile options generator).2.1 := by
  cases found : options.formats.forDestination target with
  | error error =>
    rw [dist_rejected found]
    exact .inl rfl
  | ok format =>
    rw [dist_unit found]
    exact ensure_unit unit options generator

/-- A dist that succeeds writes the artifact that the unit has afterwards. -/
theorem dist_succeeded {State : Type} {system : FileSystem State} {files : State} {target : Path}
    (succeeded : (unit.dist system files target options generator).result = .ok ⟨⟩) :
    ∃ format artifact, options.formats.forDestination target = .ok format ∧
      (unit.dist system files target options generator).unit.artifact? = some artifact ∧
      system.write files target (format.marshal artifact).render =
        (.ok ⟨⟩, (unit.dist system files target options generator).files) := by
  cases found : options.formats.forDestination target with
  | error error =>
    rw [dist_rejected found] at succeeded
    cases succeeded
  | ok format =>
    rcases ensure_cases unit options generator with
      ⟨next, after, artifact, ready, stored⟩ | ⟨error, next, after, failed, -⟩
    · rw [dist_written found ready stored] at succeeded ⊢
      exact ⟨format, artifact, rfl, stored, Prod.ext succeeded rfl⟩
    · rw [dist_failed found failed] at succeeded
      cases succeeded

/-- The operation compiles the document in any case. -/
def Operation.recompiles : Operation → Bool
  | compile _ _ => true
  | dist _ _ _ _ _ => false
  | parse => false
  | toArtifact _ _ => false

theorem consistent_apply (consistent : unit.Consistent) (operation : Operation) :
    (operation.apply unit).Consistent := by
  cases operation with
  | compile options generator => exact consistent_compile unit options generator
  | dist system files target options generator =>
    rcases dist_unit_cases unit system files target options generator with same | ⟨-, compiled⟩
    · rw [Operation.apply, same]
      exact consistent
    · rw [Operation.apply, compiled]
      exact consistent_compile unit options generator
  | parse => exact consistent
  | toArtifact options generator => exact consistent

theorem stored_apply (stored : unit.artifact? = some artifact) {operation : Operation}
    (keeps : operation.recompiles = false) :
    (operation.apply unit).artifact? = some artifact := by
  cases operation with
  | compile options generator => cases keeps
  | dist system files target options generator =>
    rcases dist_unit_cases unit system files target options generator with same | ⟨missing, -⟩
    · rw [Operation.apply, same]
      exact stored
    · rw [stored] at missing
      cases missing
  | parse => exact stored
  | toArtifact options generator => exact stored

theorem consistent_run (consistent : unit.Consistent) (operations : List Operation) :
    (unit.run operations).Consistent := by
  induction operations generalizing unit with
  | nil => exact consistent
  | cons operation rest ih => exact ih (consistent_apply consistent operation)

theorem stored_run (stored : unit.artifact? = some artifact) {operations : List Operation}
    (keep : ∀ operation ∈ operations, operation.recompiles = false) :
    (unit.run operations).artifact? = some artifact := by
  induction operations generalizing unit with
  | nil => exact stored
  | cons operation rest ih =>
    have first := stored_apply stored (keep operation List.mem_cons_self)
    exact ih first fun other member => keep other (List.mem_cons_of_mem operation member)

theorem run_append_cons (unit : CompilationUnit) (before rest : List Operation)
    (operation : Operation) :
    unit.run (before ++ operation :: rest) = (operation.apply (unit.run before)).run rest := by
  simp only [run, List.foldl_append, List.foldl_cons]

/-- What is written to a target: the text under one extension, its values under the other. -/
def Shows (markdown : Text) (fixtures : List Json) (target : Path) (contents : Text) : Prop :=
  (target.Names "apib".toList ∧ contents = markdown) ∨
    (target.Names "json".toList ∧ contents = (Json.array fixtures).pretty ++ ['\n'])

theorem shows_marshal {target : Path} {format : Format}
    (found : FormatRegistry.standard.forDestination target = .ok format) (artifact : Artifact) :
    Shows artifact.markdown artifact.fixtures target (format.marshal artifact).render := by
  obtain ⟨key, names, registered⟩ := FormatRegistry.forDestination_eq_ok_iff.mp found
  rcases Format.find?_standard registered with ⟨rfl, rfl⟩ | ⟨rfl, rfl⟩
  · exact .inl ⟨names, rfl⟩
  · exact .inr ⟨names, rfl⟩

/-- A unit that was reached by any operations is consistent. From there on, as long as nothing
compiles it in any case, all dists that succeed in the standard formats show one text and the values
of this text, whatever their options, engines and files are and whatever fails in between. -/
theorem dists_agree (document : Document) (operations later : List Operation)
    (keep : ∀ operation ∈ later, operation.recompiles = false) :
    let unit := run { document } operations
    unit.Consistent ∧
    ∃ markdown fixtures, extractFixtures markdown = .ok fixtures ∧
      ∀ (before rest : List Operation) (State G : Type) [Engine G] (system : FileSystem State)
        (files : State) (target : Path) (options : CompileOptions) (generator : G),
        later = before ++ .dist system files target options generator :: rest →
        options.formats = .standard →
        let outcome := (unit.run before).dist system files target options generator
        outcome.result = .ok ⟨⟩ →
          ∃ contents, Shows markdown fixtures target contents ∧
            system.write files target contents = (.ok ⟨⟩, outcome.files) := by
  intro unit
  have consistent : unit.Consistent := consistent_run (consistent_new document) operations
  refine ⟨consistent, ?_⟩
  -- What a dist writes is stored from then on, so it is the artifact at the end.
  have last (before rest : List Operation) (State G : Type) [Engine G] (system : FileSystem State)
      (files : State) (target : Path) (options : CompileOptions) (generator : G)
      (place : later = before ++ .dist system files target options generator :: rest)
      (standard : options.formats = .standard)
      (succeeded :
        ((unit.run before).dist system files target options generator).result = .ok ⟨⟩) :
      ∃ artifact, (unit.run later).artifact? = some artifact ∧
        ∃ contents, Shows artifact.markdown artifact.fixtures target contents ∧
          system.write files target contents =
            (.ok ⟨⟩, ((unit.run before).dist system files target options generator).files) := by
    obtain ⟨format, artifact, found, stored, written⟩ := dist_succeeded succeeded
    rw [standard] at found
    refine ⟨artifact, ?_, _, shows_marshal found artifact, written⟩
    rw [place, run_append_cons]
    apply stored_run stored
    intro operation member
    apply keep
    rw [place]
    exact List.mem_append_right _ (List.mem_cons_of_mem _ member)
  cases stored : (unit.run later).artifact? with
  | none =>
    refine ⟨[], [], by cbv, ?_⟩
    intro before rest State G engine system files target options generator place standard outcome succeeded
    obtain ⟨artifact, found, -⟩ :=
      last before rest State G system files target options generator place standard succeeded
    rw [stored] at found
    cases found
  | some artifact =>
    refine ⟨artifact.markdown, artifact.fixtures, consistent_run consistent later artifact stored, ?_⟩
    intro before rest State G engine system files target options generator place standard outcome succeeded
    obtain ⟨written, found, shown⟩ :=
      last before rest State G system files target options generator place standard succeeded
    rw [stored] at found
    cases found
    exact shown

def ticket : Document := { text := "\x7b\"id\": |~number.int|\x7d".toList }

def copies : List Operation := [
  .dist Store.fileSystem {} ⟨"a.json".toList⟩ localOptions (Generator.refusing "offline".toList),
  .dist Store.fileSystem {} ⟨"a.apib".toList⟩ localOptions (Generator.seeded 1),
  .dist Store.fileSystem {} ⟨"a.json".toList⟩ localOptions (Generator.seeded 2)]

theorem dists_agree_copies :
    (∀ operation ∈ copies, operation.recompiles = false) ∧
    (ticket.compile localOptions (Generator.seeded 1)).1.toOption.map Artifact.markdown ≠
      (ticket.compile localOptions (Generator.seeded 2)).1.toOption.map Artifact.markdown ∧
    ∃ markdown fixtures, extractFixtures markdown = .ok fixtures ∧
      (∃ contents, Shows markdown fixtures ⟨"a.apib".toList⟩ contents ∧
        (Store.write {} ⟨"a.apib".toList⟩ contents) =
          ((run { document := ticket } (copies.take 1)).dist Store.fileSystem {} ⟨"a.apib".toList⟩
            localOptions (Generator.seeded 1)).files) ∧
      ∃ contents, Shows markdown fixtures ⟨"a.json".toList⟩ contents ∧
        (Store.write {} ⟨"a.json".toList⟩ contents) =
          ((run { document := ticket } (copies.take 2)).dist Store.fileSystem {} ⟨"a.json".toList⟩
            localOptions (Generator.seeded 2)).files := by
  have keep : ∀ operation ∈ copies, operation.recompiles = false := by
    simp [copies, Operation.recompiles]
  obtain ⟨-, markdown, fixtures, extracted, shown⟩ := dists_agree ticket [] copies keep
  refine ⟨keep, by decide +kernel, markdown, fixtures, extracted, ?text, ?values⟩
  case text =>
    obtain ⟨contents, shows, written⟩ :=
      shown (copies.take 1) (copies.drop 2) Store _ _ _ _ _ _ rfl rfl (by decide +kernel)
    exact ⟨contents, shows, congrArg Prod.snd written⟩
  case values =>
    obtain ⟨contents, shows, written⟩ :=
      shown (copies.take 2) [] Store _ _ _ _ _ _ rfl rfl (by decide +kernel)
    exact ⟨contents, shows, congrArg Prod.snd written⟩

end CompilationUnit
end ApiBlueprint

import ApiBlueprint.Files.Import
import ApiBlueprint.Files.Store
import ApiBlueprint.Include.Table
import ApiBlueprint.Proofs.Document.Schedule

/-!
Which documents draw from the generator of their batch, and what a batch returns when its members
run in another order.
-/

namespace ApiBlueprint

namespace Placeholder

/-- Some known token stands in the text. -/
def draws (text : Text) : Bool :=
  (pieces text).any fun piece =>
    match piece with
    | .literal _ => false
    | .token name => (ofToken? name).isSome

theorem replace_still {parts : List TextPiece}
    (still : ∀ name, .token name ∈ parts → ofToken? name = none) (stream stream' : RandomStream) :
    replace parts stream = ((replace parts stream').1, stream) := by
  induction parts with
  | nil => rfl
  | cons part rest ih =>
    have later := ih fun name inside => still name (List.mem_cons_of_mem part inside)
    cases part with
    | literal c => simp only [replace, later]
    | token name => simp only [replace, still name List.mem_cons_self, later]

theorem interpolate_still {text : Text} (still : draws text = false) (stream stream' : RandomStream) :
    interpolate text stream = ((interpolate text stream').1, stream) := by
  have unknown (name : Text) (inside : .token name ∈ pieces text) : ofToken? name = none := by
    have none := List.any_eq_false.mp still _ inside
    simpa using none
  simp only [interpolate]
  rw [replace_still unknown stream stream']
  cases firstUnknown? (pieces text) <;> rfl

end Placeholder

namespace Document

def draws (options : CompileOptions) (document : Document) : Bool :=
  match transclude options.loader options.maxDepth document.base document.text with
  | .ok embedded => Placeholder.draws embedded
  | .error _ => false

end Document

def FileSystem.draws {State : Type} (system : FileSystem State) (files : State)
    (options : CompileOptions) (path : Path) : Bool :=
  !path.isEmpty &&
    match system.read files path with
    | .ok text => ({ text, origin := path } : Document).draws options
    | .error _ => false

theorem Generator.process_random (stream : RandomStream) (text : Text) :
    ∃ after, ((random stream).process text).2 = .random after :=
  ⟨_, rfl⟩

theorem Generator.process_still {text : Text} (still : Placeholder.draws text = false)
    (stream stream' : RandomStream) :
    (random stream).process text = (((random stream').process text).1, .random stream) := by
  simp only [process]
  rw [Placeholder.interpolate_still still stream stream']

theorem Document.compile_drawsOnly (options : CompileOptions) :
    Batch.DrawsOnly (fun document => document.compile options) (Document.draws options) where
  random document stream := by
    simp only [compile, Generator.engine_process]
    split
    · exact ⟨stream, rfl⟩
    · rename_i embedded _
      obtain ⟨after, moved⟩ := Generator.process_random stream embedded
      cases processed : (Generator.random stream).process embedded with
      | mk result generator =>
        rw [processed] at moved
        cases result <;> exact ⟨after, moved⟩
  still document still stream stream' := by
    simp only [compile, Generator.engine_process]
    unfold draws at still
    cases found : transclude options.loader options.maxDepth document.base document.text with
    | error fault => rfl
    | ok embedded =>
      rw [found] at still
      simp only [Generator.process_still still stream stream']
      cases processed : (Generator.random stream').process embedded with
      | mk result generator => cases result <;> rfl

theorem FileSystem.compileFile_drawsOnly {State : Type} (system : FileSystem State) (files : State)
    (options : CompileOptions) :
    Batch.DrawsOnly (system.compileFile files options) (system.draws files options) where
  random path stream := by
    unfold compileFile
    split
    · exact ⟨stream, rfl⟩
    · split
      · exact ⟨stream, rfl⟩
      · exact (Document.compile_drawsOnly options).random _ stream
  still path still stream stream' := by
    unfold compileFile
    unfold draws at still
    split
    · rfl
    · rename_i named
      cases found : system.read files path with
      | error error => rfl
      | ok text =>
        rw [found] at still
        have quiet : ({ text, origin := path } : Document).draws options = false := by
          simpa [named] using still
        exact (Document.compile_drawsOnly options).still _ quiet stream stream'

namespace Batch

/-- Documents or files, with a seeded generator: two ways to run them in which those that draw do so
in the same order return the same artifacts. -/
theorem artifacts_eq_of_drawing_order (State : Type) (seed : UInt64) (options : CompileOptions) :
    (∀ (documents : List Document)
      (left right : Schedule (fun document => document.compile options) documents (Generator.seeded seed)),
      left.drawing (Document.draws options) = right.drawing (Document.draws options) →
        left.artifacts? = right.artifacts?) ∧
    ∀ (system : FileSystem State) (files : State) (paths : List Path)
      (left right : Schedule (system.compileFile files options) paths (Generator.seeded seed)),
      left.drawing (system.draws files options) = right.drawing (system.draws files options) →
        left.artifacts? = right.artifacts? := by
  constructor
  · intro documents left right drawing
    exact Schedule.artifacts_eq_of_drawing (Document.compile_drawsOnly options) left right drawing
  · intro system files paths left right drawing
    have drawsOnly := system.compileFile_drawsOnly files options
    exact Schedule.artifacts_eq_of_drawing drawsOnly left right drawing

def plainOptions : CompileOptions where
  loader := IncludeTable.loader {}

def numbered : List Text :=
  ["a |~number.int|".toList, "plain".toList, "b |~number.int|".toList]

def numberedDocuments : List Document := numbered.map fun text => ⟨text, none⟩

/-- Whichever document runs first gets the first number. -/
theorem artifacts_depend_on_order :
    ∃ left right : Schedule (fun document => document.compile plainOptions) numberedDocuments
        (Generator.seeded 0),
      left.artifacts?.map (List.map Artifact.markdown) =
        some ["a 8014".toList, "plain".toList, "b 7311".toList] ∧
      right.artifacts?.map (List.map Artifact.markdown) =
        some ["a 7311".toList, "plain".toList, "b 8014".toList] :=
  ⟨.inOrder _ _, .lastFirst _ (List.reverse_perm _), by decide +kernel, by decide +kernel⟩

def numberedPaths : List Path := [⟨"a.apib".toList⟩, ⟨"b.apib".toList⟩, ⟨"c.apib".toList⟩]

def numberedFiles : Store := .ofList (numberedPaths.zip numbered)

/-- The second member, which draws nothing, runs first and comes in last. -/
theorem artifacts_eq_of_drawing_order_numbered :
    (∃ left right : Schedule (fun document => document.compile plainOptions) numberedDocuments
        (Generator.seeded 0),
      left.order ≠ right.order ∧
      left.drawing (Document.draws plainOptions) = right.drawing (Document.draws plainOptions) ∧
      left.artifacts? = right.artifacts?) ∧
    ∃ left right : Schedule (Store.fileSystem.compileFile numberedFiles plainOptions) numberedPaths
        (Generator.seeded 0),
      left.order ≠ right.order ∧
      left.drawing (Store.fileSystem.draws numberedFiles plainOptions) =
        right.drawing (Store.fileSystem.draws numberedFiles plainOptions) ∧
      left.artifacts? = right.artifacts? := by
  obtain ⟨documents, files⟩ := artifacts_eq_of_drawing_order Store 0 plainOptions
  constructor
  · refine ⟨.inOrder _ _, .secondFirst _ _, by decide, ?drawing, documents _ _ _ ?drawing⟩
    decide +kernel
  · refine ⟨.inOrder _ _, .secondFirst _ _, by decide, ?read, files _ _ _ _ _ ?read⟩
    decide +kernel

end Batch

end ApiBlueprint

import ApiBlueprint.Files.Import
import ApiBlueprint.Files.Project
import ApiBlueprint.Files.Store
import ApiBlueprint.Proofs.Document.Lifecycle
import ApiBlueprint.Proofs.Document.Schedule
import Mathlib.Data.List.Forall2
import Mathlib.Data.List.Perm.Basic

/-!
What a batch makes of the results of its members, in whatever order they come in: all artifacts in
the order of the members, or the error of the member that is the first to fail.
-/

namespace ApiBlueprint

namespace Batch

/-- The result of a member and its place in the batch. -/
abbrev Entry := Except CompileError Artifact × Nat

def report (entry : Entry) : Outcome := entry.1.map fun artifact => (entry.2, artifact)

/-- Of the entries that have errors, the first one has the given error. -/
def FailsFirst (order : List Entry) (error : CompileError) : Prop :=
  ∃ before index after, order = before ++ (.error error, index) :: after ∧
    ∀ entry ∈ before, entry.1.isOk = true

theorem isOk_iff {result : Except CompileError Artifact} :
    result.isOk = true ↔ ∃ artifact, result = .ok artifact := by
  cases result <;> simp [Except.isOk, Except.toBool]

theorem succeed_or_failsFirst (order : List Entry) :
    (∀ entry ∈ order, entry.1.isOk = true) ∨ ∃ error, FailsFirst order error := by
  induction order with
  | nil => exact Or.inl (by simp)
  | cons entry rest ih =>
    obtain ⟨result, index⟩ := entry
    cases result with
    | error error => exact Or.inr ⟨error, [], index, rest, rfl, by simp⟩
    | ok artifact =>
      rcases ih with succeed | ⟨error, before, place, after, rfl, succeed⟩
      · exact Or.inl (List.forall_mem_cons.mpr ⟨rfl, succeed⟩)
      · exact Or.inr ⟨error, _ :: before, place, after, rfl, List.forall_mem_cons.mpr ⟨rfl, succeed⟩⟩

theorem fill_failsFirst {order : List Entry} {error : CompileError} (fails : FailsFirst order error)
    (slots : List (Option Artifact)) : fill slots (order.map report) = .error error := by
  obtain ⟨before, index, after, rfl, succeed⟩ := fails
  induction before generalizing slots with
  | nil => rfl
  | cons entry rest ih =>
    obtain ⟨first, others⟩ := List.forall_mem_cons.mp succeed
    obtain ⟨result, place⟩ := entry
    obtain ⟨artifact, rfl⟩ := isOk_iff.mp first
    exact ih _ others

/-- The slots when the members at the given places have come in: theirs hold their own artifacts and
all others nothing. -/
def slotsAfter (results : List (Except CompileError Artifact)) (places : List Nat) :
    List (Option Artifact) :=
  results.mapIdx fun index result => if index ∈ places then result.toOption else none

theorem slotsAfter_nil (results : List (Except CompileError Artifact)) :
    slotsAfter results [] = List.replicate results.length none := by
  simp [slotsAfter, List.eq_replicate_iff, List.mem_mapIdx]

theorem slotsAfter_set {results : List (Except CompileError Artifact)} {artifact : Artifact}
    {index : Nat} (own : results[index]? = some (.ok artifact)) (places : List Nat) :
    (slotsAfter results places).set index (some artifact) = slotsAfter results (index :: places) := by
  apply List.ext_getElem?
  intro place
  simp only [slotsAfter, List.getElem?_set', List.getElem?_mapIdx, List.mem_cons]
  by_cases same : index = place
  · subst same
    simp [own, Except.toOption]
  · have other : place ≠ index := fun equal => same equal.symm
    simp [same, other]

/-- By induction on the order, with the places of the members that have come in so far. -/
theorem fill_succeeds {results : List (Except CompileError Artifact)} {order : List Entry}
    (own : ∀ entry ∈ order, results[entry.2]? = some entry.1)
    (succeed : ∀ entry ∈ order, entry.1.isOk = true) (places : List Nat) :
    fill (slotsAfter results places) (order.map report) =
      .ok (slotsAfter results ((order.map Prod.snd).reverse ++ places)) := by
  induction order generalizing places with
  | nil => rfl
  | cons entry rest ih =>
    obtain ⟨first, others⟩ := List.forall_mem_cons.mp succeed
    obtain ⟨ownFirst, ownOthers⟩ := List.forall_mem_cons.mp own
    obtain ⟨result, index⟩ := entry
    obtain ⟨artifact, rfl⟩ := isOk_iff.mp first
    calc
      fill (slotsAfter results places) (((.ok artifact, index) :: rest).map report) =
          fill ((slotsAfter results places).set index (some artifact)) (rest.map report) := rfl
      _ = fill (slotsAfter results (index :: places)) (rest.map report) := by
        rw [slotsAfter_set ownFirst]
      _ = .ok (slotsAfter results ((rest.map Prod.snd).reverse ++ index :: places)) :=
        ih ownOthers others _
      _ = _ := by simp

theorem slotsAfter_all {artifacts : List Artifact} {places : List Nat}
    (all : ∀ index < artifacts.length, index ∈ places) :
    slotsAfter (artifacts.map .ok) places = artifacts.map some := by
  apply List.ext_getElem?
  intro index
  simp only [slotsAfter, List.getElem?_mapIdx, List.getElem?_map, Option.map_map]
  cases found : artifacts[index]? with
  | none => rfl
  | some artifact =>
    have inside := all index (List.getElem?_eq_some_iff.mp found).1
    simp [inside, Except.toOption]

theorem mapM_some (artifacts : List Artifact) : (artifacts.map some).mapM id = some artifacts := by
  induction artifacts with
  | nil => rfl
  | cons artifact rest ih => simp [ih]

section

variable {results : List (Except CompileError Artifact)} {order : List Entry}

theorem joinInOrder_failsFirst {error : CompileError} (fails : FailsFirst order error) (total : Nat) :
    joinInOrder total (order.map report) = .error error := by
  unfold joinInOrder
  rw [fill_failsFirst fails]
  rfl

theorem own_of_perm (complete : order.Perm results.zipIdx) :
    ∀ entry ∈ order, results[entry.2]? = some entry.1 := by
  intro entry member
  exact List.mem_zipIdx_iff_getElem?.mp (complete.mem_iff.mp member)

theorem joinInOrder_succeeds {artifacts : List Artifact}
    (complete : order.Perm (artifacts.map Except.ok).zipIdx) :
    joinInOrder artifacts.length (order.map report) = .ok artifacts := by
  have own := own_of_perm complete
  have succeed : ∀ entry ∈ order, entry.1.isOk = true := by
    intro entry member
    obtain ⟨artifact, -, equal⟩ := List.mem_map.mp (List.mem_of_getElem? (own entry member))
    exact isOk_iff.mpr ⟨artifact, equal.symm⟩
  have all : ∀ index < artifacts.length, index ∈ (order.map Prod.snd).reverse ++ [] := by
    intro index inside
    have places : index ∈ order.map Prod.snd ↔ index ∈ (artifacts.map Except.ok).zipIdx.map Prod.snd :=
      (complete.map Prod.snd).mem_iff
    rw [List.zipIdx_map_snd] at places
    simpa using places.mpr (by simpa using inside)
  have filled := fill_succeeds own succeed []
  rw [slotsAfter_nil, List.length_map, slotsAfter_all all] at filled
  unfold joinInOrder
  rw [filled]
  simp only [bind, Except.bind, mapM_some]
  rfl

theorem eq_map_ok_of_succeed (succeed : ∀ result ∈ results, result.isOk = true) :
    ∃ artifacts : List Artifact, results = artifacts.map .ok := by
  induction results with
  | nil => exact ⟨[], rfl⟩
  | cons result rest ih =>
    obtain ⟨first, others⟩ := List.forall_mem_cons.mp succeed
    obtain ⟨artifact, rfl⟩ := isOk_iff.mp first
    obtain ⟨artifacts, rfl⟩ := ih others
    exact ⟨artifact :: artifacts, rfl⟩

theorem succeed_or_failsFirst_of_perm (complete : order.Perm results.zipIdx) :
    (∃ artifacts : List Artifact, results = artifacts.map .ok) ∨ ∃ error, FailsFirst order error := by
  rcases succeed_or_failsFirst order with succeed | fails
  · left
    apply eq_map_ok_of_succeed
    intro result member
    rw [← List.zipIdx_map_fst 0 results] at member
    obtain ⟨entry, inside, rfl⟩ := List.mem_map.mp member
    exact succeed entry (complete.mem_iff.mpr inside)
  · exact Or.inr fails

theorem joinInOrder_ok_iff (complete : order.Perm results.zipIdx) {artifacts : List Artifact} :
    joinInOrder results.length (order.map report) = .ok artifacts ↔ results = artifacts.map .ok := by
  constructor
  · intro joined
    rcases succeed_or_failsFirst_of_perm complete with ⟨others, rfl⟩ | ⟨error, fails⟩
    · have equal := joinInOrder_succeeds complete
      rw [List.length_map, equal, Except.ok.injEq] at joined
      rw [joined]
    · rw [joinInOrder_failsFirst fails] at joined
      cases joined
  · rintro rfl
    rw [List.length_map]
    exact joinInOrder_succeeds complete

theorem joinInOrder_error_iff (complete : order.Perm results.zipIdx) {error : CompileError} :
    joinInOrder results.length (order.map report) = .error error ↔ FailsFirst order error := by
  constructor
  · intro joined
    rcases succeed_or_failsFirst_of_perm complete with ⟨artifacts, rfl⟩ | ⟨first, fails⟩
    · rw [List.length_map, joinInOrder_succeeds complete] at joined
      cases joined
    · rw [joinInOrder_failsFirst fails, Except.error.injEq] at joined
      exact joined ▸ fails
  · intro fails
    exact joinInOrder_failsFirst fails _

end

section Members

variable {Member G : Type} {compile : Member → G → Except CompileError Artifact × G}

def EntryOf (compile : Member → G → Except CompileError Artifact × G)
    (member : Member × Nat) (entry : Entry) : Prop :=
  entry.2 = member.2 ∧ ∃ generator, entry.1 = (compile member.1 generator).1

theorem run_entries (order : List (Member × Nat)) (generator : G) :
    ∃ entries, (run compile order generator).1 = entries.map report ∧
      List.Forall₂ (EntryOf compile) order entries := by
  induction order generalizing generator with
  | nil => exact ⟨[], rfl, .nil⟩
  | cons member rest ih =>
    obtain ⟨entries, reported, each⟩ := ih (compile member.1 generator).2
    refine ⟨((compile member.1 generator).1, member.2) :: entries, ?_, .cons ⟨rfl, generator, rfl⟩ each⟩
    simp only [run, reported, List.map_cons]
    rfl

/-- By induction on the members, from any place on. -/
theorem entries_zipIdx {members : List Member} {start : Nat} {entries : List Entry}
    (each : List.Forall₂ (EntryOf compile) (members.zipIdx start) entries) :
    ∃ results, entries = results.zipIdx start ∧
      List.Forall₂ (fun member result => ∃ generator, result = (compile member generator).1)
        members results := by
  induction members generalizing start entries with
  | nil =>
    cases each
    exact ⟨[], rfl, .nil⟩
  | cons member rest ih =>
    rw [List.zipIdx_cons] at each
    cases each with
    | @cons _ entry _ others first later =>
      obtain ⟨result, index⟩ := entry
      obtain ⟨rfl, own⟩ := first
      obtain ⟨results, rfl, ran⟩ := ih later
      exact ⟨result :: results, rfl, .cons own ran⟩

/-- However a batch is run, the outcomes that come in are those of results of its members. -/
theorem Schedule.exists_results {members : List Member} {generator : G}
    (schedule : Schedule compile members generator) :
    ∃ (results : List (Except CompileError Artifact)) (order : List Entry),
      List.Forall₂ (fun member result => ∃ generator, result = (compile member generator).1)
        members results ∧
      order.Perm results.zipIdx ∧ schedule.arrivals = order.map report := by
  obtain ⟨entries, reported, each⟩ :
      ∃ entries, (run compile schedule.order generator).1 = entries.map report ∧
        List.Forall₂ (EntryOf compile) schedule.order entries := run_entries _ _
  obtain ⟨placed, eachPlaced, same⟩ := List.perm_comp_forall₂ schedule.order_perm.symm each
  obtain ⟨results, rfl, ran⟩ := entries_zipIdx eachPlaced
  have arrived : schedule.arrivals.Perm (entries.map report) := reported ▸ schedule.arrivals_perm
  obtain ⟨order, equal, complete⟩ := (congrFun₂ (List.eq_map_comp_perm report) _ _).mpr arrived
  exact ⟨results, order, ran, complete.trans same.symm, equal⟩

theorem Schedule.error_of_member {members : List Member} {generator : G}
    (schedule : Schedule compile members generator) {error : CompileError}
    (failed : joinInOrder members.length schedule.arrivals = .error error) :
    ∃ member ∈ members, ∃ generator, (compile member generator).1 = .error error := by
  obtain ⟨results, order, ran, complete, arrived⟩ := schedule.exists_results
  rw [arrived, ran.length_eq, joinInOrder_error_iff complete] at failed
  obtain ⟨before, index, after, rfl, -⟩ := failed
  have own := own_of_perm complete (.error error, index) (List.mem_append_right _ List.mem_cons_self)
  obtain ⟨inside, equal⟩ := List.getElem?_eq_some_iff.mp own
  have present : index < members.length := ran.length_eq ▸ inside
  obtain ⟨used, result⟩ := ran.get present inside
  exact ⟨members[index], List.getElem_mem present, used, result.symm.trans equal⟩

def Schedule.joined {members : List Member} {generator : G}
    (schedule : Schedule compile members generator) : Except CompileError (List Artifact) :=
  joinInOrder members.length schedule.arrivals

def Schedule.Succeeds {members : List Member} {generator : G}
    (schedule : Schedule compile members generator) : Prop :=
  ∀ outcome ∈ schedule.arrivals, outcome.isOk = true

theorem Schedule.joined_of_succeeds {members : List Member} {generator : G}
    {schedule : Schedule compile members generator} (succeeds : schedule.Succeeds) :
    ∃ artifacts, schedule.joined = .ok artifacts ∧
      List.Forall₂ (fun member artifact => ∃ generator, (compile member generator).1 = .ok artifact)
        members artifacts := by
  obtain ⟨results, order, ran, complete, arrived⟩ := schedule.exists_results
  have succeed : ∀ result ∈ results, result.isOk = true := by
    intro result member
    rw [← List.zipIdx_map_fst 0 results] at member
    obtain ⟨entry, inside, rfl⟩ := List.mem_map.mp member
    have reported := succeeds (report entry)
      (arrived ▸ List.mem_map_of_mem (complete.mem_iff.mpr inside))
    unfold report at reported
    cases result : entry.1 with
    | error error =>
      rw [result] at reported
      cases reported
    | ok artifact => rfl
  obtain ⟨artifacts, rfl⟩ := eq_map_ok_of_succeed succeed
  refine ⟨artifacts, ?_, (List.forall₂_map_right_iff.mp ran).imp ?_⟩
  · have count : members.length = artifacts.length := by simpa using ran.length_eq
    unfold joined
    rw [arrived, count]
    exact joinInOrder_succeeds complete
  · rintro member artifact ⟨generator, came⟩
    exact ⟨generator, came.symm⟩

end Members

end Batch

variable {G : Type} [Engine G]

theorem Document.compile_ne_unfinished (document : Document) (options : CompileOptions)
    (generator : G) : (document.compile options generator).1 ≠ .error .unfinished := by
  intro equal
  cases Document.compile_isStage equal

theorem FileSystem.compileFile_error {State : Type} {system : FileSystem State} {files : State}
    {options : CompileOptions} {path : Path} {generator : G} {error : CompileError}
    (failed : (system.compileFile files options path generator).1 = .error error) :
    error = .input .noPath ∨ system.read files path = .error error ∨ error.IsStage := by
  unfold compileFile at failed
  split at failed
  · exact Or.inl (Except.error.inj failed).symm
  · split at failed
    · rename_i other unread
      obtain rfl := Except.error.inj failed
      exact Or.inr (Or.inl unread)
    · exact Or.inr (Or.inr (Document.compile_isStage failed))

theorem FileSystem.read_unfinished {State : Type} {system : FileSystem State} {files : State}
    {options : CompileOptions} {path : Path} {generator : G}
    (equal : (system.compileFile files options path generator).1 = .error .unfinished) :
    system.read files path = .error .unfinished := by
  rcases compileFile_error equal with other | unread | stage
  · cases other
  · exact unread
  · cases stage

theorem Store.read_error {store : Store} {path : Path} {error : CompileError}
    (failed : store.read path = .error error) : error = .file path .unregistered := by
  unfold read at failed
  split at failed
  · cases failed
  · exact (Except.error.inj failed).symm

theorem Project.read_error {project : Project} {tree : FileTree} {path : Path} {error : CompileError}
    (failed : project.read tree path = .error error) :
    ∃ fault, error = .file (project.resolve path) fault := by
  obtain ⟨fault, -, rfl⟩ := mapError_eq_error.mp failed
  exact ⟨fault, rfl⟩

theorem Store.read_ne_unfinished (store : Store) (path : Path) :
    store.read path ≠ .error .unfinished := by
  intro failed
  cases Store.read_error failed

theorem Project.read_ne_unfinished (project : Project) (tree : FileTree) (path : Path) :
    project.read tree path ≠ .error .unfinished := by
  intro failed
  obtain ⟨fault, other⟩ := Project.read_error failed
  cases other

namespace Batch

/-- In whatever way the members run, none is found missing when all have come in. -/
def Completes {Member G : Type} (compile : Member → G → Except CompileError Artifact × G)
    (members : List Member) : Prop :=
  ∀ (generator : G) (schedule : Schedule compile members generator),
    joinInOrder members.length schedule.arrivals ≠ .error .unfinished

theorem documents_complete (options : CompileOptions) (documents : List Document) :
    Completes (fun document (generator : G) => document.compile options generator) documents := by
  intro generator schedule unfinished
  obtain ⟨document, -, used, equal⟩ := schedule.error_of_member unfinished
  exact document.compile_ne_unfinished options used equal

theorem files_complete {State : Type} {system : FileSystem State} {files : State} {paths : List Path}
    (readable : ∀ path ∈ paths, system.read files path ≠ .error .unfinished)
    (options : CompileOptions) : Completes (system.compileFile (G := G) files options) paths := by
  intro generator schedule unfinished
  obtain ⟨path, present, used, equal⟩ := schedule.error_of_member unfinished
  exact readable path present (FileSystem.read_unfinished equal)

/-- A batch returns its artifacts in the order of its members exactly if all members succeed, and
else the error of the first to fail, in whatever order they come in. No member of a batch of
documents or files is ever missing. -/
theorem joinInOrder_exact :
    (∀ (results : List (Except CompileError Artifact)) (order : List Entry),
      order.Perm results.zipIdx →
        (∀ artifacts, joinInOrder results.length (order.map report) = .ok artifacts ↔
          results = artifacts.map .ok) ∧
        ∀ error, joinInOrder results.length (order.map report) = .error error ↔
          FailsFirst order error) ∧
    ∀ (G : Type) [Engine G],
      (∀ options (documents : List Document),
        Completes (fun document (generator : G) => document.compile options generator) documents) ∧
      (∀ (State : Type) (system : FileSystem State) (files : State) (options : CompileOptions)
        (paths : List Path), (∀ path ∈ paths, system.read files path ≠ .error .unfinished) →
          Completes (system.compileFile (G := G) files options) paths) ∧
      (∀ store options paths, Completes (Store.fileSystem.compileFile (G := G) store options) paths) ∧
      ∀ (project : Project) tree options paths,
        Completes (project.fileSystem.compileFile (G := G) tree options) paths := by
  refine ⟨fun results order complete => ⟨?succeeds, ?fails⟩, fun G _ => ⟨documents_complete, ?files,
    ?store, ?project⟩⟩
  case succeeds => exact fun artifacts => joinInOrder_ok_iff complete
  case fails => exact fun error => joinInOrder_error_iff complete
  case files => exact fun _ _ _ options _ readable => files_complete readable options
  case store =>
    exact fun store options _ => files_complete (fun path _ => store.read_ne_unfinished path) options
  case project =>
    exact fun project tree options _ =>
      files_complete (fun path _ => project.read_ne_unfinished tree path) options

def lettered : List Artifact := ["a", "b", "c"].map fun text => ⟨text.toList, []⟩

def succeeding : List (Except CompileError Artifact) := lettered.map .ok

def mixed : List (Except CompileError Artifact) :=
  [.ok ⟨"a".toList, []⟩, .error (.input .noPath), .error (.unsupportedFormat "b".toList)]

/-- The members come in from the last to the first. -/
theorem joinInOrder_exact_reversed :
    (succeeding.zipIdx.reverse.Perm succeeding.zipIdx ∧
      joinInOrder 3 (succeeding.zipIdx.reverse.map report) = .ok lettered) ∧
    (mixed.zipIdx.reverse.Perm mixed.zipIdx ∧
      joinInOrder 3 (mixed.zipIdx.reverse.map report) = .error (.unsupportedFormat "b".toList)) ∧
    (∀ path ∈ [⟨"a.apib".toList⟩], Store.fileSystem.read {} path ≠ .error .unfinished) ∧
    Completes (Store.fileSystem.compileFile (G := Generator) {} { loader := fun _ _ => .error [] })
      [⟨"a.apib".toList⟩] := by
  obtain ⟨join, engines⟩ := joinInOrder_exact
  obtain ⟨-, files, -⟩ := engines Generator
  have readable : ∀ path ∈ [⟨"a.apib".toList⟩], Store.fileSystem.read {} path ≠ .error .unfinished :=
    fun path _ => Store.read_ne_unfinished {} path
  refine ⟨⟨List.reverse_perm _, ?succeeds⟩, ⟨List.reverse_perm _, ?fails⟩, readable,
    files _ _ _ _ _ readable⟩
  case succeeds => exact ((join succeeding _ (List.reverse_perm _)).1 _).mpr rfl
  case fails => exact ((join mixed _ (List.reverse_perm _)).2 _).mpr ⟨[], 2, _, rfl, by simp⟩

end Batch

end ApiBlueprint

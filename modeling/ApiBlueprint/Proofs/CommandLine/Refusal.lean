import Mathlib
import ApiBlueprint.Proofs.CommandLine.Destination

/-!
A dist to a target without an extension writes nothing. The source is read before the target is looked
at, so the run ends for want of an extension only if the source is a file with a text.
-/

namespace ApiBlueprint

def FileTree.HoldsText (tree : FileTree) (path : Path) : Prop :=
  ∃ text, tree.find path true = .ok (.file (.text text))

theorem FileTree.read_eq_ok_iff {tree : FileTree} {path : Path} {text : Text} :
    tree.read path = .ok text ↔ tree.find path true = .ok (.file (.text text)) := by
  unfold read
  rw [bind_eq_ok]
  constructor
  · rintro ⟨found, leads, taken⟩
    split at taken
    · rw [leads, pure_eq_ok.mp taken]
    all_goals cases taken
  · intro leads
    exact ⟨_, leads, rfl⟩

theorem Project.exists_read_iff {project : Project} {tree : FileTree} {path : Path} :
    (∃ text, project.read tree path = .ok text) ↔ tree.HoldsText (project.resolve path) := by
  simp only [read, mapError_eq_ok, FileTree.read_eq_ok_iff, FileTree.HoldsText]

theorem Project.exists_fault_of_not_holdsText {project : Project} {tree : FileTree} {path : Path}
    (unread : ¬tree.HoldsText (project.resolve path)) :
    ∃ fault, tree.read (project.resolve path) = .error fault ∧
      project.read tree path = .error (.file (project.resolve path) fault) := by
  cases failed : tree.read (project.resolve path) with
  | ok text => exact absurd ⟨text, FileTree.read_eq_ok_iff.mp failed⟩ unread
  | error fault => exact ⟨fault, rfl, mapError_eq_error.mpr ⟨fault, failed, rfl⟩⟩

namespace Session

variable {session : Session} {source target : Path} {error : CompileError} {text : Text}

theorem distTo_unread (unread : session.config.project.read session.tree source = .error error) :
    session.distTo source target = (.error (.compile error), session.tree) := by
  have document : session.readDocument source = .error error := bind_eq_error.mpr (.inl unread)
  simp only [distTo, document]

theorem distTo_unnamed (read : session.config.project.read session.tree source = .ok text)
    (unnamed : ∀ key, ¬target.Names key) :
    session.distTo source target = (.error (.compile (.invalidDestination target)), session.tree) := by
  have document : session.readDocument source = .ok ⟨text, some source⟩ :=
    bind_eq_ok.mpr ⟨text, read, rfl⟩
  have refused : session.options.formats.forDestination target = .error (.invalidDestination target) :=
    FormatRegistry.forDestination_eq_error_iff.mpr (.inl ⟨unnamed, rfl⟩)
  simp only [distTo, document, FileSystem.distDocument, CompilationUnit.dist_rejected refused]
  rfl

theorem exists_read_of_invalidDestination {path : Path}
    (refused : (session.distTo source target).1 = .error (.compile (.invalidDestination path))) :
    ∃ text, session.config.project.read session.tree source = .ok text := by
  cases read : session.config.project.read session.tree source with
  | ok text => exact ⟨text, rfl⟩
  | error error =>
    rw [distTo_unread read] at refused
    obtain ⟨fault, rfl⟩ := Project.read_error read
    cases refused

end Session

/-- What a run of a command ends with when its session gives the answer. -/
def Outcome.ofAnswer : Session.Answer → Outcome
  | (.ok output, tree) => .ofText output tree
  | (.error error, tree) => .ofError error tree

theorem Outcome.ofAnswer_code_iff {answer : Session.Answer} :
    (ofAnswer answer).code = 8 ↔ ∃ path, answer.1 = .error (.compile (.invalidDestination path)) := by
  obtain ⟨result, tree⟩ := answer
  cases result with
  | ok output => simp [ofAnswer, ofText]
  | error error =>
    constructor
    · intro same
      have same : error.exitCode = (CompileError.invalidDestination ⟨[]⟩).exitCode := same
      obtain ⟨path, rfl⟩ := CommandError.exitCode_eq same
      exact ⟨path, rfl⟩
    · rintro ⟨path, refused⟩
      obtain rfl := Except.error.inj refused
      rfl

section Run

variable {invocation : Invocation} {tree : FileTree} {folder source target : Path}
  {fallback : Generator} {config : Config}

theorem Invocation.run_distTo (fallback : Generator)
    (loaded : Config.load tree folder invocation.config = .ok config)
    (command : invocation.command = .dist source (some target)) :
    ∃ session : Session, session.config = config ∧ session.tree = tree ∧
      invocation.run tree folder fallback = .ofAnswer (session.distTo source target) := by
  refine ⟨⟨config, invocation.generator config fallback, tree⟩, rfl, rfl, ?_⟩
  unfold run
  rw [loaded, command]
  rfl

/-- A run of the program with a dist ends for want of an extension, by its exit code 8, exactly if the
target has none and the source is a file with a text, whether or not this compiles. A target without
an extension leaves all files as they are; without a text to read, the fault of the source is what the
run reports, by the exit code 9. -/
theorem dist_refuses_target_iff {arguments : List OsText}
    (asked : Request.ofArguments arguments = .run invocation)
    (command : invocation.command = .dist source (some target))
    (loaded : Config.load tree folder invocation.config = .ok config) :
    ((runProgram arguments tree folder fallback).code = 8 ↔
      (∀ key, ¬target.Names key) ∧ tree.HoldsText (config.project.resolve source)) ∧
    ((∀ key, ¬target.Names key) →
      (runProgram arguments tree folder fallback).tree = tree ∧
      (tree.HoldsText (config.project.resolve source) →
        runProgram arguments tree folder fallback =
          .ofError (.compile (.invalidDestination target)) tree) ∧
      (¬tree.HoldsText (config.project.resolve source) →
        (runProgram arguments tree folder fallback).code = 9 ∧
        ∃ fault, tree.read (config.project.resolve source) = .error fault ∧
          runProgram arguments tree folder fallback =
            .ofError (.compile (.file (config.project.resolve source) fault)) tree)) := by
  obtain ⟨session, rfl, rfl, ran⟩ := Invocation.run_distTo fallback loaded command
  have run : runProgram arguments session.tree folder fallback =
      .ofAnswer (session.distTo source target) := by
    unfold runProgram
    rw [asked, ← ran]
  rw [run, Outcome.ofAnswer_code_iff]
  refine ⟨⟨?refused, ?refuses⟩, fun unnamed => ?_⟩
  case refused =>
    rintro ⟨path, refused⟩
    exact ⟨Session.distTo_invalidDestination refused,
      Project.exists_read_iff.mp (Session.exists_read_of_invalidDestination refused)⟩
  case refuses =>
    rintro ⟨unnamed, holds⟩
    obtain ⟨text, read⟩ := Project.exists_read_iff.mpr holds
    rw [Session.distTo_unnamed read unnamed]
    exact ⟨target, rfl⟩
  by_cases holds : session.tree.HoldsText (session.config.project.resolve source)
  · obtain ⟨text, read⟩ := Project.exists_read_iff.mpr holds
    rw [Session.distTo_unnamed read unnamed]
    exact ⟨rfl, fun _ => rfl, fun unread => absurd holds unread⟩
  · obtain ⟨fault, failed, unread⟩ := Project.exists_fault_of_not_holdsText holds
    rw [Session.distTo_unread unread]
    exact ⟨rfl, fun read => absurd read holds, fun _ => ⟨rfl, fault, failed, rfl⟩⟩

end Run

theorem Config.load_defaults {tree : FileTree} {folder workingFolder : Path}
    (located : tree.canonical folder = .ok workingFolder)
    (noFiles : discover tree workingFolder none = .ok []) :
    Config.load tree folder none = .ok (Config.defaultsAt workingFolder) := by
  unfold load
  refine bind_eq_ok.mpr ⟨workingFolder, mapError_eq_ok.mpr located, ?_⟩
  exact bind_eq_ok.mpr ⟨[], noFiles, LayerStack.resolve_ofDefaults workingFolder⟩

/-- In an empty folder the run ends by the fault of the source; beside a document that cannot be compiled
it ends for want of an extension. -/
theorem dist_refuses_target_iff_missing :
    let arguments : List OsText := ["dist".toList, "tea.apib".toList, "out".toList]
    let invocation : Invocation := { command := .dist ⟨"tea.apib".toList⟩ (some ⟨"out".toList⟩) }
    let tree : FileTree := .folder [("tea.apib".toList, .file (.text "\x7b".toList))]
    Request.ofArguments arguments = .run invocation ∧
      Config.load (.folder []) ⟨"/".toList⟩ none = .ok (Config.defaultsAt ⟨"/".toList⟩) ∧
      Config.load tree ⟨"/".toList⟩ none = .ok (Config.defaultsAt ⟨"/".toList⟩) ∧
      (runProgram arguments (.folder []) ⟨"/".toList⟩ (.seeded 0)).code = 9 ∧
      (runProgram arguments tree ⟨"/".toList⟩ (.seeded 0)).code = 8 := by
  intro arguments invocation tree
  have asked : Request.ofArguments arguments = .run invocation := by decide +kernel
  have located : tree.canonical ⟨"/".toList⟩ = .ok ⟨"/".toList⟩ := by cbv
  have noFiles : Config.discover tree ⟨"/".toList⟩ none = .ok [] := by cbv
  have locatedEmpty : (FileTree.folder []).canonical ⟨"/".toList⟩ = .ok ⟨"/".toList⟩ := by cbv
  have noFilesEmpty : Config.discover (.folder []) ⟨"/".toList⟩ none = .ok [] := by cbv
  have loaded := Config.load_defaults located noFiles
  have loadedEmpty := Config.load_defaults locatedEmpty noFilesEmpty
  have unnamed (key : Text) : ¬Path.Names ⟨"out".toList⟩ key :=
    (FormatRegistry.extensionOf_eq_error_iff.mp rfl).1 key
  have source :
      (Config.defaultsAt ⟨"/".toList⟩).project.resolve ⟨"tea.apib".toList⟩ = ⟨"/tea.apib".toList⟩ := rfl
  have held : tree.find ⟨"/tea.apib".toList⟩ true = .ok (.file (.text "\x7b".toList)) := by cbv
  have missing : (FileTree.folder []).find ⟨"/tea.apib".toList⟩ true = .error .notFound := by cbv
  refine ⟨asked, loadedEmpty, loaded, ?_, ?_⟩
  · refine (((dist_refuses_target_iff asked rfl loadedEmpty).2 unnamed).2.2 ?_).1
    rintro ⟨text, found⟩
    rw [source, missing] at found
    cases found
  · exact (dist_refuses_target_iff asked rfl loaded).1.mpr ⟨unnamed, _, source ▸ held⟩

end ApiBlueprint

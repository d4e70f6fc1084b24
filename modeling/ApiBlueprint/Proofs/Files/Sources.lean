import Mathlib
import ApiBlueprint.Proofs.Config.Layering
import ApiBlueprint.Proofs.Document.Joining
import ApiBlueprint.Proofs.Files.Listing
import ApiBlueprint.Proofs.Glob.Separator

/-!
The patterns of a configuration are read twice: when it is checked, to match without a separator, and
when files are listed, to match with one. What is listed as a source is matched by the configuration's
patterns as well, and what is left out is matched by its exclusions.
-/

namespace ApiBlueprint

namespace PathFilter

variable {pattern : Text} {options : GlobOptions} {filter : PathFilter}

theorem readPattern_eq_ok_iff {glob : Glob} :
    readPattern pattern = .ok glob ↔ Glob.read pattern = .ok glob := mapError_eq_ok

theorem ofPatterns_eq_ok_iff :
    ofPatterns pattern options = .ok filter ↔ Glob.read pattern = .ok filter.wanted ∧
      List.Forall₂ (fun text glob => Glob.read text = .ok glob) options.exclude filter.unwanted := by
  unfold ofPatterns
  simp only [bind_eq_ok, pure_eq_ok, mapM_eq_ok_iff, readPattern_eq_ok_iff]
  constructor
  · rintro ⟨wanted, read, unwanted, each, rfl⟩
    exact ⟨read, each⟩
  · rintro ⟨read, each⟩
    exact ⟨_, read, _, each, rfl⟩

theorem accepts_iff {path : Path} :
    filter.accepts path = true ↔ filter.wanted.accepts true path.bytes = true ∧
      ∀ glob ∈ filter.unwanted, glob.accepts true path.bytes = false := by
  simp [accepts]

end PathFilter

namespace Glob

theorem anyAccepts_iff {patterns : List Glob} {path : Path} :
    anyAccepts patterns path = true ↔ ∃ glob ∈ patterns, glob.accepts false path.bytes = true := by
  simp [anyAccepts]

theorem forall₂_texts {patterns : List Glob}
    (readable : ∀ glob ∈ patterns, Glob.read glob.text = .ok glob) :
    List.Forall₂ (fun text glob => Glob.read text = .ok glob) (patterns.map Glob.text) patterns :=
  List.forall₂_map_left_iff.mpr (List.forall₂_same.mpr readable)

theorem eq_of_forall₂_texts {patterns globs : List Glob}
    (readable : ∀ glob ∈ patterns, Glob.read glob.text = .ok glob)
    (each : List.Forall₂ (fun text glob => Glob.read text = .ok glob) (patterns.map Glob.text) globs) :
    globs = patterns :=
  List.right_unique_forall₂' (fun _ _ _ read read' => Except.ok.inj (read.symm.trans read')) each
    (forall₂_texts readable)

end Glob

/-- How a file system uses patterns: only those of a listing are read, only paths that their filter
accepts are listed, and whatever it accepts of another listing is listed too. -/
structure FileSystem.FollowsPatterns {State : Type} (system : FileSystem State) : Prop where
  readsNone : ∀ files path fault, system.read files path ≠ .error (.input (.pattern fault))
  unread : ∀ {files pattern options fault},
    system.glob files pattern options = .error (.input (.pattern fault)) →
      PathFilter.ofPatterns pattern options = .error (.input (.pattern fault))
  accepted : ∀ {files pattern options paths}, system.glob files pattern options = .ok paths →
    ∃ filter, PathFilter.ofPatterns pattern options = .ok filter ∧
      ∀ path ∈ paths, filter.accepts path = true
  keeps : ∀ {files pattern options options' paths paths' filter},
    system.glob files pattern options = .ok paths → system.glob files pattern options' = .ok paths' →
    options.includeHidden = options'.includeHidden →
    PathFilter.ofPatterns pattern options' = .ok filter →
      ∀ path ∈ paths, filter.accepts path = true → ∃ other ∈ paths', path.same other = true

theorem Store.glob_eq_ok_iff {store : Store} {pattern : Text} {options : GlobOptions}
    {paths : List Path} : store.glob pattern options = .ok paths ↔
      ∃ filter, PathFilter.ofPatterns pattern options = .ok filter ∧
        (store.files.map Prod.fst).filter (fun path =>
          (options.includeHidden || !path.isHidden) && filter.accepts path) = paths := by
  simp only [glob, bind_eq_ok, pure_eq_ok]

theorem Project.glob_eq_ok_iff {project : Project} {tree : FileTree} {pattern : Text}
    {options : GlobOptions} {paths : List Path} : project.glob tree pattern options = .ok paths ↔
      ∃ filter, PathFilter.ofPatterns pattern options = .ok filter ∧
        ∃ held, project.filesBelow tree options.includeHidden = .ok held ∧
          Path.sorted (held.filter fun path =>
            filter.accepts path && !Glob.anyAccepts project.exclude path) = paths := by
  simp only [glob, bind_eq_ok, pure_eq_ok, mapError_eq_ok]

theorem Store.followsPatterns : Store.fileSystem.FollowsPatterns where
  readsNone store path fault failed := by
    cases Store.read_error failed
  unread {store pattern options fault} failed := by
    rcases bind_eq_error.mp failed with unread | ⟨filter, -, done⟩
    · exact unread
    · contradiction
  accepted {store pattern options paths} listed := by
    obtain ⟨filter, read, rfl⟩ := Store.glob_eq_ok_iff.mp listed
    refine ⟨filter, read, fun path member => ?_⟩
    have kept := (List.mem_filter.mp member).2
    rw [Bool.and_eq_true] at kept
    exact kept.2
  keeps {store pattern options options' paths paths' filter} listed listed' hidden read path member
      accepts := by
    obtain ⟨_, -, rfl⟩ := Store.glob_eq_ok_iff.mp listed
    obtain ⟨filter', read', rfl⟩ := Store.glob_eq_ok_iff.mp listed'
    obtain rfl := Except.ok.inj (read.symm.trans read')
    obtain ⟨held, shown⟩ := List.mem_filter.mp member
    rw [Bool.and_eq_true, hidden] at shown
    refine ⟨path, List.mem_filter.mpr ⟨held, ?_⟩, by simp [Path.same]⟩
    rw [Bool.and_eq_true]
    exact ⟨shown.1, accepts⟩

theorem Project.followsPatterns (project : Project) : project.fileSystem.FollowsPatterns where
  readsNone tree path fault failed := by
    obtain ⟨_, other⟩ := Project.read_error failed
    cases other
  unread {tree pattern options fault} failed := by
    rcases bind_eq_error.mp failed with unread | ⟨filter, -, later⟩
    · exact unread
    · rcases bind_eq_error.mp later with unwalked | ⟨held, -, done⟩
      · obtain ⟨_, -, other⟩ := mapError_eq_error.mp unwalked
        cases other
      · contradiction
  accepted {tree pattern options paths} listed := by
    obtain ⟨filter, read, held, -, rfl⟩ := Project.glob_eq_ok_iff.mp listed
    refine ⟨filter, read, fun path member => ?_⟩
    have kept := (List.mem_filter.mp (Path.sorted_subset _ member)).2
    rw [Bool.and_eq_true] at kept
    exact kept.1
  keeps {tree pattern options options' paths paths' filter} listed listed' hidden read path member
      accepts := by
    obtain ⟨_, -, held, walked, rfl⟩ := Project.glob_eq_ok_iff.mp listed
    obtain ⟨filter', read', held', walked', rfl⟩ := Project.glob_eq_ok_iff.mp listed'
    obtain rfl := Except.ok.inj (read.symm.trans read')
    rw [hidden] at walked
    obtain rfl := Except.ok.inj (walked.symm.trans walked')
    obtain ⟨present, shown⟩ := List.mem_filter.mp (Path.sorted_subset _ member)
    rw [Bool.and_eq_true] at shown
    apply Path.exists_same_sorted
    rw [List.mem_filter, Bool.and_eq_true]
    exact ⟨present, accepts, shown.2⟩

namespace FileSystem

variable {State : Type} {system : FileSystem State} {files : State} {patterns : List Text}
  {options : GlobOptions} {paths : List Path} {compile : CompileOptions} {generator : Generator}
  {fault : GlobError}

theorem globAny_eq_ok_iff : system.globAny files patterns options = .ok paths ↔
    ∃ found, List.Forall₂ (fun pattern paths => system.glob files pattern options = .ok paths)
      patterns found ∧ Path.sorted found.flatten = paths := by
  simp only [globAny, bind_eq_ok, pure_eq_ok, mapM_eq_ok_iff]

theorem exists_glob_of_globAny (listed : system.globAny files patterns options = .ok paths)
    {path : Path} (member : path ∈ paths) :
    ∃ pattern ∈ patterns, ∃ found, system.glob files pattern options = .ok found ∧ path ∈ found := by
  obtain ⟨found, each, rfl⟩ := globAny_eq_ok_iff.mp listed
  obtain ⟨part, inside, held⟩ := List.mem_flatten.mp (Path.sorted_subset _ member)
  obtain ⟨pattern, present, here⟩ := exists_of_mem_right each inside
  exact ⟨pattern, present, part, here, held⟩

theorem exists_same_of_globAny (listed : system.globAny files patterns options = .ok paths)
    {pattern : Text} (present : pattern ∈ patterns) :
    ∃ found, system.glob files pattern options = .ok found ∧
      ∀ path ∈ found, ∃ other ∈ paths, path.same other = true := by
  obtain ⟨parts, each, rfl⟩ := globAny_eq_ok_iff.mp listed
  obtain ⟨found, inside, glob⟩ := exists_of_mem_left each present
  refine ⟨found, glob, fun path member => Path.exists_same_sorted ?_⟩
  exact List.mem_flatten.mpr ⟨found, inside, member⟩

theorem exists_glob_error {error : CompileError}
    (failed : system.globAny files patterns options = .error error) :
    ∃ pattern ∈ patterns, system.glob files pattern options = .error error := by
  rcases bind_eq_error.mp failed with unlisted | ⟨found, -, done⟩
  · obtain ⟨before, pattern, after, found, rfl, -, here⟩ := mapM_eq_error_iff.mp unlisted
    exact ⟨pattern, by simp, here⟩
  · contradiction

theorem compileFile_ne_pattern (follows : system.FollowsPatterns) (path : Path) :
    (system.compileFile files compile path generator).1 ≠ .error (.input (.pattern fault)) := by
  intro failed
  rcases compileFile_error failed with other | unread | stage
  · cases other
  · exact follows.readsNone files path fault unread
  · cases stage

theorem compileFiles_ne_pattern (follows : system.FollowsPatterns) (paths : List Path) :
    (system.compileFiles files compile paths generator).1 ≠ .error (.input (.pattern fault)) := by
  intro failed
  have joined : (Batch.compileAll (system.compileFile files compile) paths generator).1 =
      .error (.input (.pattern fault)) := map_eq_error.mp failed
  obtain ⟨path, -, used, here⟩ := Batch.Schedule.error_of_member (.inOrder paths generator) joined
  exact compileFile_ne_pattern follows path here

theorem mem_of_compileFiles {pairs : List (Path × Artifact)}
    (compiled : (system.compileFiles files compile paths generator).1 = .ok pairs)
    {pair : Path × Artifact} (member : pair ∈ pairs) : pair.1 ∈ paths := by
  obtain ⟨artifacts, -, rfl⟩ := map_eq_ok.mp compiled
  exact (List.of_mem_zip member).1

end FileSystem

structure Config.IsReadable (config : Config) : Prop where
  included : ∀ glob ∈ config.includePatterns, Glob.read glob.text = .ok glob
  excluded : ∀ glob ∈ config.excludePatterns, Glob.read glob.text = .ok glob

theorem LayerStack.read_of_mem_patterns {stack : LayerStack}
    {get : ConfigFile → Option (List Text)} {glob : Glob} (member : glob ∈ stack.patterns get) :
    Glob.read glob.text = .ok glob := by
  obtain ⟨text, -, kept⟩ := List.mem_filterMap.mp member
  cases read : Glob.read text with
  | error error => simp [read, Except.toOption] at kept
  | ok other =>
    obtain rfl : other = glob := by simpa [read, Except.toOption] using kept
    rw [Glob.text_of_read read, read]

theorem LayerStack.isReadable_of_resolve {stack : LayerStack} {folder : Path} {config : Config}
    (resolved : stack.resolve folder = .ok config) : config.IsReadable := by
  obtain ⟨-, rfl⟩ := resolve_eq_ok_iff.mp resolved
  exact ⟨fun _ => read_of_mem_patterns, fun _ => read_of_mem_patterns⟩

namespace Config

/-- The configuration and a file system understand the patterns for sources alike. -/
structure Agrees {State : Type} (config : Config) (system : FileSystem State) : Prop where
  readable : ∀ files options (generator : Generator) fault,
    (system.compileSources files (config.includePatterns.map Glob.text) config.globOptions options
      generator).1 ≠ .error (.input (.pattern fault))
  included : ∀ files options (generator : Generator) pairs,
    (system.compileSources files (config.includePatterns.map Glob.text) config.globOptions options
      generator).1 = .ok pairs →
    ∀ pair ∈ pairs, Glob.anyAccepts config.includePatterns pair.1 = true
  /-- A path that is listed only without the exclusions is matched by them. -/
  excluded : ∀ files patterns all kept, system.globAny files patterns {} = .ok all →
    system.globAny files patterns config.globOptions = .ok kept →
    ∀ path ∈ all, (∀ other ∈ kept, path.same other = false) →
      Glob.anyAccepts config.excludePatterns path = true

variable {State : Type} {system : FileSystem State} {config : Config}

theorem IsReadable.ofPatterns_eq_ok_iff (readable : config.IsReadable) {pattern : Text}
    {filter : PathFilter} :
    PathFilter.ofPatterns pattern config.globOptions = .ok filter ↔
      Glob.read pattern = .ok filter.wanted ∧ filter.unwanted = config.excludePatterns := by
  rw [PathFilter.ofPatterns_eq_ok_iff]
  apply and_congr_right
  intro _
  constructor
  · exact Glob.eq_of_forall₂_texts readable.excluded
  · intro same
    rw [same]
    exact Glob.forall₂_texts readable.excluded

theorem IsReadable.glob_ne_pattern (readable : config.IsReadable) (follows : system.FollowsPatterns)
    {glob : Glob} (member : glob ∈ config.includePatterns) {files : State} {fault : GlobError} :
    system.glob files glob.text config.globOptions ≠ .error (.input (.pattern fault)) := by
  intro failed
  have read : PathFilter.ofPatterns glob.text config.globOptions =
      .ok ⟨glob, config.excludePatterns⟩ :=
    readable.ofPatterns_eq_ok_iff.mpr ⟨readable.included glob member, rfl⟩
  rw [follows.unread failed] at read
  contradiction

theorem IsReadable.agrees (readable : config.IsReadable) (follows : system.FollowsPatterns) :
    config.Agrees system := by
  constructor
  case readable =>
    intro files options generator fault failed
    unfold FileSystem.compileSources at failed
    split at failed
    · rename_i error unlisted
      obtain rfl := Except.error.inj failed
      obtain ⟨pattern, present, here⟩ := FileSystem.exists_glob_error unlisted
      obtain ⟨glob, member, rfl⟩ := List.mem_map.mp present
      exact readable.glob_ne_pattern follows member here
    · exact FileSystem.compileFiles_ne_pattern follows _ failed
  case included =>
    intro files options generator pairs compiled pair member
    unfold FileSystem.compileSources at compiled
    split at compiled
    · contradiction
    · rename_i paths listed
      have inside := FileSystem.mem_of_compileFiles compiled member
      obtain ⟨pattern, present, found, globbed, here⟩ :=
        FileSystem.exists_glob_of_globAny listed inside
      obtain ⟨glob, mine, rfl⟩ := List.mem_map.mp present
      obtain ⟨filter, read, accepted⟩ := follows.accepted globbed
      have wanted := (readable.ofPatterns_eq_ok_iff.mp read).1
      obtain rfl := Except.ok.inj ((readable.included glob mine).symm.trans wanted)
      have accepts := (PathFilter.accepts_iff.mp (accepted pair.1 here)).1
      exact Glob.anyAccepts_iff.mpr ⟨filter.wanted, mine, Glob.accepts_of_separator accepts⟩
  case excluded =>
    intro files patterns all kept listed listed' path member dropped
    obtain ⟨pattern, present, found, globbed, here⟩ :=
      FileSystem.exists_glob_of_globAny listed member
    obtain ⟨found', globbed', stays⟩ := FileSystem.exists_same_of_globAny listed' present
    obtain ⟨filter, read, accepted⟩ := follows.accepted globbed
    obtain ⟨filter', read', -⟩ := follows.accepted globbed'
    obtain ⟨wanted, unwanted⟩ := readable.ofPatterns_eq_ok_iff.mp read'
    obtain same := Except.ok.inj ((PathFilter.ofPatterns_eq_ok_iff.mp read).1.symm.trans wanted)
    by_contra unmatched
    -- A path that no exclusion matches passes the filter with them, and so it was kept.
    have passes : filter'.accepts path = true := by
      refine PathFilter.accepts_iff.mpr ⟨?_, ?_⟩
      · rw [← same]
        exact (PathFilter.accepts_iff.mp (accepted path here)).1
      · intro glob excluded
        rw [← Bool.not_eq_true]
        intro accepts
        rw [unwanted] at excluded
        exact unmatched (Glob.anyAccepts_iff.mpr ⟨glob, excluded, Glob.accepts_of_separator accepts⟩)
    obtain ⟨other, inside, equal⟩ := follows.keeps globbed globbed' rfl read' path here passes
    obtain ⟨last, final, equal'⟩ := stays other inside
    -- Listing a pattern and sorting the union may each keep another spelling.
    have both : path.same last = true := by
      simp only [Path.same, decide_eq_true_eq] at equal equal' ⊢
      rw [equal, equal']
    rw [dropped last final] at both
    contradiction

/-- A pattern can be read for the configuration exactly if it can be read to list files. What it matches
with a separator it matches without, and without slashes both are the same. A configuration that was
checked agrees with every place where files are. -/
theorem patterns_agree :
    (∀ (text : Text) (glob : Glob),
      PathFilter.readPattern text = .ok glob ↔ Glob.read text = .ok glob) ∧
    (∀ (glob : Glob) (path : Path),
      (PathFilter.accepts ⟨glob, []⟩ path = true → Glob.anyAccepts [glob] path = true) ∧
      (OsText.slash ∉ path.bytes → PathFilter.accepts ⟨glob, []⟩ path = Glob.anyAccepts [glob] path)) ∧
    ∀ (stack : LayerStack) (folder : Path) (config : Config),
      stack.resolve folder = .ok config →
        config.Agrees Store.fileSystem ∧ ∀ project : Project, config.Agrees project.fileSystem := by
  refine ⟨fun text glob => PathFilter.readPattern_eq_ok_iff, fun glob path => ?matching,
    fun stack folder config resolved => ?agree⟩
  case matching =>
    have strict : PathFilter.accepts ⟨glob, []⟩ path = glob.accepts true path.bytes := by
      simp [PathFilter.accepts]
    have lax : Glob.anyAccepts [glob] path = glob.accepts false path.bytes := by
      simp [Glob.anyAccepts]
    rw [strict, lax]
    exact ⟨Glob.accepts_of_separator, glob.accepts_eq_of_no_slash⟩
  case agree =>
    have readable := LayerStack.isReadable_of_resolve resolved
    exact ⟨readable.agrees Store.followsPatterns, fun project => readable.agrees project.followsPatterns⟩

def markdown : Glob := ⟨"*.md".toList, [.star, .literal '.', .literal 'm', .literal 'd']⟩

theorem patterns_agree_markdown :
    PathFilter.readPattern "*.md".toList = .ok markdown ∧ Glob.read "*.md".toList = .ok markdown ∧
    (PathFilter.accepts ⟨markdown, []⟩ ⟨"a.md".toList⟩ = true ∧
      Glob.anyAccepts [markdown] ⟨"a.md".toList⟩ = true) ∧
    (PathFilter.accepts ⟨markdown, []⟩ ⟨"x/a.md".toList⟩ = false ∧
      Glob.anyAccepts [markdown] ⟨"x/a.md".toList⟩ = true) ∧
    (defaultsAt ⟨"/srv".toList⟩).Agrees Store.fileSystem := by
  have read : Glob.read "*.md".toList = .ok markdown := by rfl
  have accepted : PathFilter.accepts ⟨markdown, []⟩ ⟨"a.md".toList⟩ = true := by decide +kernel
  have resolved := LayerStack.resolve_ofDefaults ⟨"/srv".toList⟩
  obtain ⟨reading, matching, agreeing⟩ := patterns_agree
  refine ⟨(reading _ _).mpr read, read, ⟨accepted, ?_⟩, ⟨by decide +kernel, by decide +kernel⟩,
    (agreeing _ _ _ resolved).1⟩
  rw [← (matching markdown ⟨"a.md".toList⟩).2 (by decide +kernel)]
  exact accepted

end Config
end ApiBlueprint

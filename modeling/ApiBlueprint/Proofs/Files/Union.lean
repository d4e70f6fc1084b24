import Mathlib
import ApiBlueprint.Proofs.Document.Drawing
import ApiBlueprint.Proofs.Files.Sources

/-!
The files of a store that several patterns match are compiled once each, in path order. The order of
the patterns does not matter, nor does it matter whether a pattern stands twice.
-/

namespace ApiBlueprint

namespace Glob

def IsValid (pattern : Text) : Prop := ∃ glob, Glob.read pattern = .ok glob

def Matches (pattern : Text) (path : Path) : Prop :=
  ∃ glob, Glob.read pattern = .ok glob ∧ glob.accepts true path.bytes = true

end Glob

namespace PathFilter

variable {pattern : Text} {options : GlobOptions}

theorem exists_ofPatterns (valid : Glob.IsValid pattern)
    (validExclude : ∀ text ∈ options.exclude, Glob.IsValid text) :
    ∃ filter, ofPatterns pattern options = .ok filter := by
  obtain ⟨wanted, read⟩ := valid
  obtain ⟨unwanted, readAll⟩ := exists_mapM_eq_ok validExclude
  exact ⟨⟨wanted, unwanted⟩, ofPatterns_eq_ok_iff.mpr ⟨read, mapM_eq_ok_iff.mp readAll⟩⟩

theorem accepts_iff_matches {filter : PathFilter} (read : ofPatterns pattern options = .ok filter)
    {path : Path} : filter.accepts path = true ↔
      Glob.Matches pattern path ∧ ∀ text ∈ options.exclude, ¬Glob.Matches text path := by
  obtain ⟨wanted, unwanted⟩ := ofPatterns_eq_ok_iff.mp read
  rw [accepts_iff]
  constructor
  · rintro ⟨accepts, refuses⟩
    refine ⟨⟨_, wanted, accepts⟩, ?_⟩
    rintro text member ⟨glob, readText, matched⟩
    obtain ⟨other, inside, readOther⟩ := exists_of_mem_left unwanted member
    obtain rfl := Except.ok.inj (readText.symm.trans readOther)
    rw [refuses glob inside] at matched
    contradiction
  · rintro ⟨⟨glob, readText, accepts⟩, refuses⟩
    obtain rfl := Except.ok.inj (readText.symm.trans wanted)
    refine ⟨accepts, fun glob member => ?_⟩
    obtain ⟨text, inside, readText⟩ := exists_of_mem_right unwanted member
    rw [← Bool.not_eq_true]
    intro matched
    exact refuses text inside ⟨glob, readText, matched⟩

end PathFilter

namespace FileSystem

variable {State : Type} {system : FileSystem State} {files : State} {options : CompileOptions}
  {paths : List Path} {generator : Generator}

/-- One way to compile files side by side. -/
abbrev Run (system : FileSystem State) (files : State) (options : CompileOptions)
    (paths : List Path) (generator : Generator) :=
  Batch.Schedule (system.compileFile files options) paths generator

def Run.pairs (run : system.Run files options paths generator) :
    Except CompileError (List (Path × Artifact)) :=
  run.joined.map paths.zip

/-- A result that compiling the listed files can have, whatever values are drawn. -/
inductive Returns (system : FileSystem State) (files : State) (options : CompileOptions) :
    Except CompileError (List Path) → Except CompileError (List (Path × Artifact)) → Prop
  | unlisted (error : CompileError) : Returns system files options (.error error) (.error error)
  | ran {paths : List Path} {stream : RandomStream}
      (run : system.Run files options paths (Generator.random stream)) :
      Returns system files options (.ok paths) run.pairs

theorem compileGlob_returns {pattern : Text} {glob : GlobOptions} {stream : RandomStream} :
    system.Returns files options (system.glob files pattern glob)
      (system.compileGlob files pattern glob options (Generator.random stream)).1 := by
  unfold compileGlob
  cases system.glob files pattern glob with
  | error error => exact .unlisted error
  | ok paths => exact .ran (.inOrder paths (Generator.random stream))

theorem compileSources_returns {patterns : List Text} {glob : GlobOptions} {stream : RandomStream} :
    system.Returns files options (system.globAny files patterns glob)
      (system.compileSources files patterns glob options (Generator.random stream)).1 := by
  unfold compileSources
  cases system.globAny files patterns glob with
  | error error => exact .unlisted error
  | ok paths => exact .ran (.inOrder paths (Generator.random stream))

theorem Run.pairs_of_succeeds {run : system.Run files options paths generator}
    (succeeds : run.Succeeds) :
    ∃ pairs, run.pairs = .ok pairs ∧ pairs.map Prod.fst = paths ∧
      ∀ pair ∈ pairs, ∃ generator : Generator,
        (system.compileFile files options pair.1 generator).1 = .ok pair.2 := by
  obtain ⟨artifacts, joined, own⟩ := Batch.Schedule.joined_of_succeeds succeeds
  refine ⟨paths.zip artifacts, ?_, ?_, fun pair member => ?_⟩
  · unfold pairs
    rw [joined]
    rfl
  · exact List.map_fst_zip own.length_eq.le
  · exact List.forall₂_zip own member

/-- Where no file draws, a run in which all succeed tells what every run returns. -/
theorem Returns.eq_pairs (still : ∀ path ∈ paths, system.draws files options path = false)
    {stream : RandomStream} {run : system.Run files options paths (Generator.random stream)}
    (succeeds : run.Succeeds) {result : Except CompileError (List (Path × Artifact))}
    (returns : system.Returns files options (.ok paths) result) : result = run.pairs := by
  obtain ⟨artifacts, joined, -⟩ := Batch.Schedule.joined_of_succeeds succeeds
  cases returns with
  | ran other =>
    have alike := Batch.Schedule.artifacts_eq_of_still
      (system.compileFile_drawsOnly files options) still other run
    change other.joined.toOption = run.joined.toOption at alike
    unfold Run.pairs
    rw [joined] at alike ⊢
    cases other' : other.joined with
    | error error =>
      rw [other'] at alike
      cases alike
    | ok artifacts' =>
      rw [other'] at alike
      obtain rfl := Option.some.inj alike
      rfl

end FileSystem

namespace Store

inductive IsBuilt : Store → Prop
  | empty : IsBuilt {}
  | insert {store : Store} (built : IsBuilt store) (path : Path) (text : Text) :
      IsBuilt (store.insert path text)
  | write {store : Store} (built : IsBuilt store) (path : Path) (text : Text) :
      IsBuilt (store.write path text)

theorem IsBuilt.rises {store : Store} (built : store.IsBuilt) :
    Path.Rises (store.files.map Prod.fst) := by
  have inserted {store : Store} (rising : Path.Rises (store.files.map Prod.fst)) (path : Path)
      (text : Text) : Path.Rises ((store.insert path text).files.map Prod.fst) := by
    change Path.Rises ((insertFile path text store.files).map Prod.fst)
    rw [map_fst_insertFile]
    exact rising.insert path
  induction built with
  | empty => exact List.Pairwise.nil
  | insert _ path text ih => exact inserted ih path text
  | write _ path text ih => exact inserted ih path text

structure Selects (store : Store) (patterns : List Text) (options : GlobOptions) (path : Path) :
    Prop where
  held : path ∈ store.files.map Prod.fst
  wanted : ∃ pattern ∈ patterns, Glob.Matches pattern path
  unwanted : ∀ pattern ∈ options.exclude, ¬Glob.Matches pattern path
  shown : options.includeHidden = true ∨ path.isHidden = false

def Compiles (store : Store) (options : CompileOptions) (path : Path) (artifact : Artifact) : Prop :=
  ∃ (text : Text) (generator : Generator), (path, text) ∈ store.files ∧
    (Document.compile { text, origin := path } options generator).1 = .ok artifact

variable {store : Store} {patterns : List Text} {options : GlobOptions} {compile : CompileOptions}

theorem exists_glob {pattern : Text} (valid : Glob.IsValid pattern)
    (validExclude : ∀ text ∈ options.exclude, Glob.IsValid text) :
    ∃ paths, store.glob pattern options = .ok paths := by
  obtain ⟨filter, read⟩ := PathFilter.exists_ofPatterns valid validExclude
  exact ⟨_, glob_eq_ok_iff.mpr ⟨filter, read, rfl⟩⟩

theorem mem_glob_iff {pattern : Text} {paths : List Path}
    (listed : store.glob pattern options = .ok paths) {path : Path} :
    path ∈ paths ↔ store.Selects [pattern] options path := by
  obtain ⟨filter, read, rfl⟩ := glob_eq_ok_iff.mp listed
  rw [List.mem_filter, Bool.and_eq_true, PathFilter.accepts_iff_matches read, Bool.or_eq_true,
    Bool.not_eq_true']
  constructor
  · rintro ⟨held, shown, wanted, unwanted⟩
    exact ⟨held, ⟨pattern, List.mem_singleton_self pattern, wanted⟩, unwanted, shown⟩
  · rintro ⟨held, ⟨other, member, wanted⟩, unwanted, shown⟩
    obtain rfl := List.mem_singleton.mp member
    exact ⟨held, shown, wanted, unwanted⟩

theorem rises_glob (built : store.IsBuilt) {pattern : Text} {paths : List Path}
    (listed : store.glob pattern options = .ok paths) : Path.Rises paths := by
  obtain ⟨filter, -, rfl⟩ := glob_eq_ok_iff.mp listed
  exact built.rises.filter _

theorem exists_globAny (built : store.IsBuilt) (valid : ∀ pattern ∈ patterns, Glob.IsValid pattern)
    (validExclude : ∀ text ∈ options.exclude, Glob.IsValid text) :
    ∃ paths, Store.fileSystem.globAny store patterns options = .ok paths ∧ Path.Rises paths ∧
      ∀ path, path ∈ paths ↔ store.Selects patterns options path := by
  obtain ⟨found, all⟩ :
      ∃ found, patterns.mapM (fun pattern => store.glob pattern options) = .ok found :=
    exists_mapM_eq_ok fun pattern member => exists_glob (valid pattern member) validExclude
  have each := mapM_eq_ok_iff.mp all
  have mem_iff (path : Path) : path ∈ found.flatten ↔ store.Selects patterns options path := by
    rw [List.mem_flatten]
    constructor
    · rintro ⟨part, inside, member⟩
      obtain ⟨pattern, present, listed⟩ := exists_of_mem_right each inside
      obtain ⟨held, ⟨other, same, wanted⟩, unwanted, shown⟩ := (mem_glob_iff listed).mp member
      obtain rfl := List.mem_singleton.mp same
      exact ⟨held, ⟨other, present, wanted⟩, unwanted, shown⟩
    · rintro ⟨held, ⟨pattern, present, wanted⟩, unwanted, shown⟩
      obtain ⟨part, inside, listed⟩ := exists_of_mem_left each present
      exact ⟨part, inside, (mem_glob_iff listed).mpr
        ⟨held, ⟨pattern, List.mem_singleton_self pattern, wanted⟩, unwanted, shown⟩⟩
  refine ⟨_, FileSystem.globAny_eq_ok_iff.mpr ⟨found, each, rfl⟩, Path.sorted_rises _, fun path => ?_⟩
  -- Sorting drops no path, since a store has only one spelling of each.
  rw [Path.mem_sorted, mem_iff]
  intro left inLeft right inRight same
  exact built.rises.eq_of_same ((mem_iff left).mp inLeft).held ((mem_iff right).mp inRight).held same

theorem compiles_of_compileFile (built : store.IsBuilt) {path : Path}
    (held : path ∈ store.files.map Prod.fst) {generator : Generator} {artifact : Artifact}
    (compiled : (Store.fileSystem.compileFile store compile path generator).1 = .ok artifact) :
    store.Compiles compile path artifact := by
  unfold FileSystem.compileFile at compiled
  split at compiled
  · contradiction
  · split at compiled
    · contradiction
    · rename_i text read
      refine ⟨text, generator, ?_, compiled⟩
      change store.read path = .ok text at read
      unfold Store.read find? at read
      split at read
      case h_2 => contradiction
      case h_1 other found =>
        obtain rfl := Except.ok.inj read
        obtain ⟨file, first, rfl⟩ := Option.map_eq_some_iff.mp found
        have member := List.mem_of_find?_eq_some first
        have equal := List.find?_some first
        -- The file that is read is found by its components, and no other path has the same.
        obtain rfl := built.rises.eq_of_same (List.mem_map_of_mem member) held equal
        exact member

/-- The paths are those of the sources, and compiling the sources is compiling the files under them. -/
structure Unites (store : Store) (patterns : List Text) (options : GlobOptions)
    (compile : CompileOptions) (paths : List Path) : Prop where
  rises : Path.Rises paths
  mem_iff : ∀ path, path ∈ paths ↔ store.Selects patterns options path
  listed : Store.fileSystem.globAny store patterns options = .ok paths
  compiled : ∀ generator : Generator,
    (Store.fileSystem.compileSources store patterns options compile generator).1 =
      FileSystem.Run.pairs
        (.inOrder paths generator : Store.fileSystem.Run store compile paths generator)
  /-- In whatever way the files run, if all compile then each is returned with its own artifact. -/
  paired : ∀ {generator : Generator} (run : Store.fileSystem.Run store compile paths generator), run.Succeeds →
    ∃ pairs, run.pairs = .ok pairs ∧ pairs.map Prod.fst = paths ∧
      ∀ pair ∈ pairs, store.Compiles compile pair.1 pair.2
  unordered : (∀ path ∈ paths, Store.fileSystem.draws store compile path = false) →
    ∀ {stream} (run : Store.fileSystem.Run store compile paths (Generator.random stream)), run.Succeeds →
      ∀ patterns', (∀ pattern, pattern ∈ patterns' ↔ pattern ∈ patterns) → ∀ result,
        Store.fileSystem.Returns store compile
          (Store.fileSystem.globAny store patterns' options) result → result = run.pairs
  single : (∀ path ∈ paths, Store.fileSystem.draws store compile path = false) →
    ∀ {stream} (run : Store.fileSystem.Run store compile paths (Generator.random stream)), run.Succeeds →
      ∀ pattern, patterns = [pattern] → ∀ result,
        Store.fileSystem.Returns store compile (Store.fileSystem.glob store pattern options) result →
          result = run.pairs

theorem Selects.of_mem_iff {patterns' : List Text}
    (members : ∀ pattern, pattern ∈ patterns' ↔ pattern ∈ patterns) (path : Path) :
    store.Selects patterns' options path ↔ store.Selects patterns options path := by
  constructor
  · rintro ⟨held, ⟨pattern, present, wanted⟩, unwanted, shown⟩
    exact ⟨held, ⟨pattern, (members pattern).mp present, wanted⟩, unwanted, shown⟩
  · rintro ⟨held, ⟨pattern, present, wanted⟩, unwanted, shown⟩
    exact ⟨held, ⟨pattern, (members pattern).mpr present, wanted⟩, unwanted, shown⟩

/-- Compiling sources compiles the files that some pattern wants and no exclusion matches, once each
and in path order, each with its own artifact; where nothing is drawn, how the patterns are arranged
does not show in the result. -/
theorem compileSources_union (built : store.IsBuilt)
    (valid : ∀ pattern ∈ patterns, Glob.IsValid pattern)
    (validExclude : ∀ pattern ∈ options.exclude, Glob.IsValid pattern) (compile : CompileOptions) :
    ∃ paths, store.Unites patterns options compile paths := by
  obtain ⟨paths, listed, rises, mem_iff⟩ := exists_globAny built valid validExclude
  refine ⟨paths, rises, mem_iff, listed, ?compiled, ?paired, ?unordered, ?single⟩
  case compiled =>
    intro generator
    unfold FileSystem.compileSources
    rw [listed]
    rfl
  case paired =>
    intro generator run succeeds
    obtain ⟨pairs, returned, firsts, own⟩ := FileSystem.Run.pairs_of_succeeds succeeds
    refine ⟨pairs, returned, firsts, fun pair member => ?_⟩
    have inside : pair.1 ∈ paths := firsts ▸ List.mem_map_of_mem member
    obtain ⟨used, compiled⟩ := own pair member
    exact compiles_of_compileFile built ((mem_iff pair.1).mp inside).held compiled
  case unordered =>
    intro still stream run succeeds patterns' members result returns
    have valid' : ∀ pattern ∈ patterns', Glob.IsValid pattern :=
      fun pattern member => valid pattern ((members pattern).mp member)
    obtain ⟨paths', listed', rises', mem_iff'⟩ := exists_globAny built valid' validExclude
    obtain rfl : paths' = paths := rises'.eq_of_mem_iff rises fun path =>
      ((mem_iff' path).trans (Selects.of_mem_iff members path)).trans (mem_iff path).symm
    rw [listed'] at returns
    exact returns.eq_pairs still succeeds
  case single =>
    rintro still stream run succeeds pattern rfl result returns
    obtain ⟨paths', listed'⟩ := exists_glob (valid pattern (List.mem_singleton_self pattern)) validExclude
    obtain rfl : paths' = paths := (rises_glob built listed').eq_of_mem_iff rises fun path =>
      (mem_glob_iff listed').trans (mem_iff path).symm
    change Store.fileSystem.Returns store compile (store.glob pattern options) result at returns
    rw [listed'] at returns
    exact returns.eq_pairs still succeeds

def published : Store :=
  ((((({} : Store).insert ⟨"docs/b.apib".toList⟩ "\x7b\"n\": 2\x7d".toList).insert
    ⟨"docs/draft.apib".toList⟩ "|~unknown|".toList).insert
    ⟨".old/c.apib".toList⟩ "# C".toList).write ⟨"a.apib".toList⟩ "\x7b\"n\": 1\x7d".toList)

def overlapping : List Text := ["docs/*.apib".toList, "**/*.apib".toList]

def withoutDrafts : GlobOptions where
  exclude := ["**/draft.apib".toList]

theorem compileSources_union_overlapping :
    published.IsBuilt ∧ (∀ pattern ∈ overlapping, Glob.IsValid pattern) ∧
    (∀ pattern ∈ withoutDrafts.exclude, Glob.IsValid pattern) ∧
    published.Unites overlapping withoutDrafts Batch.plainOptions
      [⟨"a.apib".toList⟩, ⟨"docs/b.apib".toList⟩] ∧
    (Store.fileSystem.compileSources published (overlapping.reverse ++ overlapping) withoutDrafts
        Batch.plainOptions (Generator.seeded 1)).1 =
      (Store.fileSystem.compileSources published overlapping withoutDrafts Batch.plainOptions
        (Generator.seeded 0)).1 ∧
    (Store.fileSystem.compileGlob published "**/*.apib".toList withoutDrafts Batch.plainOptions
        (Generator.seeded 1)).1 =
      (Store.fileSystem.compileSources published ["**/*.apib".toList] withoutDrafts
        Batch.plainOptions (Generator.seeded 0)).1 := by
  have built : published.IsBuilt :=
    ((((IsBuilt.empty).insert _ _).insert _ _).insert _ _).write _ _
  have lone : ∀ pattern ∈ ["**/*.apib".toList], Glob.IsValid pattern :=
    List.forall_mem_singleton.mpr ⟨_, rfl⟩
  have valid : ∀ pattern ∈ overlapping, Glob.IsValid pattern :=
    List.forall_mem_cons.mpr ⟨⟨_, rfl⟩, lone⟩
  have validExclude : ∀ pattern ∈ withoutDrafts.exclude, Glob.IsValid pattern :=
    List.forall_mem_singleton.mpr ⟨_, rfl⟩
  obtain ⟨paths, union⟩ := compileSources_union built valid validExclude Batch.plainOptions
  obtain rfl : paths = [⟨"a.apib".toList⟩, ⟨"docs/b.apib".toList⟩] :=
    Except.ok.inj (union.listed.symm.trans (by decide +kernel))
  obtain ⟨paths, alone⟩ := compileSources_union built lone validExclude Batch.plainOptions
  obtain rfl : paths = [⟨"a.apib".toList⟩, ⟨"docs/b.apib".toList⟩] :=
    Except.ok.inj (alone.listed.symm.trans (by decide +kernel))
  have still : ∀ path ∈ [⟨"a.apib".toList⟩, ⟨"docs/b.apib".toList⟩],
      Store.fileSystem.draws published Batch.plainOptions path = false := by decide +kernel
  have succeeds : Batch.Schedule.Succeeds (.inOrder [⟨"a.apib".toList⟩, ⟨"docs/b.apib".toList⟩]
      (Generator.seeded 0) : Store.fileSystem.Run published Batch.plainOptions _ _) := by
    unfold Batch.Schedule.Succeeds
    decide +kernel
  refine ⟨built, valid, validExclude, union, ?_, ?_⟩
  · rw [union.compiled]
    exact union.unordered still _ succeeds _ (by simp) _ FileSystem.compileSources_returns
  · rw [alone.compiled]
    exact alone.single still _ succeeds _ rfl _ FileSystem.compileGlob_returns

end Store
end ApiBlueprint

import Mathlib
import ApiBlueprint.Config.Discovery
import ApiBlueprint.Proofs.Config.Layering
import ApiBlueprint.Proofs.Files.Location
import ApiBlueprint.Proofs.Path.Below

/-!
The configuration of a working folder stacks the defaults, the file of the nearest repository, the
file of the folder and the named file, as far as they exist, and follows the highest of them.
-/

namespace ApiBlueprint

open FileTree

inductive Layer.IsRead (tree : FileTree) : Layer → Prop
  | defaults {base : Path} : IsRead tree ⟨⟨.defaults, none, base⟩, .defaults⟩
  | file {kind : LayerKind} {path base : Path} {text : Text} {contents : ConfigFile}
      (read : tree.read path = .ok text) (means : ConfigFile.read text = .ok contents) :
      IsRead tree ⟨⟨kind, some path, base⟩, contents⟩

namespace Config

def fileAt (location : Location) : Path := pathTo (location ++ [fileName.bytes])

def IsRepository (tree : FileTree) (location : Location) : Prop :=
  tree.contains (pathTo (location ++ [Text.bytes ".git".toList])) = true

/-- The nearest folder with a `.git`, from a folder upwards. -/
structure NearestRepository (tree : FileTree) (location root : Location) : Prop where
  above : root <+: location
  repository : IsRepository tree root
  nearest : ∀ other, other <+: location → IsRepository tree other → other <+: root

def IsNamed (location : Location) (named : Option Path) (path : Path) : Prop :=
  ∃ name, named = some name ∧ path.same ((pathTo location).join name) = true

inductive Holds (tree : FileTree) (location : Location) (named : Option Path) : LayerSource → Prop
  | defaults : Holds tree location named ⟨.defaults, none, pathTo location⟩
  | gitRoot {root : Location} (nearest : NearestRepository tree location root)
      (elsewhere : root ≠ location) (isFile : tree.isFile (fileAt root) = true)
      (unnamed : ¬IsNamed location named (fileAt root)) :
      Holds tree location named ⟨.gitRoot, some (fileAt root), pathTo root⟩
  | workingFolder (isFile : tree.isFile (fileAt location) = true)
      (unnamed : ¬IsNamed location named (fileAt location)) :
      Holds tree location named ⟨.workingFolder, some (fileAt location), pathTo location⟩
  | override {name base : Path} (given : named = some name)
      (isFile : tree.isFile ((pathTo location).join name) = true)
      (folder : ((pathTo location).join name).parent? = some base) :
      Holds tree location named ⟨.override, some ((pathTo location).join name), base⟩

variable {tree : FileTree} {location : Location} {named : Option Path}

theorem plain_fileName : (Component.name fileName.bytes).IsPlain := by
  constructor <;> decide

theorem plain_git : (Component.name ".git".toList).IsPlain := by
  constructor <;> decide

theorem ofFile_fileAt (kind : LayerKind) (plain : IsPlain location) :
    LayerSource.ofFile kind ((pathTo location).join fileName) =
      ⟨kind, some (fileAt location), pathTo location⟩ := by
  have whole : IsPlain (location ++ [fileName.bytes]) :=
    isPlain_append.mpr ⟨plain, List.forall_mem_singleton.mpr plain_fileName⟩
  have spelled : (pathTo location).join fileName = fileAt location := join_pathTo whole
  have folder : (fileAt location).parent? = some (pathTo location) := parent_pathTo whole
  unfold LayerSource.ofFile
  rw [spelled, folder, Option.getD_some]

theorem isRepository_iff (plain : IsPlain location) :
    tree.contains ((pathTo location).join ⟨".git".toList⟩) = true ↔ IsRepository tree location := by
  rw [join_pathTo (isPlain_append.mpr ⟨plain, List.forall_mem_singleton.mpr plain_git⟩)]
  rfl

theorem gitRoot_eq_some_iff (plain : IsPlain location) {folder : Path} :
    gitRoot? tree (pathTo location) = some folder ↔
      ∃ root, NearestRepository tree location root ∧ pathTo root = folder := by
  unfold gitRoot?
  rw [ancestors_pathTo plain, List.find?_map, Option.map_eq_some_iff]
  refine exists_congr fun root => and_congr_left fun _ => ?_
  rw [find_inits_eq_some_iff]
  constructor
  · rintro ⟨above, repository, nearest⟩
    refine ⟨above, (isRepository_iff (plain.of_prefix above)).mp repository, ?_⟩
    exact fun other higher marked =>
      nearest other higher ((isRepository_iff (plain.of_prefix higher)).mpr marked)
  · rintro ⟨above, repository, nearest⟩
    refine ⟨above, (isRepository_iff (plain.of_prefix above)).mpr repository, ?_⟩
    exact fun other higher marked =>
      nearest other higher ((isRepository_iff (plain.of_prefix higher)).mp marked)

theorem NearestRepository.unique {root other : Location}
    (nearest : NearestRepository tree location root) (also : NearestRepository tree location other) :
    other = root :=
  (nearest.nearest other also.above also.repository).eq_of_length_le
    (also.nearest root nearest.above nearest.repository).length_le

theorem candidates_repository (plain : IsPlain location) {root : Location}
    (nearest : NearestRepository tree location root) (elsewhere : root ≠ location) :
    candidates tree (pathTo location) =
      [⟨.gitRoot, some (fileAt root), pathTo root⟩,
        ⟨.workingFolder, some (fileAt location), pathTo location⟩] := by
  have plainRoot : IsPlain root := plain.of_prefix nearest.above
  have found : gitRoot? tree (pathTo location) = some (pathTo root) :=
    (gitRoot_eq_some_iff plain).mpr ⟨root, nearest, rfl⟩
  have differs : ¬(pathTo root).same (pathTo location) = true := by
    rw [same_pathTo plainRoot plain]
    exact elsewhere
  simp only [candidates, found, if_neg differs, ofFile_fileAt _ plainRoot, ofFile_fileAt _ plain]
  rfl

theorem candidates_alone (plain : IsPlain location)
    (alone : ∀ root, NearestRepository tree location root → root = location) :
    candidates tree (pathTo location) =
      [⟨.workingFolder, some (fileAt location), pathTo location⟩] := by
  unfold candidates
  rw [ofFile_fileAt _ plain]
  cases found : gitRoot? tree (pathTo location) with
  | none => rfl
  | some folder =>
    obtain ⟨root, nearest, rfl⟩ := (gitRoot_eq_some_iff plain).mp found
    have here : (pathTo root).same (pathTo location) = true := by
      rw [same_pathTo (plain.of_prefix nearest.above) plain]
      exact alone root nearest
    simp only [if_pos here]
    rfl

theorem candidates_cases (tree : FileTree) (plain : IsPlain location) :
    (∃ root, NearestRepository tree location root ∧ root ≠ location ∧
      candidates tree (pathTo location) =
        [⟨.gitRoot, some (fileAt root), pathTo root⟩,
          ⟨.workingFolder, some (fileAt location), pathTo location⟩]) ∨
    (∀ root, NearestRepository tree location root → root = location) ∧
      candidates tree (pathTo location) =
        [⟨.workingFolder, some (fileAt location), pathTo location⟩] := by
  by_cases alone : ∀ root, NearestRepository tree location root → root = location
  · exact Or.inr ⟨alone, candidates_alone plain alone⟩
  · obtain ⟨root, nearest, elsewhere⟩ :
        ∃ root, NearestRepository tree location root ∧ root ≠ location := by
      simpa using alone
    exact Or.inl ⟨root, nearest, elsewhere, candidates_repository plain nearest elsewhere⟩

theorem mem_candidates (plain : IsPlain location) {source : LayerSource} :
    source ∈ candidates tree (pathTo location) ↔
      (∃ root, NearestRepository tree location root ∧ root ≠ location ∧
        source = ⟨.gitRoot, some (fileAt root), pathTo root⟩) ∨
      source = ⟨.workingFolder, some (fileAt location), pathTo location⟩ := by
  rcases candidates_cases tree plain with ⟨root, nearest, elsewhere, both⟩ | ⟨alone, one⟩
  · rw [both, List.mem_cons, List.mem_singleton]
    constructor
    · rintro (rfl | rfl)
      · exact Or.inl ⟨root, nearest, elsewhere, rfl⟩
      · exact Or.inr rfl
    · rintro (⟨other, also, -, rfl⟩ | rfl)
      · exact Or.inl (by rw [nearest.unique also])
      · exact Or.inr rfl
  · rw [one, List.mem_singleton]
    constructor
    · exact Or.inr
    · rintro (⟨root, nearest, elsewhere, -⟩ | rfl)
      · exact absurd (alone root nearest) elsewhere
      · rfl

/-- A lower kind comes before a higher one, and none comes twice. -/
def IsRising (sources : List LayerSource) : Prop :=
  sources.Pairwise fun lower higher => lower.kind.rank < higher.kind.rank

theorem candidates_rise (plain : IsPlain location) :
    IsRising (candidates tree (pathTo location)) := by
  rcases candidates_cases tree plain with ⟨root, nearest, elsewhere, both⟩ | ⟨alone, one⟩
  · rw [both]
    apply List.pairwise_pair.mpr
    change LayerKind.gitRoot.rank < LayerKind.workingFolder.rank
    decide
  · rw [one]
    apply List.pairwise_singleton

theorem counts_iff {kind : LayerKind} {path base : Path} :
    counts tree (named.map (pathTo location).join) ⟨kind, some path, base⟩ = true ↔
      tree.isFile path = true ∧ ¬IsNamed location named path := by
  cases named with
  | none => simp [counts, IsNamed]
  | some name => simp [counts, IsNamed]

/-- The files below the named one. -/
def lowerSources (tree : FileTree) (location : Location) (named : Option Path) : List LayerSource :=
  (candidates tree (pathTo location)).filter (counts tree (named.map (pathTo location).join))

theorem discover_cases {sources : List LayerSource}
    (discovered : discover tree (pathTo location) named = .ok sources) :
    (named = none ∧ sources = lowerSources tree location named) ∨
    ∃ name base, named = some name ∧ tree.isFile ((pathTo location).join name) = true ∧
      ((pathTo location).join name).parent? = some base ∧
      sources = lowerSources tree location named ++
        [⟨.override, some ((pathTo location).join name), base⟩] := by
  cases named with
  | none => exact Or.inl ⟨rfl, (Except.ok.inj discovered).symm⟩
  | some name =>
    refine Or.inr ?_
    simp only [discover, Option.map_some] at discovered
    split at discovered
    · rename_i isFile
      obtain ⟨base, folder⟩ := exists_parent_of_isFile (Path.isAbsolute_join rfl) isFile
      refine ⟨name, base, rfl, isFile, folder, ?_⟩
      rw [← Except.ok.inj discovered, LayerSource.ofFile, folder]
      rfl
    · contradiction

theorem holds_of_lower (plain : IsPlain location) {source : LayerSource}
    (member : source ∈ lowerSources tree location named) :
    Holds tree location named source ∧
      (source.kind = .gitRoot ∨ source.kind = .workingFolder) := by
  obtain ⟨candidate, counted⟩ := List.mem_filter.mp member
  rcases (mem_candidates plain).mp candidate with ⟨root, nearest, elsewhere, rfl⟩ | rfl
  · obtain ⟨isFile, unnamed⟩ := counts_iff.mp counted
    exact ⟨.gitRoot nearest elsewhere isFile unnamed, Or.inl rfl⟩
  · obtain ⟨isFile, unnamed⟩ := counts_iff.mp counted
    exact ⟨.workingFolder isFile unnamed, Or.inr rfl⟩

theorem holds_cases (plain : IsPlain location) {source : LayerSource}
    (holds : Holds tree location named source) :
    source = ⟨.defaults, none, pathTo location⟩ ∨ source ∈ lowerSources tree location named ∨
    ∃ name base, named = some name ∧ ((pathTo location).join name).parent? = some base ∧
      source = ⟨.override, some ((pathTo location).join name), base⟩ := by
  have kept {source : LayerSource} (candidate : source ∈ candidates tree (pathTo location))
      (counted : counts tree (named.map (pathTo location).join) source = true) :
      source ∈ lowerSources tree location named := List.mem_filter.mpr ⟨candidate, counted⟩
  cases holds with
  | defaults => exact Or.inl rfl
  | gitRoot nearest elsewhere isFile unnamed =>
    refine Or.inr (Or.inl (kept ?_ (counts_iff.mpr ⟨isFile, unnamed⟩)))
    exact (mem_candidates plain).mpr (Or.inl ⟨_, nearest, elsewhere, rfl⟩)
  | workingFolder isFile unnamed =>
    refine Or.inr (Or.inl (kept ?_ (counts_iff.mpr ⟨isFile, unnamed⟩)))
    exact (mem_candidates plain).mpr (Or.inr rfl)
  | override given isFile folder => exact Or.inr (Or.inr ⟨_, _, given, folder, rfl⟩)

theorem mem_layers (plain : IsPlain location) {sources : List LayerSource}
    (discovered : discover tree (pathTo location) named = .ok sources) {source : LayerSource} :
    source ∈ ⟨.defaults, none, pathTo location⟩ :: sources ↔ Holds tree location named source := by
  rw [List.mem_cons]
  rcases discover_cases discovered with ⟨rfl, rfl⟩ | ⟨name, base, rfl, isFile, folder, rfl⟩
  · constructor
    · rintro (rfl | below)
      · exact .defaults
      · exact (holds_of_lower plain below).1
    · intro holds
      rcases holds_cases plain holds with rfl | below | ⟨_, _, given, -⟩
      · exact Or.inl rfl
      · exact Or.inr below
      · contradiction
  · rw [List.mem_append, List.mem_singleton]
    constructor
    · rintro (rfl | below | rfl)
      · exact .defaults
      · exact (holds_of_lower plain below).1
      · exact .override rfl isFile folder
    · intro holds
      rcases holds_cases plain holds with rfl | below | ⟨other, parent, given, above, rfl⟩
      · exact Or.inl rfl
      · exact Or.inr (Or.inl below)
      · obtain rfl := Option.some.inj given
        obtain rfl := Option.some.inj (folder.symm.trans above)
        exact Or.inr (Or.inr rfl)

theorem layers_rise (plain : IsPlain location) {sources : List LayerSource}
    (discovered : discover tree (pathTo location) named = .ok sources) :
    IsRising (⟨.defaults, none, pathTo location⟩ :: sources) := by
  have middle {source : LayerSource} (below : source ∈ lowerSources tree location named) :
      LayerKind.defaults.rank < source.kind.rank ∧ source.kind.rank < LayerKind.override.rank := by
    rcases (holds_of_lower plain below).2 with kind | kind <;> rw [kind] <;> decide
  have rises : IsRising (lowerSources tree location named) := (candidates_rise plain).filter _
  apply List.pairwise_cons.mpr
  rcases discover_cases discovered with ⟨-, rfl⟩ | ⟨name, base, -, -, -, rfl⟩
  · exact ⟨fun source below => (middle below).1, rises⟩
  · constructor
    · intro source member
      rcases List.mem_append.mp member with below | last
      · exact (middle below).1
      · obtain rfl := List.mem_singleton.mp last
        change LayerKind.defaults.rank < LayerKind.override.rank
        decide
    · apply List.pairwise_append.mpr
      refine ⟨rises, List.pairwise_singleton _ _, ?_⟩
      intro source below last inside
      obtain rfl := List.mem_singleton.mp inside
      exact (middle below).2

theorem pushFile_eq_ok_iff {stack next : LayerStack} {kind : LayerKind} {path base : Path} :
    pushFile tree stack ⟨kind, some path, base⟩ = .ok next ↔
      ∃ text contents, tree.read path = .ok text ∧ ConfigFile.read text = .ok contents ∧
        ⟨⟨kind, some path, base⟩, contents⟩ :: stack = next := by
  unfold pushFile LayerStack.push
  simp only [Option.getD_some]
  cases read : tree.read path with
  | error fault => simp
  | ok text => cases means : ConfigFile.read text <;> simp [means]

/-- By induction on the files, with the stack that lies below them. -/
theorem foldlM_pushFile {sources : List LayerSource} {stack result : LayerStack}
    (files : ∀ source ∈ sources, source.path.isSome = true)
    (pushed : sources.foldlM (pushFile tree) stack = .ok result) :
    ∃ layers : List Layer, result = layers.reverse ++ stack ∧ layers.map Layer.source = sources ∧
      ∀ layer ∈ layers, layer.IsRead tree := by
  induction sources generalizing stack with
  | nil => exact ⟨[], (Except.ok.inj pushed).symm, rfl, List.forall_mem_nil _⟩
  | cons source rest ih =>
    obtain ⟨next, first, others⟩ := bind_eq_ok.mp pushed
    obtain ⟨isFile, filesBehind⟩ := List.forall_mem_cons.mp files
    obtain ⟨kind, path, base⟩ := source
    obtain ⟨path, rfl⟩ := Option.isSome_iff_exists.mp isFile
    obtain ⟨text, contents, read, means, rfl⟩ := pushFile_eq_ok_iff.mp first
    obtain ⟨layers, rfl, behind, allRead⟩ := ih filesBehind others
    refine ⟨⟨⟨kind, some path, base⟩, contents⟩ :: layers, by simp, ?_,
      List.forall_mem_cons.mpr ⟨.file read means, allRead⟩⟩
    rw [List.map_cons, behind]

theorem path_of_discover (plain : IsPlain location) {sources : List LayerSource}
    (discovered : discover tree (pathTo location) named = .ok sources) :
    ∀ source ∈ sources, source.path.isSome = true := by
  intro source member
  have above := (List.pairwise_cons.mp (layers_rise plain discovered)).1 source member
  cases (mem_layers plain discovered).mp (List.mem_cons_of_mem _ member) with
  | defaults => exact absurd above (Nat.lt_irrefl _)
  | gitRoot | workingFolder | override => rfl

/-- How a configuration is put together: from which folder and which layers, the highest first. -/
structure IsLayered (tree : FileTree) (folder : Path) (named : Option Path) (config : Config)
    (location : Location) (stack : LayerStack) : Prop where
  located : tree.locate folder true = .ok location
  workingFolder : config.workingFolder = pathTo location
  holds : ∀ source, source ∈ config.layers ↔ Holds tree location named source
  rises : IsRising config.layers
  sources : config.layers = stack.reverse.map Layer.source
  read : ∀ layer ∈ stack, layer.IsRead tree
  follows : config.Follows stack

/-- The layers of a configuration are those that hold in the working folder, they come in the order
of their kinds, and every setting is that of the highest layer that has its key. -/
theorem load_isLayered {folder : Path} {config : Config}
    (loaded : load tree folder named = .ok config) :
    ∃ location stack, IsLayered tree folder named config location stack := by
  obtain ⟨workingFolder, canonical, afterFolder⟩ := bind_eq_ok.mp loaded
  obtain ⟨location, located, spelled⟩ := bind_eq_ok.mp (mapError_eq_ok.mp canonical)
  obtain rfl := pure_eq_ok.mp spelled
  obtain ⟨sources, discovered, afterSources⟩ := bind_eq_ok.mp afterFolder
  obtain ⟨stack, stacked, resolved⟩ := bind_eq_ok.mp afterSources
  obtain ⟨clean, rfl⟩ := LayerStack.resolve_eq_ok_iff.mp resolved
  have plain : IsPlain location := locate_isPlain located
  obtain ⟨layers, whole, above, read⟩ := foldlM_pushFile (path_of_discover plain discovered) stacked
  have bottom : ⟨⟨.defaults, none, pathTo location⟩, .defaults⟩ ∈ stack := by
    rw [whole]
    exact List.mem_append_right _ List.mem_cons_self
  have stackSources : stack.reverse.map Layer.source =
      ⟨.defaults, none, pathTo location⟩ :: sources := by
    simp [whole, LayerStack.ofDefaults, above]
  refine ⟨location, stack, located, rfl, ?holds, ?rises, rfl, ?read,
    LayerStack.settings_follow bottom rfl clean⟩
  case holds =>
    intro source
    change source ∈ stack.reverse.map Layer.source ↔ _
    rw [stackSources]
    exact mem_layers plain discovered
  case rises =>
    change IsRising (stack.reverse.map Layer.source)
    rw [stackSources]
    exact layers_rise plain discovered
  case read =>
    intro layer member
    rw [whole] at member
    rcases List.mem_append.mp member with file | defaults
    · exact read layer (List.mem_reverse.mp file)
    · obtain rfl := List.mem_singleton.mp defaults
      exact .defaults

def nested : FileTree :=
  .folder [("w".toList, .folder [
    (".git".toList, .folder []),
    (".apib.toml".toList,
      .file (.text "project.name = \"w\"\ndist.output_dir = \"build\"".toList)),
    ("api".toList, .folder [
      (".apib.toml".toList,
        .file (.text "fixtures.seed = 7\ndist.default_format = \" JSON \"".toList)),
      ("ci.toml".toList, .file (.text "fixtures.seed = 9".toList))])])]

def nestedStack : LayerStack := [
  ⟨⟨.override, some ⟨"/w/api/ci.toml".toList⟩, ⟨"/w/api".toList⟩⟩, { seed := some 9 }⟩,
  ⟨⟨.workingFolder, some ⟨"/w/api/.apib.toml".toList⟩, ⟨"/w/api".toList⟩⟩,
    { seed := some 7, defaultFormat := some " JSON ".toList }⟩,
  ⟨⟨.gitRoot, some ⟨"/w/.apib.toml".toList⟩, ⟨"/w".toList⟩⟩,
    { name := some "w".toList, outputFolder := some ⟨"build".toList⟩ }⟩,
  ⟨⟨.defaults, none, ⟨"/w/api".toList⟩⟩, .defaults⟩]

example :
    let config := nestedStack.settings ⟨"/w/api".toList⟩
    (config.project.name, config.seed, config.defaultFormat) =
        (some "w".toList, some 9, "json".toList) ∧
      (config.project.root, config.outputFolder) = (⟨"/w/api".toList⟩, ⟨"/w/build".toList⟩) := by
  decide +kernel

theorem load_isLayered_nested :
    load nested ⟨"/w/api".toList⟩ (some ⟨"ci.toml".toList⟩) =
      .ok (nestedStack.settings ⟨"/w/api".toList⟩) ∧
    ∃ location stack, IsLayered nested ⟨"/w/api".toList⟩ (some ⟨"ci.toml".toList⟩)
      (nestedStack.settings ⟨"/w/api".toList⟩) location stack := by
  have folder : nested.canonical ⟨"/w/api".toList⟩ = .ok ⟨"/w/api".toList⟩ := by cbv
  have discovered : discover nested ⟨"/w/api".toList⟩ (some ⟨"ci.toml".toList⟩) =
      .ok (nestedStack.reverse.tail.map Layer.source) := by cbv
  have pushed : (nestedStack.reverse.tail.map Layer.source).foldlM (pushFile nested)
      (.ofDefaults ⟨"/w/api".toList⟩) = .ok nestedStack := by
    refine bind_eq_ok.mpr ⟨_, pushFile_eq_ok_iff.mpr ⟨_, _, by cbv, ?root, rfl⟩,
      bind_eq_ok.mpr ⟨_, pushFile_eq_ok_iff.mpr ⟨_, _, by cbv, ?folder, rfl⟩,
      bind_eq_ok.mpr ⟨_, pushFile_eq_ok_iff.mpr ⟨_, _, by cbv, ?named, rfl⟩, rfl⟩⟩⟩
    all_goals decide +kernel
  have clean : nestedStack.errors = [] := by decide +kernel
  have loaded : load nested ⟨"/w/api".toList⟩ (some ⟨"ci.toml".toList⟩) =
      .ok (nestedStack.settings ⟨"/w/api".toList⟩) :=
    bind_eq_ok.mpr ⟨_, mapError_eq_ok.mpr folder, bind_eq_ok.mpr ⟨_, discovered,
      bind_eq_ok.mpr ⟨_, pushed, LayerStack.resolve_eq_ok_iff.mpr ⟨clean, rfl⟩⟩⟩⟩
  exact ⟨loaded, load_isLayered loaded⟩

end Config
end ApiBlueprint

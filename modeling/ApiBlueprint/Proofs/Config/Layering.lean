import ApiBlueprint.Config.Settings
import ApiBlueprint.Proofs.Outcome

/-!
What a stack of layers settles on: every key has the value of the highest layer that sets it, and a
path is seen from the folder of that layer.
-/

namespace ApiBlueprint

theorem Glob.text_of_read {text : Text} {glob : Glob} (read : Glob.read text = .ok glob) :
    glob.text = text := by
  unfold Glob.read at read
  split at read
  · obtain rfl := Except.ok.inj read
    rfl
  · contradiction

namespace LayerStack

variable {Value : Type}

/-- The layer sets the key to the value, and no layer above it sets the key. -/
def Decides (stack : LayerStack) (get : ConfigFile → Option Value) (layer : Layer) (value : Value) :
    Prop :=
  ∃ above below, stack = above ++ layer :: below ∧ get layer.file = some value ∧
    ∀ other ∈ above, get other.file = none

theorem lookup_eq_some_iff {stack : LayerStack} {get : ConfigFile → Option Value} {value : Value}
    {source : LayerSource} :
    stack.lookup get = some (value, source) ↔
      ∃ layer, stack.Decides get layer value ∧ layer.source = source := by
  unfold lookup Decides
  rw [List.findSome?_eq_some_iff]
  constructor
  · rintro ⟨above, layer, below, rfl, sets, unset⟩
    obtain ⟨found, held, pair⟩ := Option.map_eq_some_iff.mp sets
    obtain ⟨rfl, rfl⟩ := Prod.mk.inj pair
    refine ⟨layer, ⟨above, below, rfl, held, ?_⟩, rfl⟩
    intro other member
    exact Option.map_eq_none_iff.mp (unset other member)
  · rintro ⟨layer, ⟨above, below, rfl, held, unset⟩, rfl⟩
    refine ⟨above, layer, below, rfl, by simp [held], ?_⟩
    intro other member
    exact Option.map_eq_none_iff.mpr (unset other member)

theorem lookup_eq_none_iff {stack : LayerStack} {get : ConfigFile → Option Value} :
    stack.lookup get = none ↔ ∀ layer ∈ stack, get layer.file = none := by
  unfold lookup
  simp only [List.findSome?_eq_none_iff, Option.map_eq_none_iff]

theorem value_eq_some_iff {stack : LayerStack} {get : ConfigFile → Option Value} {value : Value} :
    stack.value? get = some value ↔ ∃ layer, stack.Decides get layer value := by
  unfold value?
  rw [Option.map_eq_some_iff]
  constructor
  · rintro ⟨⟨_, source⟩, found, rfl⟩
    obtain ⟨layer, decides, -⟩ := lookup_eq_some_iff.mp found
    exact ⟨layer, decides⟩
  · rintro ⟨layer, decides⟩
    exact ⟨(value, layer.source), lookup_eq_some_iff.mpr ⟨layer, decides, rfl⟩, rfl⟩

theorem exists_decides {stack : LayerStack} (get : ConfigFile → Option Value) {layer : Layer}
    (member : layer ∈ stack) (sets : (get layer.file).isSome = true) :
    ∃ decider value, stack.Decides get decider value := by
  cases found : stack.lookup get with
  | none => simp [lookup_eq_none_iff.mp found layer member] at sets
  | some entry =>
    obtain ⟨decider, decides, -⟩ := lookup_eq_some_iff.mp found
    exact ⟨decider, entry.1, decides⟩

/-- The patterns are those of the layer that decides the key, one for each of its texts. -/
def Lists (stack : LayerStack) (get : ConfigFile → Option (List Text)) (patterns : List Glob) :
    Prop :=
  ∃ layer texts, stack.Decides get layer texts ∧
    List.Forall₂ (fun text pattern => Glob.read text = .ok pattern) texts patterns

/-- The path is seen from the folder of the layer that decides the key, or nothing sets the key. -/
def Locates (stack : LayerStack) (get : ConfigFile → Option Path) (fallback result : Path) : Prop :=
  (∃ layer path, stack.Decides get layer path ∧ result = layer.source.base.join path) ∨
    ((∀ layer ∈ stack, get layer.file = none) ∧ result = fallback)

theorem forall₂_readable {texts : List Text}
    (readable : ∀ text ∈ texts, ∃ pattern, Glob.read text = .ok pattern) :
    List.Forall₂ (fun text pattern => Glob.read text = .ok pattern) texts
      (texts.filterMap fun text => (Glob.read text).toOption) := by
  induction texts with
  | nil => exact .nil
  | cons text rest ih =>
    obtain ⟨⟨pattern, read⟩, others⟩ := List.forall_mem_cons.mp readable
    have kept : (Glob.read text).toOption = some pattern := by rw [read]; rfl
    simp only [List.filterMap_cons, kept]
    exact .cons read (ih others)

theorem patterns_lists {stack : LayerStack} {key : String} {get : ConfigFile → Option (List Text)}
    {layer : Layer} (member : layer ∈ stack) (sets : (get layer.file).isSome = true)
    (clean : stack.patternErrors key get = []) : stack.Lists get (stack.patterns get) := by
  obtain ⟨decider, texts, decides⟩ := exists_decides get member sets
  have found : stack.lookup get = some (texts, decider.source) :=
    lookup_eq_some_iff.mpr ⟨decider, decides, rfl⟩
  refine ⟨decider, texts, decides, ?_⟩
  unfold patterns value?
  simp only [found, Option.map_some, Option.getD_some]
  apply forall₂_readable
  intro text inside
  simp only [patternErrors, found, List.filterMap_eq_nil_iff] at clean
  have noError := clean text inside
  cases read : Glob.read text with
  | ok pattern => exact ⟨pattern, rfl⟩
  | error error => simp [read] at noError

theorem path_locates (stack : LayerStack) (get : ConfigFile → Option Path) (fallback : Path) :
    stack.Locates get fallback (stack.path get fallback) := by
  unfold path
  cases found : stack.lookup get with
  | none => exact Or.inr ⟨lookup_eq_none_iff.mp found, rfl⟩
  | some entry =>
    obtain ⟨layer, decides, same⟩ := lookup_eq_some_iff.mp found
    exact Or.inl ⟨layer, entry.1, decides, by rw [same]⟩

end LayerStack

/-- Every setting is the one of the layer that decides its key. -/
structure Config.Follows (config : Config) (stack : LayerStack) : Prop where
  name : ∀ value, config.project.name = some value ↔
    ∃ layer, stack.Decides ConfigFile.name layer value
  exclude : stack.Lists ConfigFile.exclude config.project.exclude
  includePatterns : stack.Lists ConfigFile.includePatterns config.includePatterns
  excludePatterns : stack.Lists ConfigFile.excludePatterns config.excludePatterns
  maxDepth : ∃ layer, stack.Decides ConfigFile.maxDepth layer config.maxDepth
  seed : ∀ value, config.seed = some value ↔ ∃ layer, stack.Decides ConfigFile.seed layer value
  defaultFormat : ∃ layer text, stack.Decides ConfigFile.defaultFormat layer text ∧
    config.defaultFormat = (Text.trim text).map Text.lower
  root : stack.Locates ConfigFile.root config.workingFolder config.project.root
  outputFolder : stack.Locates ConfigFile.outputFolder (config.project.root.join ⟨"dist".toList⟩)
    config.outputFolder

namespace LayerStack

theorem resolve_eq_ok_iff {stack : LayerStack} {workingFolder : Path} {config : Config} :
    stack.resolve workingFolder = .ok config ↔
      stack.errors = [] ∧ config = stack.settings workingFolder := by
  unfold resolve
  cases stack.errors with
  | nil => simp only [Except.ok.injEq, true_and, eq_comm]
  | cons error rest => simp only [reduceCtorEq, false_and]

theorem resolve_ofDefaults (folder : Path) :
    (ofDefaults folder).resolve folder = .ok (Config.defaultsAt folder) :=
  resolve_eq_ok_iff.mpr ⟨rfl, rfl⟩

theorem settings_follow {stack : LayerStack} {workingFolder : Path} {bottom : Layer}
    (member : bottom ∈ stack) (defaults : bottom.file = .defaults) (clean : stack.errors = []) :
    (stack.settings workingFolder).Follows stack := by
  simp only [errors, List.append_eq_nil_iff] at clean
  obtain ⟨⟨⟨⟨exclude, includePatterns⟩, excludePatterns⟩, -⟩, -⟩ := clean
  constructor
  case name => exact fun value => value_eq_some_iff
  case seed => exact fun value => value_eq_some_iff
  case exclude => exact patterns_lists member (by rw [defaults]; rfl) exclude
  case includePatterns => exact patterns_lists member (by rw [defaults]; rfl) includePatterns
  case excludePatterns => exact patterns_lists member (by rw [defaults]; rfl) excludePatterns
  case maxDepth =>
    obtain ⟨decider, value, decides⟩ :=
      exists_decides ConfigFile.maxDepth member (by rw [defaults]; rfl)
    have chosen : stack.depth = value := by
      unfold depth
      rw [value_eq_some_iff.mpr ⟨decider, decides⟩, Option.getD_some]
    rw [← chosen] at decides
    exact ⟨decider, decides⟩
  case defaultFormat =>
    obtain ⟨decider, text, decides⟩ :=
      exists_decides ConfigFile.defaultFormat member (by rw [defaults]; rfl)
    have chosen : stack.format = Text.trim text := by
      unfold format
      rw [value_eq_some_iff.mpr ⟨decider, decides⟩]
    exact ⟨decider, text, decides, congrArg (List.map Text.lower) chosen⟩
  case root => exact path_locates stack ConfigFile.root workingFolder
  case outputFolder => exact path_locates stack ConfigFile.outputFolder _

end LayerStack
end ApiBlueprint

import ApiBlueprint.Proofs.Config.Layering
import ApiBlueprint.Proofs.Format.Destination

/-!
Which values a stack of layers refuses. Of each key only the values of the layer that decides it count:
those that are not allowed are reported one by one, in order and with that layer, and if there are none
the settings have the values as they are allowed.
-/

namespace ApiBlueprint

inductive Setting where
  | pattern (text : Text)
  | depth (value : Nat)
  | format (text : Text)
  deriving DecidableEq, Repr

namespace Setting

def IsAllowed : Setting → Prop
  | pattern text => ∃ glob, Glob.read text = .ok glob
  | depth value => 1 ≤ value ∧ value ≤ 64
  | format text => Text.trim text ≠ [] ∧ ∀ c ∈ Text.trim text, Text.isAlphanumeric c = true

inductive Breaks : Setting → SettingFault → Prop
  | pattern {text : Text} {error : GlobError} (unread : Glob.read text = .error error) :
      Breaks (.pattern text) (.pattern error)
  | depth {value : Nat} (outside : value < 1 ∨ 64 < value) : Breaks (.depth value) (.depth value)
  | format {text : Text}
      (odd : Text.trim text = [] ∨ ∃ c ∈ Text.trim text, Text.isAlphanumeric c = false) :
      Breaks (.format text) (.formatKey (Text.trim text))

theorem not_isAllowed_iff {setting : Setting} :
    ¬setting.IsAllowed ↔ ∃ fault, setting.Breaks fault := by
  constructor
  · intro refused
    cases setting with
    | pattern text =>
      cases read : Glob.read text with
      | ok glob => exact absurd ⟨glob, read⟩ refused
      | error error => exact ⟨_, .pattern read⟩
    | depth value =>
      simp only [IsAllowed] at refused
      exact ⟨_, .depth (by omega)⟩
    | format text =>
      refine ⟨_, .format ?_⟩
      by_contra fine
      simp only [not_or, not_exists, not_and, Bool.not_eq_false] at fine
      exact refused fine
  · rintro ⟨fault, breaks⟩ allowed
    cases breaks with
    | pattern unread =>
      obtain ⟨glob, read⟩ := allowed
      rw [read] at unread
      contradiction
    | depth outside =>
      obtain ⟨low, high⟩ := allowed
      omega
    | format odd =>
      obtain ⟨nonempty, characters⟩ := allowed
      rcases odd with empty | ⟨c, member, other⟩
      · exact nonempty empty
      · simp [characters c member] at other

theorem Breaks.unique {setting : Setting} {fault other : SettingFault}
    (breaks : setting.Breaks fault) (also : setting.Breaks other) : fault = other := by
  cases breaks with
  | pattern unread =>
    cases also with
    | pattern unread' =>
      obtain rfl := Except.error.inj (unread.symm.trans unread')
      rfl
  | depth => cases also; rfl
  | format => cases also; rfl

end Setting

/-- A key whose values are checked, and the values of it in a file that has the key. -/
structure CheckedKey where
  name : Text
  settings : ConfigFile → Option (List Setting)

namespace CheckedKey

def exclude : CheckedKey :=
  ⟨"project.exclude".toList, fun file => file.exclude.map (List.map .pattern)⟩

def includePatterns : CheckedKey :=
  ⟨"sources.include_patterns".toList, fun file => file.includePatterns.map (List.map .pattern)⟩

def excludePatterns : CheckedKey :=
  ⟨"sources.exclude_patterns".toList, fun file => file.excludePatterns.map (List.map .pattern)⟩

def maxDepth : CheckedKey :=
  ⟨"transclusion.max_depth".toList, fun file => file.maxDepth.map fun value => [.depth value]⟩

def defaultFormat : CheckedKey :=
  ⟨"dist.default_format".toList, fun file => file.defaultFormat.map fun text => [.format text]⟩

def all : List CheckedKey :=
  [exclude, includePatterns, excludePatterns, maxDepth, defaultFormat]

end CheckedKey

/-- One error for each value that is not allowed, in the order of the values. -/
inductive Reported (name : Text) (source : LayerSource) : List Setting → List SettingError → Prop
  | nil : Reported name source [] []
  | allowed {setting : Setting} {rest : List Setting} {errors : List SettingError}
      (allowed : setting.IsAllowed) (later : Reported name source rest errors) :
      Reported name source (setting :: rest) errors
  | refused {setting : Setting} {fault : SettingFault} {rest : List Setting}
      {errors : List SettingError} (breaks : setting.Breaks fault)
      (later : Reported name source rest errors) :
      Reported name source (setting :: rest) (⟨name, fault, some source⟩ :: errors)

namespace Reported

variable {name : Text} {source : LayerSource} {settings : List Setting}
  {errors others : List SettingError}

theorem unique (reported : Reported name source settings errors)
    (also : Reported name source settings others) : errors = others := by
  induction reported generalizing others with
  | nil => cases also; rfl
  | allowed allowed _ ih =>
    cases also with
    | allowed _ later => exact ih later
    | refused breaks _ => exact absurd allowed (Setting.not_isAllowed_iff.mpr ⟨_, breaks⟩)
  | refused breaks _ ih =>
    cases also with
    | allowed allowed _ => exact absurd allowed (Setting.not_isAllowed_iff.mpr ⟨_, breaks⟩)
    | refused breaks' later => rw [breaks.unique breaks', ih later]

theorem eq_nil_iff (reported : Reported name source settings errors) :
    errors = [] ↔ ∀ setting ∈ settings, setting.IsAllowed := by
  induction reported with
  | nil => simp
  | allowed allowed _ ih => simp [ih, allowed]
  | refused breaks _ _ =>
    have refused := Setting.not_isAllowed_iff.mpr ⟨_, breaks⟩
    simp [refused]

end Reported

namespace LayerStack

/-- The errors of a key: of the values that the layer has that decides it, and none if no layer sets
it. -/
def ReportsKey (stack : LayerStack) (key : CheckedKey) (errors : List SettingError) : Prop :=
  (∃ layer settings, stack.Decides key.settings layer settings ∧
      Reported key.name layer.source settings errors) ∨
    (∀ layer ∈ stack, key.settings layer.file = none) ∧ errors = []

def Reports (stack : LayerStack) (errors : List SettingError) : Prop :=
  ∃ parts, List.Forall₂ stack.ReportsKey CheckedKey.all parts ∧ parts.flatten = errors

def Refuses (stack : LayerStack) : Prop :=
  ∃ key ∈ CheckedKey.all, ∃ layer settings, stack.Decides key.settings layer settings ∧
    ∃ setting ∈ settings, ¬setting.IsAllowed

def HasTexts (stack : LayerStack) (get : ConfigFile → Option (List Text)) (patterns : List Glob) :
    Prop :=
  (∃ layer texts, stack.Decides get layer texts ∧ patterns.map Glob.text = texts) ∨
    (∀ layer ∈ stack, get layer.file = none) ∧ patterns = []

section Deciding

variable {Value : Type} {stack : LayerStack} {get : ConfigFile → Option Value} {layer other : Layer}
  {value value' : Value}

theorem Decides.lookup (decides : stack.Decides get layer value) :
    stack.lookup get = some (value, layer.source) :=
  lookup_eq_some_iff.mpr ⟨layer, decides, rfl⟩

theorem Decides.mem (decides : stack.Decides get layer value) : layer ∈ stack := by
  obtain ⟨above, below, rfl, -⟩ := decides
  simp

theorem Decides.sets (decides : stack.Decides get layer value) : get layer.file = some value := by
  obtain ⟨above, below, -, sets, -⟩ := decides
  exact sets

theorem Decides.unique (decides : stack.Decides get layer value)
    (also : stack.Decides get other value') : value = value' ∧ layer.source = other.source := by
  have same := decides.lookup.symm.trans also.lookup
  exact Prod.mk.inj (Option.some.inj same)

theorem decides_or_unset (stack : LayerStack) (get : ConfigFile → Option Value) :
    (∃ layer value, stack.Decides get layer value) ∨ ∀ layer ∈ stack, get layer.file = none := by
  cases found : stack.lookup get with
  | none => exact .inr (lookup_eq_none_iff.mp found)
  | some entry =>
    obtain ⟨layer, decides, -⟩ := lookup_eq_some_iff.mp found
    exact .inl ⟨layer, entry.1, decides⟩

theorem map_unset {Result : Type} (unset : ∀ layer ∈ stack, get layer.file = none)
    (make : Value → Result) : ∀ layer ∈ stack, (get layer.file).map make = none := by
  intro layer member
  rw [unset layer member]
  rfl

theorem Decides.map {Result : Type} (decides : stack.Decides get layer value)
    (make : Value → Result) :
    stack.Decides (fun file => (get file).map make) layer (make value) := by
  obtain ⟨above, below, rfl, sets, unset⟩ := decides
  refine ⟨above, below, rfl, by simp [sets], ?_⟩
  intro other member
  simp [unset other member]

end Deciding

variable {stack : LayerStack}

theorem ReportsKey.unique {key : CheckedKey} {errors others : List SettingError}
    (reports : stack.ReportsKey key errors) (also : stack.ReportsKey key others) :
    errors = others := by
  rcases reports with ⟨layer, settings, decides, reported⟩ | ⟨unset, rfl⟩
  · rcases also with ⟨layer', settings', decides', reported'⟩ | ⟨unset, rfl⟩
    · obtain ⟨rfl, source⟩ := decides.unique decides'
      rw [← source] at reported'
      exact reported.unique reported'
    · have none := unset layer decides.mem
      rw [decides.sets] at none
      contradiction
  · rcases also with ⟨layer', settings', decides', -⟩ | ⟨-, rfl⟩
    · have none := unset layer' decides'.mem
      rw [decides'.sets] at none
      contradiction
    · rfl

theorem ReportsKey.ne_nil_iff {key : CheckedKey} {errors : List SettingError}
    (reports : stack.ReportsKey key errors) :
    errors ≠ [] ↔ ∃ layer settings, stack.Decides key.settings layer settings ∧
      ∃ setting ∈ settings, ¬setting.IsAllowed := by
  rcases reports with ⟨layer, settings, decides, reported⟩ | ⟨unset, rfl⟩
  · rw [ne_eq, reported.eq_nil_iff]
    simp only [not_forall]
    constructor
    · rintro ⟨setting, member, refused⟩
      exact ⟨layer, settings, decides, setting, member, refused⟩
    · rintro ⟨layer', settings', decides', setting, member, refused⟩
      obtain ⟨rfl, -⟩ := decides.unique decides'
      exact ⟨setting, member, refused⟩
  · simp only [ne_eq, not_true_eq_false, false_iff]
    rintro ⟨layer, settings, decides, -⟩
    have none := unset layer decides.mem
    rw [decides.sets] at none
    contradiction

theorem reported_patterns (name : Text) (source : LayerSource) (texts : List Text) :
    Reported name source (texts.map .pattern) (texts.filterMap fun text =>
      match Glob.read text with
      | .ok _ => none
      | .error error => some ⟨name, .pattern error, some source⟩) := by
  induction texts with
  | nil => exact .nil
  | cons text rest ih =>
    rw [List.map_cons, List.filterMap_cons]
    cases read : Glob.read text with
    | ok glob => exact .allowed ⟨glob, read⟩ ih
    | error error => exact .refused (.pattern read) ih

theorem reportsKey_patterns (stack : LayerStack) (key : String)
    (get : ConfigFile → Option (List Text)) :
    stack.ReportsKey ⟨key.toList, fun file => (get file).map (List.map .pattern)⟩
      (stack.patternErrors key get) := by
  unfold patternErrors
  rcases stack.decides_or_unset get with ⟨layer, texts, decides⟩ | unset
  · rw [decides.lookup]
    exact .inl ⟨layer, _, decides.map _, reported_patterns key.toList layer.source texts⟩
  · rw [lookup_eq_none_iff.mpr unset]
    exact .inr ⟨map_unset unset _, rfl⟩

theorem reported_single {name : Text} {source : LayerSource} {setting : Setting}
    {fault : SettingFault} {fine : Bool} (allowed : fine = true → setting.IsAllowed)
    (refused : fine = false → setting.Breaks fault) :
    Reported name source [setting] (if fine then [] else [⟨name, fault, some source⟩]) := by
  cases fine with
  | true => exact .allowed (allowed rfl) .nil
  | false => exact .refused (refused rfl) .nil

theorem reportsKey_depth (stack : LayerStack) :
    stack.ReportsKey .maxDepth stack.depthErrors := by
  unfold depthErrors depth value?
  rcases stack.decides_or_unset ConfigFile.maxDepth with ⟨layer, value, decides⟩ | unset
  · refine .inl ⟨layer, _, decides.map _, ?_⟩
    simp only [decides.lookup, Option.map_some, Option.getD_some]
    apply reported_single
    · intro inside
      simp only [Bool.and_eq_true, decide_eq_true_eq] at inside
      exact inside
    · intro outside
      simp only [Bool.and_eq_false_iff, decide_eq_false_iff_not, Nat.not_le]
        at outside
      exact .depth outside
  · refine .inr ⟨map_unset unset _, ?_⟩
    rw [lookup_eq_none_iff.mpr unset]
    rfl

theorem reportsKey_format (stack : LayerStack) :
    stack.ReportsKey .defaultFormat stack.formatErrors := by
  unfold formatErrors format value?
  rcases stack.decides_or_unset ConfigFile.defaultFormat with ⟨layer, text, decides⟩ | unset
  · refine .inl ⟨layer, _, decides.map _, ?_⟩
    simp only [decides.lookup, Option.map_some]
    apply reported_single
    · exact FormatRegistry.isFormatKey_iff.mp
    · intro odd
      refine .format ?_
      by_contra fine
      simp only [not_or, not_exists, not_and, Bool.not_eq_false] at fine
      rw [FormatRegistry.isFormatKey_iff.mpr fine] at odd
      contradiction
  · refine .inr ⟨map_unset unset _, ?_⟩
    rw [lookup_eq_none_iff.mpr unset]
    rfl

theorem reports_errors (stack : LayerStack) : stack.Reports stack.errors := by
  have exclude := reportsKey_patterns stack "project.exclude" ConfigFile.exclude
  have includePatterns :=
    reportsKey_patterns stack "sources.include_patterns" ConfigFile.includePatterns
  have excludePatterns :=
    reportsKey_patterns stack "sources.exclude_patterns" ConfigFile.excludePatterns
  have depth := reportsKey_depth stack
  have format := reportsKey_format stack
  refine ⟨_, .cons exclude (.cons includePatterns (.cons excludePatterns
    (.cons depth (.cons format .nil)))), ?_⟩
  simp only [errors, List.flatten_cons, List.flatten_nil, List.append_nil, List.append_assoc]

theorem reportsKeys_unique {keys : List CheckedKey} {parts others : List (List SettingError)}
    (each : List.Forall₂ stack.ReportsKey keys parts)
    (also : List.Forall₂ stack.ReportsKey keys others) : parts = others :=
  List.right_unique_forall₂' (fun _ _ _ reports also => reports.unique also) each also

theorem reportsKeys_ne_nil_iff {keys : List CheckedKey} {parts : List (List SettingError)}
    (each : List.Forall₂ stack.ReportsKey keys parts) :
    parts.flatten ≠ [] ↔ ∃ key ∈ keys, ∃ layer settings,
      stack.Decides key.settings layer settings ∧ ∃ setting ∈ settings, ¬setting.IsAllowed := by
  induction each with
  | nil => simp
  | cons first _ ih =>
    rw [List.flatten_cons, List.exists_mem_cons_iff, ← ih, ← first.ne_nil_iff]
    simp only [ne_eq, List.append_eq_nil_iff, Classical.not_and_iff_not_or_not]

theorem reports_iff {errors : List SettingError} : stack.Reports errors ↔ errors = stack.errors := by
  constructor
  · rintro ⟨parts, each, rfl⟩
    obtain ⟨parts', each', whole⟩ := stack.reports_errors
    rw [reportsKeys_unique each each', whole]
  · rintro rfl
    exact stack.reports_errors

theorem errors_ne_nil_iff : stack.errors ≠ [] ↔ stack.Refuses := by
  obtain ⟨parts, each, whole⟩ := stack.reports_errors
  rw [← whole]
  exact reportsKeys_ne_nil_iff each

theorem patterns_hasTexts {key : String} {get : ConfigFile → Option (List Text)}
    (clean : stack.patternErrors key get = []) : stack.HasTexts get (stack.patterns get) := by
  rcases stack.decides_or_unset get with ⟨decider, value, decided⟩ | unset
  · have sets : (get decider.file).isSome = true := by rw [decided.sets]; rfl
    obtain ⟨layer, texts, decides, each⟩ := patterns_lists decided.mem sets clean
    refine .inl ⟨layer, texts, decides, ?_⟩
    clear decides
    generalize stack.patterns get = patterns at each
    induction each with
    | nil => rfl
    | cons read _ ih => rw [List.map_cons, Glob.text_of_read read, ih]
  · refine .inr ⟨unset, ?_⟩
    unfold patterns value?
    rw [lookup_eq_none_iff.mpr unset]
    rfl

theorem depth_allowed (clean : stack.depthErrors = []) : 1 ≤ stack.depth ∧ stack.depth ≤ 64 := by
  unfold depthErrors at clean
  split at clean
  case isTrue inside =>
    simp only [Bool.and_eq_true, decide_eq_true_eq] at inside
    exact inside
  case isFalse => contradiction

theorem format_isFormatKey (clean : stack.formatErrors = []) :
    FormatRegistry.isFormatKey stack.format = true := by
  unfold formatErrors at clean
  split at clean
  case isTrue valid => exact valid
  case isFalse => contradiction

end LayerStack

/-- The settings are those of the stack and allowed: the texts of its patterns, a depth between 1 and
64, and a format of ASCII digits and small letters. -/
structure Config.IsValid (config : Config) (stack : LayerStack) : Prop where
  exclude : stack.HasTexts ConfigFile.exclude config.project.exclude
  includePatterns : stack.HasTexts ConfigFile.includePatterns config.includePatterns
  excludePatterns : stack.HasTexts ConfigFile.excludePatterns config.excludePatterns
  maxDepth : 1 ≤ config.maxDepth ∧ config.maxDepth ≤ 64
  defaultFormat : FormatRegistry.IsLowerKey config.defaultFormat

namespace LayerStack

variable {stack : LayerStack} {workingFolder : Path} {config : Config}

theorem isValid_of_resolve (resolved : stack.resolve workingFolder = .ok config) :
    config.IsValid stack := by
  obtain ⟨clean, rfl⟩ := resolve_eq_ok_iff.mp resolved
  simp only [errors, List.append_eq_nil_iff] at clean
  obtain ⟨⟨⟨⟨exclude, includePatterns⟩, excludePatterns⟩, depth⟩, format⟩ := clean
  constructor
  case exclude => exact patterns_hasTexts exclude
  case includePatterns => exact patterns_hasTexts includePatterns
  case excludePatterns => exact patterns_hasTexts excludePatterns
  case maxDepth => exact depth_allowed depth
  case defaultFormat => exact .of_isFormatKey (format_isFormatKey format)

theorem resolve_eq_error_iff {error : ConfigError} :
    stack.resolve workingFolder = .error error ↔ stack.errors ≠ [] ∧ error = .invalid stack.errors := by
  unfold resolve
  cases stack.errors with
  | nil => simp
  | cons first rest => simp [eq_comm]

/-- A stack is refused exactly if some key is decided by a layer with a value that is not allowed. Then
there is one error for each such value, in the order of the keys and of the values of a key, with the
layer that decides the key; what lies below that layer is never reported. Otherwise the settings are
valid. -/
theorem resolve_exact (stack : LayerStack) (workingFolder : Path) :
    ((∃ error, stack.resolve workingFolder = .error error) ↔ stack.Refuses) ∧
    (∀ error, stack.resolve workingFolder = .error error ↔
      ∃ errors, errors ≠ [] ∧ stack.Reports errors ∧ error = .invalid errors) ∧
    ∀ config, stack.resolve workingFolder = .ok config → config.IsValid stack := by
  refine ⟨?refused, ?reported, fun config resolved => isValid_of_resolve resolved⟩
  case refused =>
    rw [← errors_ne_nil_iff]
    simp only [resolve_eq_error_iff]
    constructor
    · rintro ⟨error, some, -⟩
      exact some
    · intro some
      exact ⟨_, some, rfl⟩
  case reported =>
    intro error
    simp only [resolve_eq_error_iff, reports_iff]
    constructor
    · rintro ⟨some, rfl⟩
      exact ⟨_, some, rfl, rfl⟩
    · rintro ⟨errors, some, rfl, rfl⟩
      exact ⟨some, rfl⟩

def twoFiles (named ofFolder : ConfigFile) : LayerStack := [
  ⟨⟨.override, some ⟨"/ci.toml".toList⟩, ⟨"/".toList⟩⟩, named⟩,
  ⟨⟨.workingFolder, some ⟨"/srv/.apib.toml".toList⟩, ⟨"/srv".toList⟩⟩, ofFolder⟩,
  ⟨⟨.defaults, none, ⟨"/srv".toList⟩⟩, .defaults⟩]

def shadowing : LayerStack :=
  twoFiles { includePatterns := some ["*.md".toList], maxDepth := some 64 }
    { includePatterns := some ["[".toList], maxDepth := some 0, defaultFormat := some " JSON ".toList }

def faulty : LayerStack :=
  twoFiles { exclude := some ["[".toList, "a".toList, "\x7b".toList], maxDepth := some 65 }
    { maxDepth := some 0, defaultFormat := some "a-b".toList }

example : faulty.errors.map (fun error => (error.key, error.source.map LayerSource.kind)) = [
    ("project.exclude".toList, some .override), ("project.exclude".toList, some .override),
    ("transclusion.max_depth".toList, some .override),
    ("dist.default_format".toList, some .workingFolder)] := by
  decide +kernel

theorem resolve_exact_shadowing :
    (∃ error, faulty.resolve ⟨"/srv".toList⟩ = .error error) ∧ faulty.Refuses ∧
    ¬shadowing.Refuses ∧
    shadowing.resolve ⟨"/srv".toList⟩ = .ok (shadowing.settings ⟨"/srv".toList⟩) ∧
    (shadowing.settings ⟨"/srv".toList⟩).IsValid shadowing := by
  have dirty : faulty.errors ≠ [] := by decide +kernel
  have clean : shadowing.errors = [] := by decide +kernel
  have refused : ∃ error, faulty.resolve ⟨"/srv".toList⟩ = .error error :=
    ⟨_, resolve_eq_error_iff.mpr ⟨dirty, rfl⟩⟩
  have resolved : shadowing.resolve ⟨"/srv".toList⟩ = .ok (shadowing.settings ⟨"/srv".toList⟩) :=
    resolve_eq_ok_iff.mpr ⟨clean, rfl⟩
  refine ⟨refused, (resolve_exact faulty ⟨"/srv".toList⟩).1.mp refused, ?_, resolved,
    (resolve_exact shadowing ⟨"/srv".toList⟩).2.2 _ resolved⟩
  rw [← (resolve_exact shadowing ⟨"/srv".toList⟩).1, resolved]
  simp

end LayerStack
end ApiBlueprint

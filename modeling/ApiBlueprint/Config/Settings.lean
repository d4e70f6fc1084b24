import ApiBlueprint.Config.Error
import ApiBlueprint.Config.File
import ApiBlueprint.Format.Registry
import ApiBlueprint.Glob.Match

/-!
Settings from a stack of layers. A key has the value that the highest layer with the key gives it;
all values that are not allowed are reported together.
-/

namespace ApiBlueprint

structure Project where
  name : Option Text := none
  root : Path
  exclude : List Glob := []
  deriving Repr

structure Config where
  project : Project
  includePatterns : List Glob
  excludePatterns : List Glob
  maxDepth : Nat
  seed : Option UInt64
  outputFolder : Path
  /-- The key of the format of a destination that is not given, in lower case. -/
  defaultFormat : Text
  workingFolder : Path
  layers : List LayerSource
  deriving Repr

def Project.resolve (project : Project) (path : Path) : Path := project.root.join path

/-- Whether one of several patterns matches a path; stars do not stop at its slashes. -/
def Glob.anyAccepts (patterns : List Glob) (path : Path) : Bool :=
  patterns.any fun pattern => pattern.accepts false path.bytes

structure Layer where
  source : LayerSource
  file : ConfigFile
  deriving Repr

/-- The highest layer comes first. -/
abbrev LayerStack := List Layer

namespace LayerStack

def ofDefaults (base : Path) : LayerStack := [⟨⟨.defaults, none, base⟩, .defaults⟩]

def lookup {Value : Type} (stack : LayerStack) (get : ConfigFile → Option Value) :
    Option (Value × LayerSource) :=
  stack.findSome? fun layer => (get layer.file).map fun value => (value, layer.source)

def value? {Value : Type} (stack : LayerStack) (get : ConfigFile → Option Value) : Option Value :=
  (stack.lookup get).map Prod.fst

def path (stack : LayerStack) (get : ConfigFile → Option Path) (fallback : Path) : Path :=
  match stack.lookup get with
  | some (path, source) => source.base.join path
  | none => fallback

def patterns (stack : LayerStack) (get : ConfigFile → Option (List Text)) : List Glob :=
  ((stack.value? get).getD []).filterMap fun text => (Glob.read text).toOption

def patternErrors (stack : LayerStack) (key : String) (get : ConfigFile → Option (List Text)) :
    List SettingError :=
  match stack.lookup get with
  | none => []
  | some (texts, source) =>
    texts.filterMap fun text =>
      match Glob.read text with
      | .ok _ => none
      | .error error => some ⟨key.toList, .pattern error, some source⟩

def depth (stack : LayerStack) : Nat := (stack.value? ConfigFile.maxDepth).getD 16

def depthErrors (stack : LayerStack) : List SettingError :=
  if 1 ≤ stack.depth && stack.depth ≤ ConfigFile.depthLimit then []
  else
    [⟨"transclusion.max_depth".toList, .depth stack.depth,
      (stack.lookup ConfigFile.maxDepth).map Prod.snd⟩]

def format (stack : LayerStack) : Text :=
  match stack.value? ConfigFile.defaultFormat with
  | some text => Text.trim text
  | none => "apib".toList

def formatErrors (stack : LayerStack) : List SettingError :=
  if FormatRegistry.isFormatKey stack.format then []
  else
    [⟨"dist.default_format".toList, .formatKey stack.format,
      (stack.lookup ConfigFile.defaultFormat).map Prod.snd⟩]

def errors (stack : LayerStack) : List SettingError :=
  stack.patternErrors "project.exclude" ConfigFile.exclude ++
  stack.patternErrors "sources.include_patterns" ConfigFile.includePatterns ++
  stack.patternErrors "sources.exclude_patterns" ConfigFile.excludePatterns ++
  stack.depthErrors ++ stack.formatErrors

def settings (stack : LayerStack) (workingFolder : Path) : Config :=
  let root := stack.path ConfigFile.root workingFolder
  { project := ⟨stack.value? ConfigFile.name, root, stack.patterns ConfigFile.exclude⟩
    includePatterns := stack.patterns ConfigFile.includePatterns
    excludePatterns := stack.patterns ConfigFile.excludePatterns
    maxDepth := stack.depth
    seed := stack.value? ConfigFile.seed
    outputFolder := stack.path ConfigFile.outputFolder (root.join ⟨"dist".toList⟩)
    defaultFormat := stack.format.map Text.lower
    workingFolder
    layers := stack.reverse.map Layer.source }

def resolve (stack : LayerStack) (workingFolder : Path) : Except ConfigError Config :=
  match stack.errors with
  | [] => .ok (stack.settings workingFolder)
  | errors => .error (.invalid errors)

def push (stack : LayerStack) (source : LayerSource) (text : Text) : Except ConfigError LayerStack :=
  match ConfigFile.read text with
  | .ok file => .ok (⟨source, file⟩ :: stack)
  | .error error => .error (.malformed source.path text error)

end LayerStack

namespace Config

def defaultsAt (root : Path) : Config := (LayerStack.ofDefaults root).settings root

def ofText (text : Text) (base : Path) : Except ConfigError Config := do
  let stack ← (LayerStack.ofDefaults base).push ⟨.override, none, base⟩ text
  stack.resolve base

end Config
end ApiBlueprint

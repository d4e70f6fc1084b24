import ApiBlueprint.CommandLine.Run
import ApiBlueprint.Proofs.Config.Validation
import ApiBlueprint.Proofs.Document.Joining
import ApiBlueprint.Proofs.Path.Name
import ApiBlueprint.Proofs.Text.Words

/-!
A source that is written without a destination goes into the output folder, under its stem and with the
default format as its extension, if the stem is a text. What a configuration takes as the default format
is just what an extension can name.
-/

namespace ApiBlueprint

namespace FormatRegistry

variable {key : Text}

theorem IsLowerKey.trim (lower : IsLowerKey key) : Text.trim key = key :=
  (Text.isSqueezed_solid lower.nonempty fun c member =>
    alphanumeric_solid (lower.isAlphanumeric c member)).trimmed

theorem IsLowerKey.of_extensionOf {path : Path} (named : extensionOf path = .ok key) :
    IsLowerKey key := by
  obtain ⟨extension, -, valid, rfl⟩ := extensionOf_eq_ok_iff.mp named
  exact .of_isFormatKey valid

theorem IsLowerKey.bytes (lower : IsLowerKey key) :
    Text.bytes key ≠ [] ∧ OsText.point ∉ Text.bytes key ∧ OsText.slash ∉ Text.bytes key := by
  refine ⟨mt Text.bytes_eq_nil.mp lower.nonempty, ?_, ?_⟩
  · exact mt Text.point_mem_bytes.mp (lower.not_mem (by decide))
  · exact mt Text.slash_mem_bytes.mp (lower.not_mem (by decide))

theorem bytes_append_key (stem key : Text) :
    Text.bytes (stem ++ '.' :: key) = Text.bytes stem ++ OsText.point :: Text.bytes key :=
  Text.bytes_append stem ('.' :: key)

theorem IsLowerKey.plain (lower : IsLowerKey key) {stem : Text}
    (noSlash : OsText.slash ∉ Text.bytes stem) :
    (Component.name (Text.bytes (stem ++ '.' :: key))).IsPlain := by
  obtain ⟨nonempty, noPoint, noSlash'⟩ := lower.bytes
  rw [bytes_append_key]
  exact Path.plain_append_extension noSlash nonempty noPoint noSlash'

theorem IsLowerKey.extensionOf (lower : IsLowerKey key) {stem : Text} (nonempty : Text.bytes stem ≠ [])
    (noSlash : OsText.slash ∉ Text.bytes stem) (folder : Path) :
    extensionOf (folder.join (.ofText (stem ++ '.' :: key))) = .ok key := by
  refine extensionOf_eq_ok_iff.mpr ⟨key, ?_, lower.isFormatKey, lower.map_lower⟩
  unfold Path.extension?
  rw [Path.ofText, Path.fileName?_join_name (lower.plain noSlash), bytes_append_key]
  exact congrArg Prod.snd (Path.splitExtension_append nonempty lower.bytes.2.1)

end FormatRegistry

def LayerStack.ofFormat (folder : Path) (key : Text) : LayerStack :=
  ⟨⟨.override, none, folder⟩, { defaultFormat := some key }⟩ :: LayerStack.ofDefaults folder

theorem LayerStack.resolve_ofFormat {key : Text} (lower : FormatRegistry.IsLowerKey key)
    (folder : Path) : ∃ config, (ofFormat folder key).resolve folder = .ok config ∧
      config.defaultFormat = key := by
  have format : (ofFormat folder key).format = key := lower.trim
  have formatErrors : (ofFormat folder key).formatErrors = [] := by
    unfold LayerStack.formatErrors
    rw [format, if_pos lower.isFormatKey]
  -- The default patterns can be read and the default depth is allowed, whatever the key.
  have others : (ofFormat folder key).errors = (ofFormat folder key).formatErrors := rfl
  refine ⟨_, resolve_eq_ok_iff.mpr ⟨others.trans formatErrors, rfl⟩, ?_⟩
  change (ofFormat folder key).format.map Text.lower = key
  rw [format, lower.map_lower]

theorem Config.resolve_of_load {tree : FileTree} {folder : Path} {named : Option Path}
    {config : Config} (loaded : Config.load tree folder named = .ok config) :
    ∃ (stack : LayerStack) (workingFolder : Path), stack.resolve workingFolder = .ok config := by
  obtain ⟨workingFolder, -, later⟩ := bind_eq_ok.mp loaded
  obtain ⟨_, -, later⟩ := bind_eq_ok.mp later
  obtain ⟨stack, -, resolved⟩ := bind_eq_ok.mp later
  exact ⟨stack, workingFolder, resolved⟩

namespace Session

variable {session : Session} {source target path : Path}

/-- Reading and writing files report no destination, so only the target itself can be none. -/
theorem distTo_invalidDestination
    (refused : (session.distTo source target).1 = .error (.compile (.invalidDestination path))) :
    ∀ key, ¬target.Names key := by
  unfold distTo at refused
  split at refused
  · rename_i error unread
    obtain rfl : error = .invalidDestination path := by simpa using refused
    rcases bind_eq_error.mp unread with failed | ⟨text, -, done⟩
    · obtain ⟨fault, other⟩ := Project.read_error failed
      cases other
    · cases done
  · rename_i document read
    obtain ⟨error, failed, same⟩ := mapError_eq_error.mp (map_eq_error.mp refused)
    obtain rfl := CommandError.compile.inj same
    rcases CompilationUnit.dist_invalidDestination failed with unnamed | ⟨text, unwritten⟩
    · exact unnamed
    · obtain ⟨fault, -, other⟩ := mapError_eq_error.mp unwritten
      cases other

theorem destination_eq_error {config : Config}
    (noStem : ∀ stem : Text, source.stem? ≠ some (Text.bytes stem)) :
    destination config source = .error (.noDestination source) := by
  have unread : (source.stem? >>= OsText.text?) = none := by
    rw [Option.eq_none_iff_forall_ne_some]
    intro stem read
    obtain ⟨bytes, stemmed, decoded⟩ := Option.bind_eq_some_iff.mp read
    exact noStem stem (OsText.text?_eq_some_iff.mp decoded ▸ stemmed)
  unfold destination
  rw [unread]

theorem destination_eq_ok {config : Config} {stem : Text}
    (stemmed : source.stem? = some (Text.bytes stem)) :
    destination config source =
      .ok (config.outputFolder.join (.ofText (stem ++ '.' :: config.defaultFormat))) := by
  have nonempty : stem ≠ [] := mt Text.bytes_eq_nil.mpr (Path.stem_ne_nil stemmed).1
  have read : (source.stem? >>= OsText.text?) = some stem := by
    rw [stemmed]
    exact OsText.text?_bytes stem
  unfold destination
  rw [read]
  cases stem with
  | nil => contradiction
  | cons c rest => rfl

end Session

/-- What the configuration makes of sources without a destination. -/
structure Config.GivesDestinations (config : Config) : Prop where
  /-- Only a source without a stem that is a text has no destination. -/
  noStem : ∀ source : Path, (∀ stem : Text, source.stem? ≠ some (Text.bytes stem)) →
    Session.destination config source = .error (.noDestination source)
  stemmed : ∀ (source : Path) (stem : Text), source.stem? = some (Text.bytes stem) →
    ∃ target, Session.destination config source = .ok target ∧
      target.components =
        config.outputFolder.components ++ [.name (Text.bytes (stem ++ '.' :: config.defaultFormat))] ∧
      FormatRegistry.extensionOf target = .ok config.defaultFormat
  written : ∀ (session : Session), session.config = config → ∀ source path,
    (session.dist source none).1 ≠ .error (.compile (.invalidDestination path))

theorem Config.givesDestinations {config : Config}
    (lower : FormatRegistry.IsLowerKey config.defaultFormat) : config.GivesDestinations := by
  have stemmed (source : Path) (stem : Text) (split : source.stem? = some (Text.bytes stem)) :
      FormatRegistry.extensionOf
        (config.outputFolder.join (.ofText (stem ++ '.' :: config.defaultFormat))) =
          .ok config.defaultFormat := by
    obtain ⟨nonempty, noSlash⟩ := Path.stem_ne_nil split
    exact lower.extensionOf nonempty noSlash config.outputFolder
  refine ⟨fun source noStem => Session.destination_eq_error noStem, fun source stem split => ?_, ?_⟩
  · refine ⟨_, Session.destination_eq_ok split, ?_, stemmed source stem split⟩
    exact Path.components_join_name (lower.plain (Path.stem_ne_nil split).2)
  · rintro session rfl source path refused
    unfold Session.dist at refused
    by_cases named : ∃ stem : Text, source.stem? = some (Text.bytes stem)
    · obtain ⟨stem, split⟩ := named
      simp only [Session.destination_eq_ok split] at refused
      exact Session.distTo_invalidDestination refused _
        (FormatRegistry.extensionOf_eq_ok_iff.mp (stemmed source stem split))
    · simp only [Session.destination_eq_error (not_exists.mp named)] at refused
      cases refused

theorem CommandError.exitCode_eq {error : CommandError} {path : Path}
    (same : error.exitCode = (CompileError.invalidDestination path).exitCode) :
    ∃ path, error = .compile (.invalidDestination path) := by
  cases error with
  | compile error => cases error <;> simp [exitCode, CompileError.exitCode] at same ⊢
  | _ => cases same

/-- Every source with a stem that is a text has a destination in the output folder that names the default
format, and no other source has one, so a dist without a destination never fails for want of an extension;
and the default formats are exactly the keys that an extension can name. -/
theorem dist_without_destination :
    (∀ (stack : LayerStack) (folder : Path) (config : Config),
      stack.resolve folder = .ok config → config.GivesDestinations) ∧
    (∀ (invocation : Invocation) (source : Path) (tree : FileTree) (folder : Path)
      (fallback : Generator), invocation.command = .dist source none → ∀ path,
        (invocation.run tree folder fallback).code ≠
          (CompileError.invalidDestination path).exitCode) ∧
    ∀ key, (∃ (stack : LayerStack) (folder : Path) (config : Config),
        stack.resolve folder = .ok config ∧ config.defaultFormat = key) ↔
      ∃ path, FormatRegistry.extensionOf path = .ok key := by
  have gives (stack : LayerStack) (folder : Path) (config : Config)
      (resolved : stack.resolve folder = .ok config) : config.GivesDestinations :=
    Config.givesDestinations (LayerStack.isValid_of_resolve resolved).defaultFormat
  refine ⟨gives, ?run, fun key => ⟨?accepted, ?named⟩⟩
  case run =>
    intro invocation source tree folder fallback command path same
    unfold Invocation.run at same
    split at same
    · cases same
    · rename_i config loaded
      obtain ⟨stack, workingFolder, resolved⟩ := Config.resolve_of_load loaded
      rw [command] at same
      dsimp only [Session.answer] at same
      split at same
      · cases same
      · rename_i error after failed
        obtain ⟨path, rfl⟩ := CommandError.exitCode_eq same
        exact (gives stack workingFolder config resolved).written _ rfl source path
          (congrArg Prod.fst failed)
  case accepted =>
    rintro ⟨stack, folder, config, resolved, rfl⟩
    obtain ⟨target, -, -, named⟩ :=
      (gives stack folder config resolved).stemmed ⟨"a".toList⟩ ['a'] (by decide)
    exact ⟨target, named⟩
  case named =>
    rintro ⟨path, named⟩
    obtain ⟨config, resolved, same⟩ := LayerStack.resolve_ofFormat (.of_extensionOf named) ⟨"/".toList⟩
    exact ⟨_, _, config, resolved, same⟩

/-- A source with a stem, but one that is no text, has no destination. -/
theorem no_destination_of_bytes :
    let source : Path := ⟨0xFF :: Text.bytes ".apib".toList⟩
    (LayerStack.ofDefaults ⟨"/srv".toList⟩).resolve ⟨"/srv".toList⟩ =
        .ok (Config.defaultsAt ⟨"/srv".toList⟩) ∧
      source.stem? = some [0xFF] ∧
      Session.destination (Config.defaultsAt ⟨"/srv".toList⟩) source = .error (.noDestination source) :=
  ⟨LayerStack.resolve_ofDefaults _, by decide, by decide +kernel⟩

def dotted : Path := ⟨"docs/..v1. ü.md".toList⟩

def distDotted : Invocation where
  command := .dist dotted none

theorem dist_without_destination_dotted :
    (LayerStack.ofDefaults ⟨"/srv".toList⟩).resolve ⟨"/srv".toList⟩ =
      .ok (Config.defaultsAt ⟨"/srv".toList⟩) ∧
    Session.destination (Config.defaultsAt ⟨"/srv".toList⟩) dotted =
      .ok ⟨"/srv/dist/..v1. ü.apib".toList⟩ ∧
    FormatRegistry.extensionOf ⟨"/srv/dist/..v1. ü.apib".toList⟩ = .ok "apib".toList ∧
    distDotted.command = .dist dotted none ∧
    (distDotted.run (.folder []) ⟨"/".toList⟩ (.seeded 0)).code ≠
      (CompileError.invalidDestination dotted).exitCode ∧
    ∃ (stack : LayerStack) (folder : Path) (config : Config),
      stack.resolve folder = .ok config ∧ config.defaultFormat = "html5".toList := by
  have resolved := LayerStack.resolve_ofDefaults ⟨"/srv".toList⟩
  obtain ⟨gives, exits, keys⟩ := dist_without_destination
  have placed : Session.destination (Config.defaultsAt ⟨"/srv".toList⟩) dotted =
      .ok ⟨"/srv/dist/..v1. ü.apib".toList⟩ := by decide +kernel
  obtain ⟨target, destined, -, named⟩ :=
    (gives _ _ _ resolved).stemmed dotted "..v1. ü".toList (by decide +kernel)
  obtain rfl := Except.ok.inj (placed.symm.trans destined)
  refine ⟨resolved, placed, named, rfl, exits distDotted dotted _ _ _ rfl dotted, ?_⟩
  exact (keys "html5".toList).mpr ⟨⟨"a.HTML5".toList⟩, by decide +kernel⟩

end ApiBlueprint

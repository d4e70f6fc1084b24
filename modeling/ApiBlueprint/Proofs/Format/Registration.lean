import ApiBlueprint.Proofs.Format.Destination
import ApiBlueprint.Proofs.Path.Name

/-!
Formats registered one after the other. A key has the place of its first registration and the format
of its last one. Keys are compared as they are written and extensions in lower case, so destinations
lead to the keys without capital letters, and to no other key.
-/

namespace ApiBlueprint

/-- The file name has a stem, and the key stands behind its last point, in letters of any case. -/
def Path.HasExtension (path : Path) (key : Text) : Prop :=
  ∃ (stem : OsText) (extension : Text),
    path.fileName? = some (stem ++ OsText.point :: Text.bytes extension) ∧ stem ≠ [] ∧
      Text.sameLetters extension key = true

namespace FormatRegistry

variable {registered later : List Format} {format : Format} {key : Text}

def registerAll (registry : FormatRegistry) (added : List Format) : FormatRegistry :=
  added.foldl register registry

/-- The format was registered under the key, and none after it. -/
def IsLatest (registered : List Format) (key : Text) (format : Format) : Prop :=
  format.key = key ∧ ∃ before later, registered = before ++ format :: later ∧
    ∀ other ∈ later, other.key ≠ key

theorem keys_register (registry : FormatRegistry) (format : Format) :
    (registry.register format).keys =
      if format.key ∈ registry.keys then registry.keys else registry.keys ++ [format.key] := by
  obtain ⟨formats⟩ := registry
  unfold register keys
  induction formats with
  | nil => rfl
  | cons other rest ih =>
    simp only at ih
    simp only [replaceOrAppend]
    by_cases same : other.key = format.key
    · simp [same]
    · rw [if_neg same, List.map_cons, ih]
      by_cases member : format.key ∈ rest.map Format.key
      · simp [member]
      · simp [member, Ne.symm same]

theorem find?_register_same (registry : FormatRegistry) (format : Format) :
    (registry.register format).find? format.key = some format := by
  obtain ⟨formats⟩ := registry
  unfold register find?
  induction formats with
  | nil => simp [replaceOrAppend]
  | cons other rest ih =>
    simp only [replaceOrAppend]
    split
    · simp
    · rename_i different
      rw [List.find?_cons_of_neg (by simpa using different)]
      exact ih

theorem find?_register_other (registry : FormatRegistry) (different : format.key ≠ key) :
    (registry.register format).find? key = registry.find? key := by
  obtain ⟨formats⟩ := registry
  unfold register find?
  induction formats with
  | nil => simp [replaceOrAppend, different]
  | cons other rest ih =>
    simp only [replaceOrAppend]
    split
    · rename_i same
      rw [List.find?_cons_of_neg (by simpa using different),
        List.find?_cons_of_neg (by simpa [same] using different)]
    · simp only [List.find?_cons]
      rw [ih]

theorem registerAll_append (registry : FormatRegistry) (before later : List Format) :
    registry.registerAll (before ++ later) = (registry.registerAll before).registerAll later :=
  List.foldl_append

theorem keys_registerAll (registered : List Format) :
    (empty.registerAll registered).keys = (registered.map Format.key).eraseDups := by
  induction registered using List.reverseRecOn with
  | nil => rfl
  | append_singleton before format ih =>
    have last : (empty.registerAll (before ++ [format])).keys =
        ((empty.registerAll before).register format).keys :=
      congrArg keys (registerAll_append empty before [format])
    rw [last, keys_register, ih, List.map_append, List.eraseDups_append]
    have added : [format.key].removeAll (before.map Format.key) =
        if format.key ∈ before.map Format.key then [] else [format.key] := by
      rw [List.removeAll, List.filter_singleton]
      simp
    rw [List.map_singleton, added]
    by_cases member : format.key ∈ before.map Format.key <;> simp [member, List.eraseDups_cons]

theorem nodup_keys_registerAll (registered : List Format) :
    (empty.registerAll registered).keys.Nodup := by
  induction registered using List.reverseRecOn with
  | nil => exact List.nodup_nil
  | append_singleton before format ih =>
    rw [registerAll_append]
    change ((empty.registerAll before).register format).keys.Nodup
    rw [keys_register]
    split
    · exact ih
    · rename_i new
      exact List.nodup_append.mpr ⟨ih, List.pairwise_singleton _ _, by grind⟩

theorem find?_registerAll_others (registry : FormatRegistry)
    (others : ∀ other ∈ later, other.key ≠ key) :
    (registry.registerAll later).find? key = registry.find? key := by
  induction later generalizing registry with
  | nil => rfl
  | cons first rest ih =>
    obtain ⟨different, more⟩ := List.forall_mem_cons.mp others
    calc
      (registry.registerAll (first :: rest)).find? key = (registry.register first).find? key :=
        ih (registry.register first) more
      _ = registry.find? key := find?_register_other registry different

theorem find?_of_isLatest (registry : FormatRegistry) (latest : IsLatest registered key format) :
    (registry.registerAll registered).find? key = some format := by
  obtain ⟨rfl, before, later, rfl, others⟩ := latest
  rw [registerAll_append]
  calc
    _ = ((registry.registerAll before).register format).find? format.key :=
      find?_registerAll_others _ others
    _ = some format := find?_register_same _ format

theorem IsLatest.unique {other : Format} (latest : IsLatest registered key format)
    (latest' : IsLatest registered key other) : format = other :=
  Option.some.inj ((find?_of_isLatest empty latest).symm.trans (find?_of_isLatest empty latest'))

/-- By induction from the last registration on. -/
theorem exists_isLatest (member : key ∈ registered.map Format.key) :
    ∃ format, IsLatest registered key format := by
  induction registered using List.reverseRecOn with
  | nil => cases member
  | append_singleton before format ih =>
    by_cases same : format.key = key
    · exact ⟨format, same, before, [], rfl, by simp⟩
    · have earlier : key ∈ before.map Format.key := by simpa [Ne.symm same] using member
      obtain ⟨latest, rfl, front, later, rfl, others⟩ := ih earlier
      refine ⟨latest, rfl, front, later ++ [format], by simp, ?_⟩
      rw [List.forall_mem_append]
      exact ⟨others, List.forall_mem_singleton.mpr same⟩

theorem isLatest_of_find? (found : (empty.registerAll registered).find? key = some format) :
    IsLatest registered key format := by
  have member : key ∈ registered.map Format.key := by
    by_contra missing
    have none : (empty.registerAll registered).find? key = none := by
      rw [find?_eq_none_iff, keys_registerAll, List.mem_eraseDups]
      exact missing
    rw [none] at found
    cases found
  obtain ⟨latest, isLatest⟩ := exists_isLatest member
  obtain rfl := Option.some.inj ((find?_of_isLatest empty isLatest).symm.trans found)
  exact isLatest

theorem isAlphanumeric_of_lower {c : Char} (alphanumeric : Text.isAlphanumeric (Text.lower c) = true) :
    Text.isAlphanumeric c = true := by
  unfold Text.lower at alphanumeric
  split at alphanumeric
  · rename_i upper
    simp [Text.isAlphanumeric, Text.isLetter, upper]
  · exact alphanumeric

theorem isFormatKey_of_lower {text : Text} (lower : IsLowerKey (text.map Text.lower)) :
    isFormatKey text = true := by
  refine isFormatKey_iff.mpr ⟨by simpa using lower.nonempty, ?_⟩
  intro c member
  exact isAlphanumeric_of_lower (lower.isAlphanumeric _ (List.mem_map_of_mem member))

theorem names_of_hasExtension {path : Path} (lower : IsLowerKey key) (has : path.HasExtension key) :
    path.Names key := by
  obtain ⟨stem, extension, named, nonempty, same⟩ := has
  have folded : extension.map Text.lower = key := by
    rw [← lower.map_lower]
    exact beq_iff_eq.mp same
  have valid : isFormatKey extension = true := isFormatKey_of_lower (folded.symm ▸ lower)
  have noPoint : OsText.point ∉ Text.bytes extension := by
    rw [Text.point_mem_bytes]
    intro point
    exact absurd ((isFormatKey_iff.mp valid).2 '.' point) (by decide)
  refine ⟨extension, ?_, valid, folded⟩
  unfold Path.extension?
  rw [named]
  exact congrArg Prod.snd (Path.splitExtension_append nonempty noPoint)

/-- What a registry makes of the formats that were registered in it, in order. -/
structure Serves (registry : FormatRegistry) (registered : List Format) : Prop where
  order : registry.keys = (registered.map Format.key).eraseDups
  distinct : registry.keys.Nodup
  /-- Every key, in letters of any case, holds its latest format. -/
  held : ∀ key ∈ registered.map Format.key,
    ∃ format, IsLatest registered key format ∧ registry.get key = .ok format
  reachable : ∀ key ∈ registered.map Format.key, IsLowerKey key →
    ∃ format, IsLatest registered key format ∧
      ∀ path : Path, path.HasExtension key → registry.forDestination path = .ok format
  /-- Whatever a destination leads to is the latest format of a key without capital letters. -/
  lower : ∀ path format, registry.forDestination path = .ok format →
    IsLowerKey format.key ∧ IsLatest registered format.key format

theorem serves_registerAll (registered : List Format) :
    (empty.registerAll registered).Serves registered where
  order := keys_registerAll registered
  distinct := nodup_keys_registerAll registered
  held key member := by
    obtain ⟨format, latest⟩ := exists_isLatest member
    exact ⟨format, latest, get_eq_ok_iff.mpr (find?_of_isLatest empty latest)⟩
  reachable key member lower := by
    obtain ⟨format, latest⟩ := exists_isLatest member
    refine ⟨format, latest, fun path has => ?_⟩
    exact forDestination_eq_ok_iff.mpr
      ⟨key, names_of_hasExtension lower has, find?_of_isLatest empty latest⟩
  lower path format found := by
    obtain ⟨key, ⟨extension, -, valid, folded⟩, found⟩ := forDestination_eq_ok_iff.mp found
    have latest := isLatest_of_find? found
    obtain rfl := latest.1
    exact ⟨folded ▸ .of_isFormatKey valid, latest⟩

/-- After any registrations in an empty registry or in the standard one, the keys are distinct and in the
order of their first registration, and an extension leads to the latest format of its key if the key
has no capital letter; no destination leads to the others. -/
theorem registered_formats_reachable (added : List Format) :
    (empty.registerAll added).Serves added ∧
      (standard.registerAll added).Serves (Format.apib :: Format.json :: added) :=
  ⟨serves_registerAll added, serves_registerAll (Format.apib :: Format.json :: added)⟩

def fixedFormat (key text : Text) : Format := ⟨key, fun _ => .text text⟩

/-- The later of two formats under one key stands in the place of the earlier one, and an extension with
a capital letter leads to it. -/
theorem registered_formats_reachable_replaced :
    let earlier := fixedFormat "md".toList "1".toList
    let latest := fixedFormat "md".toList "2".toList
    let registry := standard.registerAll [earlier, fixedFormat "html".toList [], latest]
    registry.keys = ["apib".toList, "json".toList, "md".toList, "html".toList] ∧
      registry.forDestination ⟨"dist/.api.v2.Md".toList⟩ = .ok latest := by
  intro earlier latest registry
  obtain ⟨-, order, -, -, reachable, -⟩ :=
    registered_formats_reachable [earlier, fixedFormat "html".toList [], latest]
  refine ⟨order.trans (by decide), ?_⟩
  obtain ⟨format, isLatest, leads⟩ := reachable "md".toList (by decide) ⟨by decide, by decide⟩
  have registeredLast : IsLatest [.apib, .json, earlier, fixedFormat "html".toList [], latest]
      "md".toList latest := ⟨rfl, [.apib, .json, earlier, fixedFormat "html".toList []], [], rfl, by simp⟩
  rw [isLatest.unique registeredLast] at leads
  exact leads _ ⟨".api.v2".toList, "Md".toList, by decide +kernel, by decide, by decide⟩

/-- A format under a key with capital letters is found by the key, but not by its extension, which is
looked up in small letters. -/
theorem registered_format_unreachable :
    let format := fixedFormat "MD".toList []
    let registry := standard.registerAll [format]
    isFormatKey "MD".toList = true ∧
      IsLatest [.apib, .json, format] "MD".toList format ∧
      registry.get "MD".toList = .ok format ∧
      Path.HasExtension ⟨"api.MD".toList⟩ "MD".toList ∧
      registry.forDestination ⟨"api.MD".toList⟩ = .error (.unsupportedFormat "md".toList) := by
  intro format registry
  refine ⟨by decide, ⟨rfl, [.apib, .json], [], rfl, by simp⟩, rfl,
    ⟨"api".toList, "MD".toList, by decide +kernel, by decide, by decide⟩, ?_⟩
  have named : extensionOf ⟨"api.MD".toList⟩ = .ok "md".toList := by decide +kernel
  unfold forDestination
  rw [named]
  rfl

end FormatRegistry
end ApiBlueprint

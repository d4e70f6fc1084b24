import ApiBlueprint.Format.Registry
import ApiBlueprint.Proofs.Outcome
import ApiBlueprint.Proofs.Path.Encoding
import ApiBlueprint.Proofs.Text.Trim

/-!
Which format a destination names: that of its extension, if this is a format key and a format is
registered under it.
-/

namespace ApiBlueprint

/-- The extension of the path is a format key and reads so in lower case. -/
def Path.Names (path : Path) (key : Text) : Prop :=
  ∃ extension : Text, path.extension? = some (Text.bytes extension) ∧
    FormatRegistry.isFormatKey extension = true ∧ extension.map Text.lower = key

namespace FormatRegistry

variable {registry : FormatRegistry} {path : Path}

/-- One or more ASCII digits and small letters. -/
structure IsLowerKey (key : Text) : Prop where
  nonempty : key ≠ []
  characters : ∀ c ∈ key, ('a' ≤ c ∧ c ≤ 'z') ∨ ('0' ≤ c ∧ c ≤ '9')

theorem isFormatKey_iff {key : Text} :
    isFormatKey key = true ↔ key ≠ [] ∧ ∀ c ∈ key, Text.isAlphanumeric c = true := by
  simp [isFormatKey]

theorem lower_isLower {c : Char} (alphanumeric : Text.isAlphanumeric c = true) :
    ('a' ≤ Text.lower c ∧ Text.lower c ≤ 'z') ∨ ('0' ≤ Text.lower c ∧ Text.lower c ≤ '9') := by
  have letters : ∀ n < 26, 'a' ≤ Char.ofNat (n + 97) ∧ Char.ofNat (n + 97) ≤ 'z' := by decide
  obtain ⟨notUpper, same⟩ | ⟨n, letter, same⟩ := Text.lower_cases c
  · rw [same]
    simpa [Text.isAlphanumeric, Text.isLetter, Text.isDigit, notUpper] using alphanumeric
  · rw [same]
    exact .inl (letters n letter)

theorem lower_of_isLower {c : Char} (isLower : ('a' ≤ c ∧ c ≤ 'z') ∨ ('0' ≤ c ∧ c ≤ '9')) :
    Text.lower c = c := by
  unfold Text.lower
  rw [if_neg]
  simp only [Text.isUpper, Char.le_def, UInt32.le_iff_toNat_le, Bool.and_eq_true, decide_eq_true_eq]
    at isLower ⊢
  simp at isLower ⊢
  omega

theorem IsLowerKey.of_isFormatKey {text : Text} (valid : isFormatKey text = true) :
    IsLowerKey (text.map Text.lower) := by
  obtain ⟨nonempty, characters⟩ := isFormatKey_iff.mp valid
  refine ⟨by simpa using nonempty, ?_⟩
  intro c member
  obtain ⟨d, inside, rfl⟩ := List.mem_map.mp member
  exact lower_isLower (characters d inside)

theorem IsLowerKey.isFormatKey {key : Text} (lower : IsLowerKey key) : isFormatKey key = true := by
  refine isFormatKey_iff.mpr ⟨lower.nonempty, ?_⟩
  intro c member
  rcases lower.characters c member with letter | digit
  · simp [Text.isAlphanumeric, Text.isLetter, letter]
  · simp [Text.isAlphanumeric, Text.isDigit, digit]

theorem IsLowerKey.map_lower {key : Text} (lower : IsLowerKey key) : key.map Text.lower = key := by
  calc
    key.map Text.lower = key.map id :=
      List.map_congr_left fun c member => lower_of_isLower (lower.characters c member)
    _ = key := List.map_id key

theorem IsLowerKey.isAlphanumeric {key : Text} (lower : IsLowerKey key) :
    ∀ c ∈ key, Text.isAlphanumeric c = true :=
  (isFormatKey_iff.mp lower.isFormatKey).2

theorem IsLowerKey.not_mem {key : Text} (lower : IsLowerKey key) {c : Char}
    (other : Text.isAlphanumeric c = false) : c ∉ key := by
  intro member
  rw [lower.isAlphanumeric c member] at other
  contradiction

theorem names_iff {key : Text} : path.Names key ↔ ∃ extension,
    (path.extension? >>= OsText.text?) = some extension ∧ isFormatKey extension = true ∧
      extension.map Text.lower = key := by
  simp [Path.Names, Option.bind_eq_some_iff, OsText.text?_eq_some_iff]

theorem extensionOf_eq_ok_iff {key : Text} : extensionOf path = .ok key ↔ path.Names key := by
  rw [names_iff]
  unfold extensionOf
  cases path.extension? >>= OsText.text? with
  | none => simp
  | some extension => cases valid : isFormatKey extension <;> simp [valid]

theorem extensionOf_eq_error_iff {error : CompileError} :
    extensionOf path = .error error ↔
      (∀ key, ¬path.Names key) ∧ .invalidDestination path = error := by
  simp only [← extensionOf_eq_ok_iff]
  unfold extensionOf
  cases path.extension? >>= OsText.text? with
  | none => simp
  | some extension => cases valid : isFormatKey extension <;> simp [valid]

theorem find?_eq_none_iff {key : Text} : registry.find? key = none ↔ key ∉ registry.keys := by
  simp [find?, keys, List.find?_eq_none]

theorem get_eq_ok_iff {key : Text} {format : Format} :
    registry.get key = .ok format ↔ registry.find? key = some format := by
  unfold get
  cases registry.find? key <;> simp

theorem get_eq_error_iff {key : Text} {error : CompileError} :
    registry.get key = .error error ↔ key ∉ registry.keys ∧ .unsupportedFormat key = error := by
  rw [← find?_eq_none_iff]
  unfold get
  cases registry.find? key <;> simp

theorem forDestination_eq_ok_iff {format : Format} :
    registry.forDestination path = .ok format ↔
      ∃ key, path.Names key ∧ registry.find? key = some format := by
  simp only [forDestination, bind_eq_ok, extensionOf_eq_ok_iff, get_eq_ok_iff]

theorem forDestination_eq_error_iff {error : CompileError} :
    registry.forDestination path = .error error ↔
      ((∀ key, ¬path.Names key) ∧ .invalidDestination path = error) ∨
        ∃ key, path.Names key ∧ key ∉ registry.keys ∧ .unsupportedFormat key = error := by
  simp only [forDestination, bind_eq_error, extensionOf_eq_ok_iff, extensionOf_eq_error_iff,
    get_eq_error_iff]

end FormatRegistry
end ApiBlueprint

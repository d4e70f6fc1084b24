import Mathlib.Tactic.SplitIfs
import ApiBlueprint.Path.OsText

/-!
A text and its bytes stand for each other. Bytes that are no text are shown with marks in them, but a dot
is shown in front only if one stands there.
-/

namespace ApiBlueprint

namespace Text

variable {text : Text} {c : Char}

theorem bytes_cons (c : Char) (text : Text) : bytes (c :: text) = String.utf8EncodeChar c ++ bytes text := rfl

theorem bytes_append (before behind : Text) : bytes (before ++ behind) = bytes before ++ bytes behind :=
  List.flatMap_append

theorem encoding_ne_nil (c : Char) : String.utf8EncodeChar c ≠ [] := by
  rw [← List.length_pos_iff, String.length_utf8EncodeChar]
  exact c.utf8Size_pos

theorem bytes_eq_nil : bytes text = [] ↔ text = [] := by
  cases text with
  | nil => exact iff_of_true rfl rfl
  | cons c rest => simp [bytes_cons, encoding_ne_nil c]

theorem encoding_of_small {byte : UInt8} (small : byte < 128) (code : c.val.toNat = byte.toNat) :
    String.utf8EncodeChar c = [byte] := by
  have single : c.utf8Size = 1 := by
    rw [Char.utf8Size_eq_one_iff, UInt32.le_iff_toNat_le, code]
    exact Nat.le_of_lt_succ (UInt8.lt_iff_toNat_lt.mp small)
  have byteOf : c.val.toUInt8 = byte := by
    rw [← UInt8.toNat_inj, UInt32.toNat_toUInt8, code, Nat.mod_eq_of_lt byte.toNat_lt]
  rw [String.utf8EncodeChar_eq_singleton single, byteOf]

theorem code_of_mem_encoding {byte : UInt8} (small : byte < 128)
    (inside : byte ∈ String.utf8EncodeChar c) : c.val.toNat = byte.toNat := by
  rw [UInt8.lt_iff_toNat_lt] at small
  unfold String.utf8EncodeChar at inside
  generalize c.val.toNat = code at inside ⊢
  dsimp only at inside
  split_ifs at inside
  all_goals
    simp only [List.mem_cons, List.not_mem_nil, or_false, ← UInt8.toNat_inj, UInt8.toNat_ofNat',
      UInt8.reduceToNat] at inside small
    omega

theorem mem_bytes_iff {byte : UInt8} (small : byte < 128) (code : c.val.toNat = byte.toNat) :
    byte ∈ bytes text ↔ c ∈ text := by
  unfold bytes
  rw [List.mem_flatMap]
  constructor
  · rintro ⟨d, member, inside⟩
    have same := (code_of_mem_encoding small inside).trans code.symm
    exact Char.ext (UInt32.toNat_inj.mp same) ▸ member
  · intro member
    refine ⟨c, member, ?_⟩
    rw [encoding_of_small small code]
    exact List.mem_singleton_self byte

theorem point_mem_bytes : OsText.point ∈ bytes text ↔ '.' ∈ text := mem_bytes_iff (by decide) rfl

theorem slash_mem_bytes : OsText.slash ∈ bytes text ↔ '/' ∈ text := mem_bytes_iff (by decide) rfl

end Text

namespace OsText

variable {bytes : OsText} {text : Text} {c : Char}

theorem firstChar?_encoded (c : Char) (behind : OsText) :
    firstChar? (String.utf8EncodeChar c ++ behind) = some c := by
  unfold firstChar?
  rw [List.toByteArray_append]
  exact ByteArray.utf8DecodeChar?_utf8EncodeChar_append

theorem eq_of_firstChar? (begins : firstChar? bytes = some c) :
    ∃ behind, bytes = String.utf8EncodeChar c ++ behind := by
  obtain ⟨behind, split⟩ := ByteArray.exists_of_utf8DecodeChar?_eq_some begins
  refine ⟨behind.data.toList, ?_⟩
  have lists := congrArg (fun array => array.data.toList) split
  simpa using lists

theorem charsFrom_length (before behind : OsText) :
    charsFrom before.length (before ++ behind) = chars behind := by
  induction before with
  | nil => rfl
  | cons byte before ih => exact ih

theorem chars_encoded (c : Char) (behind : OsText) :
    chars (String.utf8EncodeChar c ++ behind) = some c :: chars behind := by
  have begins := firstChar?_encoded c behind
  have length := String.length_utf8EncodeChar c
  obtain ⟨byte, more, encoded⟩ := List.exists_cons_of_ne_nil (Text.encoding_ne_nil c)
  rw [encoded] at begins length
  have passed : c.utf8Size - 1 = more.length := by rw [← length, List.length_cons, Nat.add_sub_cancel]
  rw [encoded, List.cons_append, chars, charsFrom, ← List.cons_append, begins]
  dsimp only
  rw [passed, charsFrom_length]

theorem chars_bytes (text : Text) : chars (Text.bytes text) = text.map some := by
  induction text with
  | nil => rfl
  | cons c rest ih => rw [Text.bytes_cons, chars_encoded, ih, List.map_cons]

/-- By induction on the text: each character takes its bytes away. -/
theorem eq_bytes_of_chars (read : chars bytes = text.map some) : bytes = Text.bytes text := by
  induction text generalizing bytes with
  | nil =>
    cases bytes with
    | nil => rfl
    | cons byte rest =>
      rw [chars, charsFrom] at read
      split at read <;> contradiction
  | cons c rest ih =>
    cases bytes with
    | nil => contradiction
    | cons byte more =>
      have begins : firstChar? (byte :: more) = some c := by
        rw [chars, charsFrom] at read
        split at read
        · rename_i found
          rw [found]
          exact (List.cons.inj read).1
        · cases (List.cons.inj read).1
      obtain ⟨behind, split⟩ := eq_of_firstChar? begins
      rw [split, chars_encoded] at read
      rw [split, Text.bytes_cons, ← ih (List.cons.inj read).2]

theorem text?_eq_some_iff : text? bytes = some text ↔ bytes = Text.bytes text := by
  have all (read : List (Option Char)) : read.mapM id = some text ↔ read = text.map some := by
    induction read generalizing text with
    | nil => cases text <;> simp
    | cons first rest ih => cases text <;> simp [List.mapM_cons, Option.bind_eq_some_iff, ih]
  unfold text?
  rw [all]
  exact ⟨eq_bytes_of_chars, fun same => same ▸ chars_bytes text⟩

theorem text?_bytes (text : Text) : text? (Text.bytes text) = some text := text?_eq_some_iff.mpr rfl

theorem display_bytes (text : Text) : display (Text.bytes text) = text := by
  unfold display
  rw [chars_bytes, List.map_map]
  exact List.map_id text

/-- Marks and longer characters begin with another byte than a dot. -/
theorem head?_display : (display bytes).head? = some '.' ↔ bytes.head? = some point := by
  cases bytes with
  | nil => exact iff_of_false (by decide) (by decide)
  | cons byte rest =>
    constructor
    · intro shown
      rw [display, chars, charsFrom] at shown
      split at shown
      · rename_i c begins
        obtain rfl : c = '.' := by simpa using shown
        obtain ⟨behind, split⟩ := eq_of_firstChar? begins
        rw [split]
        rfl
      · simp at shown
    · intro begins
      obtain rfl : byte = point := by simpa using begins
      have dot : point :: rest = String.utf8EncodeChar '.' ++ rest := rfl
      rw [dot, display, chars_encoded]
      rfl

theorem head?_bytes : text.head? = some '.' ↔ (Text.bytes text).head? = some point := by
  rw [← head?_display, display_bytes]

end OsText
end ApiBlueprint

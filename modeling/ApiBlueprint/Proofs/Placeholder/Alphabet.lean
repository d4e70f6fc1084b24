import ApiBlueprint.Placeholder.Interpolate
import ApiBlueprint.Proofs.Random.Range
import ApiBlueprint.Proofs.Text.Decimal
import ApiBlueprint.Proofs.Text.Words

/-!
The characters of the texts that are drawn for placeholders. No text has a bar or a tilde in it, and
those of some kinds have nothing but characters of tokens.
-/

namespace ApiBlueprint

structure IsOver (alphabet : Char → Bool) (text : Text) : Prop where
  nonempty : text ≠ []
  characters : ∀ c ∈ text, alphabet c = true

instance (alphabet : Char → Bool) (text : Text) : Decidable (IsOver alphabet text) :=
  decidable_of_iff (text ≠ [] ∧ ∀ c ∈ text, alphabet c = true)
    ⟨fun ⟨nonempty, characters⟩ => ⟨nonempty, characters⟩,
      fun ⟨nonempty, characters⟩ => ⟨nonempty, characters⟩⟩

namespace IsOver

variable {alphabet : Char → Bool}

theorem mono {wider : Char → Bool} {text : Text} (isOver : IsOver alphabet text)
    (widens : ∀ c, alphabet c = true → wider c = true) : IsOver wider text :=
  ⟨isOver.nonempty, fun c member => widens c (isOver.characters c member)⟩

theorem cons {c : Char} {text : Text} (first : alphabet c = true)
    (characters : ∀ d ∈ text, alphabet d = true) : IsOver alphabet (c :: text) :=
  ⟨List.cons_ne_nil c text, List.forall_mem_cons.mpr ⟨first, characters⟩⟩

theorem append {left right : Text} (before : IsOver alphabet left)
    (characters : ∀ c ∈ right, alphabet c = true) : IsOver alphabet (left ++ right) :=
  ⟨List.append_ne_nil_of_left_ne_nil before.nonempty right,
    List.forall_mem_append.mpr ⟨before.characters, characters⟩⟩

theorem append_cons {left right : Text} {c : Char} (before : IsOver alphabet left)
    (between : alphabet c = true) (behind : IsOver alphabet right) :
    IsOver alphabet (left ++ c :: right) :=
  before.append (cons between behind.characters).characters

theorem characters_joinWith {separator : Char} {parts : List Text}
    (separates : alphabet separator = true)
    (each : ∀ part ∈ parts, ∀ c ∈ part, alphabet c = true) :
    ∀ c ∈ Text.joinWith [separator] parts, alphabet c = true := by
  induction parts with
  | nil =>
    intro c member
    cases member
  | cons first rest ih =>
    obtain ⟨inFirst, inRest⟩ := List.forall_mem_cons.mp each
    by_cases last : rest = []
    · rw [last, Text.joinWith_singleton]
      exact inFirst
    · rw [Text.joinWith_cons first last]
      rw [List.forall_mem_append]
      exact ⟨inFirst, List.forall_mem_cons.mpr ⟨separates, ih inRest⟩⟩

theorem joinWith {separator : Char} {parts : List Text} (some : parts ≠ [])
    (separates : alphabet separator = true) (each : ∀ part ∈ parts, IsOver alphabet part) :
    IsOver alphabet (Text.joinWith [separator] parts) := by
  refine ⟨?_, characters_joinWith separates fun part member => (each part member).characters⟩
  obtain ⟨first, rest, rfl⟩ := List.exists_cons_of_ne_nil some
  have nonempty := (each first List.mem_cons_self).nonempty
  by_cases last : rest = []
  · rwa [last, Text.joinWith_singleton]
  · rw [Text.joinWith_cons first last]
    exact List.append_ne_nil_of_left_ne_nil nonempty _

end IsOver

theorem Text.separator_mem_joinWith (separator : Char) {parts : List Text}
    (several : 1 < parts.length) : separator ∈ joinWith [separator] parts := by
  cases parts with
  | nil => cases several
  | cons first rest =>
    rw [joinWith_cons first (List.ne_nil_of_length_pos (Nat.lt_of_succ_lt_succ several))]
    exact List.mem_append_right first List.mem_cons_self

namespace Placeholder

def isValueCharacter (c : Char) : Bool := isTokenCharacter c || [' ', '-', ':', '@'].contains c

theorem isValueCharacter_of_token (c : Char) (inToken : isTokenCharacter c = true) :
    isValueCharacter c = true := by
  rw [isValueCharacter, inToken, Bool.true_or]

theorem isTokenCharacter_of_alphanumeric {c : Char} (alphanumeric : Text.isAlphanumeric c = true) :
    isTokenCharacter c = true := by
  rw [isTokenCharacter, alphanumeric, Bool.true_or, Bool.true_or]

end Placeholder

open Placeholder (isTokenCharacter isValueCharacter isTokenCharacter_of_alphanumeric)

theorem Text.ofNat_isOver (n : Nat) : IsOver isTokenCharacter (ofNat n) := by
  refine ⟨Nat.toDigits_ne_nil, ?_⟩
  intro c member
  apply isTokenCharacter_of_alphanumeric
  rw [isAlphanumeric, ofNat_digits n c member, Bool.or_true]

namespace Instant

theorem padded_isOver (width n : Nat) : IsOver isTokenCharacter (padded width n) := by
  have digits := Text.ofNat_isOver n
  unfold padded
  refine ⟨List.append_ne_nil_of_right_ne_nil _ digits.nonempty, ?_⟩
  intro c member
  rcases List.mem_append.mp member with zero | digit
  · rw [List.eq_of_mem_replicate zero]
    decide
  · exact digits.characters c digit

theorem render_isOver (instant : Instant) : IsOver isValueCharacter instant.render := by
  have number (width n : Nat) : IsOver isValueCharacter (padded width n) :=
    (padded_isOver width n).mono Placeholder.isValueCharacter_of_token
  unfold render
  simp only [List.append_assoc, List.cons_append]
  refine (number 4 _).append_cons (by decide) ?_
  refine (number 2 _).append_cons (by decide) ?_
  refine (number 2 _).append_cons (by decide) ?_
  refine (number 2 _).append_cons (by decide) ?_
  refine (number 2 _).append_cons (by decide) ?_
  exact (number 2 _).append (by decide)

theorem dash_mem_render (instant : Instant) : '-' ∈ instant.render := by
  simp [render]

end Instant

namespace Placeholder

theorem twoPlaces_isOver (x : Magnitude) : IsOver isTokenCharacter (twoPlaces x) :=
  (Text.ofNat_isOver _).append_cons (by decide) (Instant.padded_isOver 2 _)

theorem pick_isOver {choices : List Text} (some : choices ≠ [])
    (each : ∀ choice ∈ choices, IsOver isTokenCharacter choice) (stream : RandomStream) :
    IsOver isTokenCharacter (stream.pick [] choices).1 :=
  each _ (RandomStream.pick_mem [] some stream)

theorem pickWord_isOver (stream : RandomStream) : IsOver isTokenCharacter (pickWord stream).1 :=
  pick_isOver (by decide) (by decide) stream

theorem pickFirstName_isOver (stream : RandomStream) :
    IsOver isTokenCharacter (stream.pick [] firstNames).1 :=
  pick_isOver (by decide) (by decide) stream

theorem pickLastName_isOver (stream : RandomStream) :
    IsOver isTokenCharacter (stream.pick [] lastNames).1 :=
  pick_isOver (by decide) (by decide) stream

theorem pickDomain_isOver (stream : RandomStream) :
    IsOver isTokenCharacter (stream.pick [] domains).1 :=
  pick_isOver (by decide) (by decide) stream

theorem drawFullName_isOver (stream : RandomStream) :
    IsOver isValueCharacter (drawFullName stream).1 := by
  have first := (pickFirstName_isOver stream).mono isValueCharacter_of_token
  have last := (pickLastName_isOver (stream.pick [] firstNames).2).mono isValueCharacter_of_token
  exact first.append_cons (by decide) last

theorem lower_isTokenCharacter {c : Char} (inToken : isTokenCharacter c = true) :
    isTokenCharacter (Text.lower c) = true := by
  have letters : ∀ n < 26, isTokenCharacter (Char.ofNat (n + 97)) = true := by decide
  obtain ⟨-, same⟩ | ⟨n, letter, same⟩ := Text.lower_cases c
  · rwa [same]
  · rw [same]
    exact letters n letter

theorem lower_isOver {text : Text} (isOver : IsOver isTokenCharacter text) :
    IsOver isTokenCharacter (text.map Text.lower) := by
  refine ⟨by simpa using isOver.nonempty, ?_⟩
  intro c member
  obtain ⟨d, inside, rfl⟩ := List.mem_map.mp member
  exact lower_isTokenCharacter (isOver.characters d inside)

theorem drawEmail_isOver (stream : RandomStream) : IsOver isValueCharacter (drawEmail stream).1 := by
  have first := lower_isOver (pickFirstName_isOver stream)
  have last := lower_isOver (pickLastName_isOver (stream.pick [] firstNames).2)
  have domain := pickDomain_isOver ((stream.pick [] firstNames).2.pick [] lastNames).2
  have names := (first.append_cons (show isTokenCharacter '.' = true by decide) last).mono
    isValueCharacter_of_token
  exact names.append_cons (by decide) (domain.mono isValueCharacter_of_token)

theorem toUpper_isValueCharacter {c : Char} (isValue : isValueCharacter c = true) :
    isValueCharacter c.toUpper = true := by
  have letters : ∀ n < 26, isValueCharacter (Char.ofNat (n + 97)).toUpper = true := by decide
  by_cases lower : 97 ≤ c.toNat ∧ c.toNat ≤ 122
  · have letter := letters (c.toNat - 97) (by omega)
    rwa [Nat.sub_add_cancel lower.1, Char.ofNat_toNat] at letter
  · have same : c.toUpper = c := dif_neg lower
    rwa [same]

theorem capitalize_isOver {text : Text} (isOver : IsOver isValueCharacter text) :
    IsOver isValueCharacter (capitalize text) := by
  cases text with
  | nil => exact absurd rfl isOver.nonempty
  | cons c rest =>
    obtain ⟨first, later⟩ := List.forall_mem_cons.mp isOver.characters
    exact IsOver.cons (toUpper_isValueCharacter first) later

theorem space_mem_capitalize {text : Text} (space : ' ' ∈ text) : ' ' ∈ capitalize text := by
  cases text with
  | nil => exact space
  | cons c rest =>
    rcases List.mem_cons.mp space with rfl | later
    · exact List.mem_cons_self
    · exact List.mem_cons_of_mem _ later

theorem joinWords_isOver {draw : RandomStream → Text × RandomStream}
    (each : ∀ stream, IsOver isValueCharacter (draw stream).1) (count : Nat)
    (stream : RandomStream) :
    IsOver isValueCharacter (joinWords (RandomStream.repeated draw (count + 1) stream).1) := by
  have some : (RandomStream.repeated draw (count + 1) stream).1 ≠ [] := by
    apply List.ne_nil_of_length_pos
    rw [RandomStream.length_repeated]
    exact Nat.succ_pos count
  exact IsOver.joinWith some (by decide) (RandomStream.forall_mem_repeated _ each _ _)

theorem space_mem_joinWords (draw : RandomStream → Text × RandomStream) (count : Nat)
    (stream : RandomStream) :
    ' ' ∈ joinWords (RandomStream.repeated draw (count + 2) stream).1 := by
  apply Text.separator_mem_joinWith
  rw [RandomStream.length_repeated]
  omega

theorem drawSentence_isOver (stream : RandomStream) :
    IsOver isValueCharacter (drawSentence stream).1 := by
  have word (stream : RandomStream) := (pickWord_isOver stream).mono isValueCharacter_of_token
  simp only [drawSentence]
  exact (capitalize_isOver (joinWords_isOver word _ _)).append (by decide)

theorem space_mem_drawSentence (stream : RandomStream) : ' ' ∈ (drawSentence stream).1 := by
  have words := space_mem_joinWords pickWord ((stream.below 7).1 + 4) (stream.below 7).2
  simp only [drawSentence]
  exact List.mem_append_left ['.'] (space_mem_capitalize words)

theorem drawParagraph_isOver (stream : RandomStream) :
    IsOver isValueCharacter (drawParagraph stream).1 := by
  simp only [drawParagraph]
  exact joinWords_isOver drawSentence_isOver _ _

theorem space_mem_drawParagraph (stream : RandomStream) : ' ' ∈ (drawParagraph stream).1 := by
  have sentences := space_mem_joinWords drawSentence ((stream.below 3).1 + 1) (stream.below 3).2
  simp only [drawParagraph]
  exact sentences

def isHexDigit (c : Char) : Bool := Text.isDigit c || ('a' ≤ c && c ≤ 'f')

theorem isValueCharacter_of_hexDigit {c : Char} (isHex : isHexDigit c = true) : isValueCharacter c = true := by
  have letters : 'f' ≤ 'z' := by decide
  apply isValueCharacter_of_token
  apply isTokenCharacter_of_alphanumeric
  simp only [isHexDigit, Bool.or_eq_true, Bool.and_eq_true, decide_eq_true_eq] at isHex
  simp only [Text.isAlphanumeric, Text.isLetter, Bool.or_eq_true, Bool.and_eq_true, decide_eq_true_eq]
  rcases isHex with digit | ⟨low, high⟩
  · exact .inr digit
  · exact .inl (.inr ⟨low, Char.le_trans high letters⟩)

theorem hexByte_isHexDigit {byte : Nat} (small : byte < 256) : ∀ c ∈ hexByte byte, isHexDigit c = true := by
  have all : ∀ n < 16, isHexDigit (hexDigit n) = true := by decide
  exact List.forall_mem_cons.mpr ⟨all _ (by omega), List.forall_mem_singleton.mpr (all _ (by omega))⟩

def hexGroup (bytes : List Nat) (start count : Nat) : Text := ((bytes.drop start).take count).flatMap hexByte

theorem hexGroup_isHexDigit {bytes : List Nat} (small : ∀ byte ∈ bytes, byte < 256) (start count : Nat) :
    ∀ c ∈ hexGroup bytes start count, isHexDigit c = true := by
  intro c member
  obtain ⟨byte, taken, digit⟩ := List.mem_flatMap.mp member
  exact hexByte_isHexDigit (small byte (List.mem_of_mem_drop (List.mem_of_mem_take taken))) c digit

theorem renderGuid_eq (bytes : List Nat) : renderGuid bytes = Text.joinWith ['-'] [hexGroup bytes 0 4,
    hexGroup bytes 4 2, hexGroup bytes 6 2, hexGroup bytes 8 2, hexGroup bytes 10 6] := rfl

theorem renderGuid_isOver {bytes : List Nat} (small : ∀ byte ∈ bytes, byte < 256) :
    IsOver isValueCharacter (renderGuid bytes) := by
  have digits (start count : Nat) : ∀ c ∈ hexGroup bytes start count, isValueCharacter c = true :=
    fun c member => isValueCharacter_of_hexDigit (hexGroup_isHexDigit small start count c member)
  rw [renderGuid_eq]
  refine ⟨by simp [Text.joinWith], IsOver.characters_joinWith (by decide) ?_⟩
  simp only [List.forall_mem_cons, List.not_mem_nil, false_implies, implies_true, and_true]
  exact ⟨digits 0 4, digits 4 2, digits 6 2, digits 8 2, digits 10 6⟩

theorem dash_mem_renderGuid (bytes : List Nat) : '-' ∈ renderGuid bytes :=
  Text.separator_mem_joinWith '-' (Nat.one_lt_succ_succ 3)

theorem modify_lt {bytes : List Nat} {index : Nat} {change : Nat → Nat}
    (small : ∀ byte ∈ bytes, byte < 256) (keeps : ∀ byte, change byte < 256) :
    ∀ byte ∈ bytes.modify index change, byte < 256 := by
  intro byte member
  obtain ⟨place, found⟩ := List.mem_iff_getElem?.mp member
  rw [List.getElem?_modify] at found
  obtain ⟨old, there, rfl⟩ := Option.map_eq_some_iff.mp found
  split
  · exact keeps old
  · exact small old (List.mem_of_getElem? there)

theorem markVersion_lt {bytes : List Nat} (small : ∀ byte ∈ bytes, byte < 256) :
    ∀ byte ∈ markVersion bytes, byte < 256 := by
  unfold markVersion
  apply modify_lt
  · apply modify_lt small
    intro byte
    omega
  · intro byte
    omega

theorem drawGuid_isOver (stream : RandomStream) : IsOver isValueCharacter (drawGuid stream).1 := by
  have byte (rest : RandomStream) : (drawByte rest).1 < 256 := Nat.mod_lt _ (by decide)
  have bytes := RandomStream.forall_mem_repeated (· < 256) byte 16 stream
  exact renderGuid_isOver (markVersion_lt bytes)

theorem ofTimestamp?_drawn (stream : RandomStream) :
    Instant.ofTimestamp? (earliestDate + (stream.belowLong dateSpan).1) =
      some (Instant.ofSeconds (earliestDate + (stream.belowLong dateSpan).1)) := by
  have drawn : (stream.belowLong dateSpan).1 < dateSpan := RandomStream.belowLong_lt (by decide) stream
  have span : earliestDate + dateSpan ≤ Instant.latest := by decide
  exact if_pos (by omega)

theorem drawDate_eq (stream : RandomStream) :
    (drawDate stream).1 = (Instant.ofSeconds (earliestDate + (stream.belowLong dateSpan).1)).render := by
  simp only [drawDate]
  rw [ofTimestamp?_drawn, Option.map_some, Option.getD_some]

/-- Whether the drawn text is one run of characters of tokens, which could stand in a token. -/
def isSolid : Placeholder → Bool
  | word | firstName | lastName | age | boolean | integer | decimal => true
  | sentence | paragraph | fullName | email | guid | isoDate => false

theorem draw_isSolid {placeholder : Placeholder} (solid : placeholder.isSolid = true)
    (stream : RandomStream) : IsOver isTokenCharacter (placeholder.draw stream).1 := by
  cases placeholder with
  | word => exact pickWord_isOver stream
  | firstName => exact pickFirstName_isOver stream
  | lastName => exact pickLastName_isOver stream
  | age => exact Text.ofNat_isOver _
  | boolean =>
    simp only [draw]
    split <;> decide
  | integer => exact Text.ofNat_isOver _
  | decimal => exact twoPlaces_isOver _
  | sentence | paragraph | fullName | email | guid | isoDate => cases solid

theorem draw_isOver (placeholder : Placeholder) (stream : RandomStream) :
    IsOver isValueCharacter (placeholder.draw stream).1 := by
  cases placeholder with
  | sentence => exact drawSentence_isOver stream
  | paragraph => exact drawParagraph_isOver stream
  | fullName => exact drawFullName_isOver stream
  | email => exact drawEmail_isOver stream
  | guid => exact drawGuid_isOver stream
  | isoDate =>
    rw [draw, drawDate_eq]
    exact Instant.render_isOver _
  | word | firstName | lastName | age | boolean | integer | decimal =>
    exact (draw_isSolid rfl stream).mono isValueCharacter_of_token

theorem isSolid_of_draw {placeholder : Placeholder} {stream : RandomStream}
    (inToken : ∀ c ∈ (placeholder.draw stream).1, isTokenCharacter c = true) :
    placeholder.isSolid = true := by
  -- The text of every other kind has a character that no token has.
  have broken {c : Char} (member : c ∈ (placeholder.draw stream).1)
      (other : isTokenCharacter c = false) : placeholder.isSolid = true := by
    rw [inToken c member] at other
    cases other
  cases placeholder with
  | sentence => exact broken (space_mem_drawSentence stream) (by decide)
  | paragraph => exact broken (space_mem_drawParagraph stream) (by decide)
  | fullName => exact broken (List.mem_append_right _ List.mem_cons_self) (c := ' ') (by decide)
  | email => exact broken (List.mem_append_right _ List.mem_cons_self) (c := '@') (by decide)
  | guid => exact broken (dash_mem_renderGuid _) (by decide)
  | isoDate =>
    have dash : '-' ∈ (isoDate.draw stream).1 := by
      rw [draw, drawDate_eq]
      exact Instant.dash_mem_render _
    exact broken dash (by decide)
  | word | firstName | lastName | age | boolean | integer | decimal => rfl

end Placeholder
end ApiBlueprint

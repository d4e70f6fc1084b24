import ApiBlueprint.Proofs.Placeholder.Alphabet
import ApiBlueprint.Proofs.Placeholder.Bare
import ApiBlueprint.Proofs.Placeholder.Calendar

/-!
The languages of the placeholders. Whatever the stream, the text that is drawn for a placeholder belongs
to the language of its kind, and no fallback is taken on the way.
-/

namespace ApiBlueprint

namespace Instant

theorem isPadded_padded {width n : Nat} (small : n < 10 ^ (width + 1)) :
    Text.IsPadded (width + 1) n (padded (width + 1) n) where
  length := by
    have short := Text.length_ofNat_le small
    rw [padded, List.length_append, List.length_replicate]
    omega
  digits := by
    intro c member
    rcases List.mem_append.mp member with zero | digit
    · rw [List.eq_of_mem_replicate zero]
      decide
    · exact Text.ofNat_digits n c digit
  value := (Text.decimal_zeros _ _).trans (Text.decimal_ofNat n)

def IsStamp (instant : Instant) (text : Text) : Prop :=
  ∃ year month day hour minute second, Text.IsPadded 4 instant.year year ∧
    Text.IsPadded 2 instant.month month ∧ Text.IsPadded 2 instant.day day ∧
    Text.IsPadded 2 instant.hour hour ∧ Text.IsPadded 2 instant.minute minute ∧
    Text.IsPadded 2 instant.second second ∧
    text = year ++ '-' :: month ++ '-' :: day ++ 'T' :: hour ++ ':' :: minute ++ ':' :: second ++ ['Z']

theorem daysInMonth_le (year month : Nat) : daysInMonth year month ≤ 31 := by
  unfold daysInMonth
  split
  · split <;> decide
  · split <;> decide

theorem isStamp_render {instant : Instant} (valid : instant.IsValid) (year : instant.year < 10000) :
    instant.IsStamp instant.render := by
  obtain ⟨⟨-, month⟩, ⟨-, day⟩, hour, minute, second⟩ := valid
  have longest := daysInMonth_le instant.year instant.month
  exact ⟨_, _, _, _, _, _, isPadded_padded year, isPadded_padded (by omega), isPadded_padded (by omega),
    isPadded_padded (by omega), isPadded_padded (by omega), isPadded_padded (by omega), rfl⟩

theorem year_le_daysBefore (instant : Instant) : 365 * instant.year ≤ instant.daysBefore := by
  have years : 365 * instant.year ≤ daysBeforeYear instant.year := by
    cases instant.year with
    | zero => exact Nat.zero_le _
    | succ year =>
      rw [daysBeforeYear_succ]
      omega
  unfold daysBefore
  omega

end Instant

namespace Placeholder

def IsSentence (text : Text) : Prop :=
  ∃ words first rest, 6 ≤ words.length ∧ words.length ≤ 12 ∧ (∀ word ∈ words, word ∈ vocabulary) ∧
    joinWords words = Text.lower first :: rest ∧ Text.isUpper first = true ∧ text = first :: (rest ++ ['.'])

def IsParagraph (text : Text) : Prop :=
  ∃ sentences, 3 ≤ sentences.length ∧ sentences.length ≤ 5 ∧ (∀ sentence ∈ sentences, IsSentence sentence) ∧
    text = joinWords sentences

def IsAddress (text : Text) : Prop :=
  (∃ first ∈ firstNames, ∃ last ∈ lastNames, ∃ domain ∈ domains,
    text = first.map Text.lower ++ '.' :: last.map Text.lower ++ '@' :: domain) ∧
  ∀ c ∈ text, Text.isUpper c = false

/-- Groups of 8, 4, 4, 4 and 12 hexadecimal digits in lower case; the third one begins with the version and
the fourth one with the variant. -/
structure IsGuid (text : Text) : Prop where
  length : text.length = 36
  groups : ∃ low middle high clock node, text = Text.joinWith ['-'] [low, middle, high, clock, node] ∧
    [low, middle, high, clock, node].map List.length = [8, 4, 4, 4, 12] ∧
    (∀ group ∈ [low, middle, high, clock, node], ∀ c ∈ group, isHexDigit c = true) ∧
    high.head? = some '4' ∧ ∃ variant ∈ ['8', '9', 'a', 'b'], clock.head? = some variant

def IsTwoPlaced (text : Text) : Prop :=
  ∃ whole places, 1 ≤ whole.length ∧ whole.length ≤ 4 ∧ places.length = 2 ∧
    (∀ c ∈ whole ++ places, Text.isDigit c = true) ∧ text = whole ++ '.' :: places

def IsDate (text : Text) : Prop :=
  ∃ instant : Instant, instant.IsValid ∧
    (⟨2000, 1, 1, 0, 0, 0⟩ : Instant).secondsBefore ≤ instant.secondsBefore ∧
    instant.secondsBefore < (⟨2000, 1, 1, 0, 0, 0⟩ : Instant).secondsBefore + 788400000 ∧
    instant.IsStamp text

def Allows : Placeholder → Text → Prop
  | word, text => text ∈ vocabulary
  | sentence, text => IsSentence text
  | paragraph, text => IsParagraph text
  | firstName, text => text ∈ firstNames
  | lastName, text => text ∈ lastNames
  | fullName, text => ∃ first ∈ firstNames, ∃ last ∈ lastNames, text = first ++ ' ' :: last
  | email, text => IsAddress text
  | age, text => ∃ years, 18 ≤ years ∧ years ≤ 90 ∧ Text.IsNumeral years text
  | guid, text => IsGuid text
  | boolean, text => text = "true".toList ∨ text = "false".toList
  | integer, text => ∃ n ≤ 9999, Text.IsNumeral n text
  | decimal, text => IsTwoPlaced text
  | isoDate, text => IsDate text

theorem exists_head_of_word {word : Text} (member : word ∈ vocabulary) :
    ∃ c rest, word = c :: rest ∧ Text.isUpper c.toUpper = true ∧ Text.lower c.toUpper = c := by
  have all : ∀ word ∈ vocabulary,
      word.head?.any (fun c => Text.isUpper c.toUpper && Text.lower c.toUpper == c) = true := by
    decide
  obtain ⟨c, first, both⟩ := (Option.any_eq_true _ _).mp (all word member)
  obtain ⟨rest, same⟩ := List.head?_eq_some_iff.mp first
  obtain ⟨upper, lower⟩ := Bool.and_eq_true_iff.mp both
  exact ⟨c, rest, same, upper, beq_iff_eq.mp lower⟩

theorem isSentence_of_words {words : List Text} (least : 6 ≤ words.length) (most : words.length ≤ 12)
    (known : ∀ word ∈ words, word ∈ vocabulary) : IsSentence (capitalize (joinWords words) ++ ['.']) := by
  obtain ⟨word, others, rfl⟩ := List.exists_cons_of_length_pos (Nat.lt_of_lt_of_le (by decide) least)
  obtain ⟨c, rest, rfl, upper, lower⟩ := exists_head_of_word (known word List.mem_cons_self)
  have joined : joinWords ((c :: rest) :: others) = c :: joinWords (rest :: others) :=
    Text.joinWith_append_cons [' '] [c] rest others
  refine ⟨_, c.toUpper, joinWords (rest :: others), least, most, known, ?_, upper, ?_⟩
  · rw [joined, lower]
  · rw [joined]
    rfl

theorem drawSentence_isSentence (stream : RandomStream) : IsSentence (drawSentence stream).1 := by
  have count : (stream.below 7).1 < 7 := RandomStream.below_lt (by decide) stream
  have length : (RandomStream.repeated pickWord ((stream.below 7).1 + 6) (stream.below 7).2).1.length =
      (stream.below 7).1 + 6 := RandomStream.length_repeated _ _
  have word (stream : RandomStream) : (pickWord stream).1 ∈ vocabulary :=
    RandomStream.pick_mem [] (by decide) stream
  simp only [drawSentence]
  exact isSentence_of_words (by omega) (by omega) (RandomStream.forall_mem_repeated _ word _ _)

theorem drawParagraph_isParagraph (stream : RandomStream) : IsParagraph (drawParagraph stream).1 := by
  have count : (stream.below 3).1 < 3 := RandomStream.below_lt (by decide) stream
  have length : (RandomStream.repeated drawSentence ((stream.below 3).1 + 3) (stream.below 3).2).1.length =
      (stream.below 3).1 + 3 := RandomStream.length_repeated _ _
  have sentences := RandomStream.forall_mem_repeated IsSentence drawSentence_isSentence
    ((stream.below 3).1 + 3) (stream.below 3).2
  simp only [drawParagraph]
  exact ⟨_, by omega, by omega, sentences, rfl⟩

theorem lower_not_upper (c : Char) : Text.isUpper (Text.lower c) = false := by
  have letters : ∀ n < 26, Text.isUpper (Char.ofNat (n + 97)) = false := by decide
  obtain ⟨notUpper, same⟩ | ⟨n, letter, same⟩ := Text.lower_cases c
  · rwa [same]
  · rw [same]
    exact letters n letter

theorem drawEmail_isAddress (stream : RandomStream) : IsAddress (drawEmail stream).1 := by
  have lowered (name : Text) : ∀ c ∈ name.map Text.lower, Text.isUpper c = false := by
    intro c member
    obtain ⟨d, -, rfl⟩ := List.mem_map.mp member
    exact lower_not_upper d
  have small : ∀ domain ∈ domains, ∀ c ∈ domain, Text.isUpper c = false := by decide
  have first : (stream.pick [] firstNames).1 ∈ firstNames := RandomStream.pick_mem [] (by decide) _
  have last : ((stream.pick [] firstNames).2.pick [] lastNames).1 ∈ lastNames :=
    RandomStream.pick_mem [] (by decide) _
  have domain : (((stream.pick [] firstNames).2.pick [] lastNames).2.pick [] domains).1 ∈ domains :=
    RandomStream.pick_mem [] (by decide) _
  refine ⟨⟨_, first, _, last, _, domain, rfl⟩, ?_⟩
  simp only [drawEmail, List.forall_mem_append, List.forall_mem_cons]
  exact ⟨⟨lowered _, by decide, lowered _⟩, by decide, small _ domain⟩

theorem length_hexGroup {bytes : List Nat} {start count : Nat} (inside : start + count ≤ bytes.length) :
    (hexGroup bytes start count).length = 2 * count := by
  have pairs : (hexGroup bytes start count).length = ((bytes.drop start).take count).length * 2 := by
    simp [hexGroup, hexByte, List.length_flatMap]
  rw [pairs, List.length_take, List.length_drop]
  omega

theorem head?_hexGroup {bytes : List Nat} {start count byte : Nat} (found : bytes[start]? = some byte) :
    (hexGroup bytes start (count + 1)).head? = some (hexDigit (byte / 16)) := by
  obtain ⟨inside, rfl⟩ := List.getElem?_eq_some_iff.mp found
  rw [hexGroup, List.drop_eq_getElem_cons inside]
  rfl

/-- The version and the variant go into the upper digits of their bytes. -/
theorem isGuid_of_bytes {bytes : List Nat} (sixteen : bytes.length = 16) (small : ∀ byte ∈ bytes, byte < 256) :
    IsGuid (renderGuid (markVersion bytes)) := by
  have length : (markVersion bytes).length = 16 := by
    rw [markVersion, List.length_modify, List.length_modify, sixteen]
  have group (start count : Nat) (inside : start + count ≤ 16) :
      (hexGroup (markVersion bytes) start count).length = 2 * count := length_hexGroup (by omega)
  have version : (markVersion bytes)[6]? = some (bytes[6] % 16 + 0x40) := by
    simp [markVersion, sixteen]
  have variant : (markVersion bytes)[8]? = some (bytes[8] % 64 + 0x80) := by
    simp [markVersion, sixteen]
  refine ⟨?_, _, _, _, _, _, renderGuid_eq _, ?_, ?_, ?_, ?_⟩
  · simp [renderGuid_eq, Text.joinWith_cons, Text.joinWith_singleton, group]
  · simp [group]
  · have digits := hexGroup_isHexDigit (markVersion_lt small)
    simp only [List.forall_mem_cons, List.not_mem_nil, false_implies, implies_true, and_true]
    exact ⟨digits 0 4, digits 4 2, digits 6 2, digits 8 2, digits 10 6⟩
  · rw [head?_hexGroup version, show (bytes[6] % 16 + 0x40) / 16 = 4 by omega]
    decide
  · have all : ∀ n < 4, hexDigit (n + 8) ∈ ['8', '9', 'a', 'b'] := by decide
    refine ⟨_, all ((bytes[8] % 64 + 0x80) / 16 - 8) (by omega), ?_⟩
    rw [head?_hexGroup variant, Nat.sub_add_cancel (by omega)]

theorem drawGuid_isGuid (stream : RandomStream) : IsGuid (drawGuid stream).1 := by
  have byte (rest : RandomStream) : (drawByte rest).1 < 256 := Nat.mod_lt _ (by decide)
  have bytes := RandomStream.forall_mem_repeated (· < 256) byte 16 stream
  have sixteen : (RandomStream.repeated drawByte 16 stream).1.length = 16 := RandomStream.length_repeated _ _
  exact isGuid_of_bytes sixteen bytes

theorem twoPlaces_isTwoPlaced {x : Magnitude} (small : x.AtMost 1000) : IsTwoPlaced (twoPlaces x) := by
  have most := Magnitude.hundredths_le small
  have whole : (Text.ofNat (x.hundredths / 100)).length ≤ 4 := Text.length_ofNat_le (by omega)
  have places : Text.IsPadded 2 (x.hundredths % 100) (Instant.padded 2 (x.hundredths % 100)) :=
    Instant.isPadded_padded (by omega)
  refine ⟨_, _, List.length_pos_iff.mpr Nat.toDigits_ne_nil, whole, places.length, ?_, twoPlaces_eq x⟩
  exact List.forall_mem_append.mpr ⟨Text.ofNat_digits _, places.digits⟩

theorem drawDate_isDate (stream : RandomStream) : IsDate (drawDate stream).1 := by
  have drawn : (stream.belowLong dateSpan).1 < 788400000 := RandomStream.belowLong_lt (by decide) stream
  have start : (⟨2000, 1, 1, 0, 0, 0⟩ : Instant).secondsBefore = 63113904000 := by
    simp [Instant.secondsBefore, Instant.daysBefore, Instant.daysBeforeYear_succ 1999, Instant.daysBeforeMonth]
  have epoch : (⟨1970, 1, 1, 0, 0, 0⟩ : Instant).secondsBefore + earliestDate = 63113904000 := by
    simp [Instant.secondsBefore, Instant.daysBefore, Instant.daysBeforeYear_succ 1969, Instant.daysBeforeMonth,
      earliestDate]
  have valid := Instant.ofSeconds_isValid (earliestDate + (stream.belowLong dateSpan).1)
  have before := Instant.secondsBefore_ofSeconds (earliestDate + (stream.belowLong dateSpan).1)
  rw [← Nat.add_assoc, epoch] at before
  rw [drawDate_eq]
  refine ⟨_, valid, by omega, by omega, Instant.isStamp_render valid ?_⟩
  have years := Instant.year_le_daysBefore (Instant.ofSeconds (earliestDate + (stream.belowLong dateSpan).1))
  rw [Instant.secondsBefore] at before
  omega

theorem draw_allows (placeholder : Placeholder) (stream : RandomStream) :
    placeholder.Allows (placeholder.draw stream).1 := by
  have known {choices : List Text} (some : choices ≠ []) (stream : RandomStream) :
      (stream.pick [] choices).1 ∈ choices := RandomStream.pick_mem [] some stream
  cases placeholder with
  | word => exact known (by decide) stream
  | sentence => exact drawSentence_isSentence stream
  | paragraph => exact drawParagraph_isParagraph stream
  | firstName => exact known (by decide) stream
  | lastName => exact known (by decide) stream
  | fullName => exact ⟨_, known (by decide) stream, _, known (by decide) (stream.pick [] firstNames).2, rfl⟩
  | email => exact drawEmail_isAddress stream
  | age =>
    have years : (stream.below 73).1 < 73 := RandomStream.below_lt (by decide) stream
    exact ⟨(stream.below 73).1 + 18, Nat.le_add_left 18 _, by omega, Text.isNumeral_ofNat _⟩
  | guid => exact drawGuid_isGuid stream
  | boolean =>
    simp only [draw, Allows]
    split
    · exact .inl rfl
    · exact .inr rfl
  | integer =>
    have small : (stream.below 10000).1 < 10000 := RandomStream.below_lt (by decide) stream
    exact ⟨_, Nat.le_of_lt_succ small, Text.isNumeral_ofNat _⟩
  | decimal => exact twoPlaces_isTwoPlaced (RandomStream.magnitudeBelow_atMost (by decide) stream)
  | isoDate => exact drawDate_isDate stream

/-- What is drawn for a placeholder belongs to the language of its kind and is not empty. The fallbacks
are never taken: a pick from one of the lists is a member of it whatever its fallback is, and the seconds
of a date are those of an instant, which is written out. -/
theorem draw_in_language (placeholder : Placeholder) (stream : RandomStream) :
    placeholder.Allows (placeholder.draw stream).1 ∧ (placeholder.draw stream).1 ≠ [] ∧
      (∀ choices ∈ [vocabulary, firstNames, lastNames, domains], ∃ value ∈ choices, value ≠ [] ∧
        ∀ fallback, (stream.pick fallback choices).1 = value) ∧
      ∃ instant, Instant.ofTimestamp? (earliestDate + (stream.belowLong dateSpan).1) = some instant ∧
        (drawDate stream).1 = instant.render := by
  refine ⟨draw_allows placeholder stream, (draw_isOver placeholder stream).nonempty, ?_,
    _, ofTimestamp?_drawn stream, drawDate_eq stream⟩
  intro choices member
  have some : ∀ choices ∈ [vocabulary, firstNames, lastNames, domains], choices ≠ [] := by decide
  have nonempty : ∀ choices ∈ [vocabulary, firstNames, lastNames, domains], ∀ value ∈ choices, value ≠ [] := by
    decide
  obtain ⟨value, listed, picked⟩ := RandomStream.exists_picked (some choices member) stream
  exact ⟨value, listed, nonempty choices member value listed, picked⟩

/-- A guid, and a word that is picked with a fallback of its own. -/
theorem draw_in_language_seeded :
    let stream := RandomStream.seeded 0
    guid.Allows (guid.draw stream).1 ∧ vocabulary ∈ [vocabulary, firstNames, lastNames, domains] ∧
      ∃ value ∈ vocabulary, value ≠ [] ∧ (stream.pick "none".toList vocabulary).1 = value := by
  intro stream
  have inLists : vocabulary ∈ [vocabulary, firstNames, lastNames, domains] := List.mem_cons_self
  obtain ⟨allowed, -, picks, -⟩ := draw_in_language guid stream
  obtain ⟨value, listed, nonempty, picked⟩ := picks vocabulary inLists
  exact ⟨allowed, inLists, value, listed, nonempty, picked "none".toList⟩

end Placeholder
end ApiBlueprint

import ApiBlueprint.Proofs.Placeholder.Pieces

/-!
Two texts that are interpolated one behind the other, and the two joined by a line feed. No placeholder
reaches over a line feed, so the pieces of the whole are those of its parts; each known placeholder among
them takes its words from the stream, whether or not an unknown one stands before it.
-/

namespace ApiBlueprint

def TextPiece.name? : TextPiece → Option Text
  | .literal _ => none
  | .token name => some name

namespace Placeholder

def names (parts : List TextPiece) : List Text := parts.filterMap TextPiece.name?

@[simp] theorem names_literal (c : Char) (parts : List TextPiece) :
    names (.literal c :: parts) = names parts := rfl

@[simp] theorem names_token (name : Text) (parts : List TextPiece) :
    names (.token name :: parts) = name :: names parts := rfl

def tokens (text : Text) : List Text := names (pieces text)

/-- The name is of no kind, and all names before it are of some kind. -/
def IsFirstUnknown (names : List Text) (name : Text) : Prop :=
  ∃ before after, names = before ++ name :: after ∧ ofToken? name = none ∧
    ∀ other ∈ before, ofToken? other ≠ none

def drawAll (placeholders : List Placeholder) (stream : RandomStream) : RandomStream :=
  placeholders.foldl (fun stream placeholder => (placeholder.draw stream).2) stream

theorem token?_append {text name after : Text} (found : token? text = some (name, after))
    (more : Text) : token? (text ++ more) = some (name, after ++ more) := by
  obtain ⟨rfl, isName⟩ := token?_eq_some_iff.mp found
  exact token?_eq_some_iff.mpr ⟨by simp, isName⟩

/-- A name and the bar behind it have no line feed, so they stand before it. -/
theorem token?_before_line {text rest name after : Text}
    (found : token? (text ++ '\n' :: rest) = some (name, after)) :
    ∃ between, token? text = some (name, between) := by
  obtain ⟨equal, isName⟩ := token?_eq_some_iff.mp found
  have oneLine : '\n' ∉ name ++ ['|'] := by
    rw [List.mem_append, not_or]
    exact ⟨fun member => absurd (isName.characters _ member) (by decide), by decide⟩
  have within : name ++ ['|'] <+: text := by
    rw [List.append_cons name '|' after] at equal
    rcases List.append_eq_append_iff.mp equal with ⟨front, beyond, reaches⟩ | ⟨between, within, -⟩
    · cases front with
      | nil => exact ⟨[], by rw [beyond, List.append_nil, List.append_nil]⟩
      | cons c front =>
        obtain rfl := (List.cons.inj reaches).1
        exact absurd (beyond ▸ List.mem_append_right text List.mem_cons_self) oneLine
    · exact ⟨between, within.symm⟩
  obtain ⟨between, rfl⟩ := within
  exact ⟨between, token?_eq_some_iff.mpr ⟨(List.append_cons ..).symm, isName⟩⟩

/-- By induction along the pieces of the first text. -/
theorem pieces_joined_lines (text rest : Text) :
    pieces (text ++ '\n' :: rest) = pieces text ++ .literal '\n' :: pieces rest := by
  fun_induction pieces text with
  | case1 => exact pieces.eq_3 '\n' rest (by simp)
  | case2 behind name after found ih =>
    rw [List.cons_append, List.cons_append, pieces_token (token?_append found _), ih]
    rfl
  | case3 behind none ih =>
    have missing : token? (behind ++ '\n' :: rest) = Option.none := by
      rw [Option.eq_none_iff_forall_ne_some]
      intro _ found
      obtain ⟨between, token⟩ := token?_before_line found
      rw [none] at token
      cases token
    rw [List.cons_append, List.cons_append, pieces_stray missing]
    exact congrArg _ ih
  | case4 c behind other ih =>
    rw [List.cons_append, pieces.eq_3 c (behind ++ '\n' :: rest), ih]
    · rfl
    · intro more bar tilde
      cases behind with
      | nil => cases tilde
      | cons d behind =>
        obtain ⟨rfl, -⟩ := List.cons.inj tilde
        exact other behind bar rfl

theorem tokens_joined_lines (text rest : Text) :
    tokens (text ++ '\n' :: rest) = tokens text ++ tokens rest := by
  rw [tokens, pieces_joined_lines, names, List.filterMap_append]
  rfl

theorem replace_append (front back : List TextPiece) (stream : RandomStream) :
    replace (front ++ back) stream =
      ((replace front stream).1 ++ (replace back (replace front stream).2).1,
        (replace back (replace front stream).2).2) := by
  induction front generalizing stream with
  | nil => rfl
  | cons piece front ih =>
    cases piece with
    | literal c => simp only [List.cons_append, replace, ih]
    | token name =>
      cases known : ofToken? name with
      | none => simp only [List.cons_append, replace, known, ih]
      | some placeholder => simp only [List.cons_append, replace, known, ih, List.append_assoc]

theorem stream_replace (parts : List TextPiece) (stream : RandomStream) :
    (replace parts stream).2 = drawAll ((names parts).filterMap ofToken?) stream := by
  induction parts generalizing stream with
  | nil => rfl
  | cons piece parts ih =>
    cases piece with
    | literal c => exact ih stream
    | token name =>
      rw [names_token]
      cases known : ofToken? name with
      | none =>
        rw [List.filterMap_cons_none known, ← ih]
        simp only [replace, known]
      | some placeholder =>
        rw [List.filterMap_cons_some known, drawAll, List.foldl_cons, ← drawAll, ← ih]
        simp only [replace, known]

theorem firstUnknown?_eq_find? (parts : List TextPiece) :
    firstUnknown? parts = (names parts).find? fun name => (ofToken? name).isNone := by
  induction parts with
  | nil => rfl
  | cons piece parts ih =>
    cases piece with
    | literal c => exact ih
    | token name =>
      rw [names_token, List.find?_cons, ← ih]
      unfold firstUnknown?
      rw [List.findSome?_cons]
      cases known : ofToken? name <;> simp [known]

theorem firstUnknown?_eq_some_iff {parts : List TextPiece} {name : Text} :
    firstUnknown? parts = some name ↔ IsFirstUnknown (names parts) name := by
  rw [firstUnknown?_eq_find?, List.find?_eq_some_iff_append, Option.isNone_iff_eq_none]
  simp only [Bool.not_eq_true', Option.isNone_eq_false_iff, Option.isSome_iff_ne_none]
  constructor
  · rintro ⟨unknown, before, after, parted, known⟩
    exact ⟨before, after, parted, unknown, known⟩
  · rintro ⟨before, after, parted, unknown, known⟩
    exact ⟨unknown, before, after, parted, known⟩

theorem exists_isFirstUnknown_iff {names : List Text} :
    (∃ name, IsFirstUnknown names name) ↔ ∃ name ∈ names, ofToken? name = none := by
  constructor
  · rintro ⟨name, before, after, rfl, unknown, -⟩
    exact ⟨name, List.mem_append_right before List.mem_cons_self, unknown⟩
  · rintro ⟨name, member, unknown⟩
    induction names with
    | nil => cases member
    | cons first names ih =>
      by_cases here : ofToken? first = none
      · exact ⟨first, [], names, rfl, here, by simp⟩
      · rcases List.mem_cons.mp member with rfl | later
        · exact absurd unknown here
        · obtain ⟨found, before, after, rfl, isUnknown, known⟩ := ih later
          exact ⟨found, first :: before, after, rfl, isUnknown, List.forall_mem_cons.mpr ⟨here, known⟩⟩

theorem firstUnknown?_append (front back : List TextPiece) :
    firstUnknown? (front ++ back) = (firstUnknown? front).or (firstUnknown? back) :=
  List.findSome?_append

theorem interpolate_eq_error_iff {text name : Text} {stream : RandomStream} :
    (interpolate text stream).1 = .error name ↔ IsFirstUnknown (tokens text) name := by
  rw [tokens, ← firstUnknown?_eq_some_iff, interpolate]
  cases firstUnknown? (pieces text) <;> simp

theorem stream_interpolate (text : Text) (stream : RandomStream) :
    (interpolate text stream).2 = drawAll ((tokens text).filterMap ofToken?) stream := by
  rw [tokens, ← stream_replace, interpolate]
  cases firstUnknown? (pieces text) <;> rfl

theorem interpolate_joined_lines (text rest : Text) (stream : RandomStream) :
    let first := interpolate text stream
    let second := interpolate rest first.2
    interpolate (text ++ '\n' :: rest) stream =
      (do return (← first.1) ++ '\n' :: (← second.1), second.2) := by
  have parted : firstUnknown? (pieces text ++ .literal '\n' :: pieces rest) =
      (firstUnknown? (pieces text)).or (firstUnknown? (pieces rest)) :=
    firstUnknown?_append (pieces text) _
  simp only [interpolate, pieces_joined_lines, replace_append, parted]
  cases firstUnknown? (pieces text) with
  | some name => cases firstUnknown? (pieces rest) <;> rfl
  | none => cases firstUnknown? (pieces rest) <;> rfl

end Placeholder

namespace Generator

open Placeholder

theorem process_eq_error_iff {stream : RandomStream} {text : Text} {fault : InterpolationFault} :
    ((random stream).process text).1 = .error fault ↔
      ∃ name, fault = .unknownPlaceholder name ∧ IsFirstUnknown (tokens text) name := by
  simp only [← @interpolate_eq_error_iff _ _ stream, process]
  cases (interpolate text stream).1 <;> simp [Except.mapError, eq_comm]

/-- Two texts that are interpolated one behind the other, and the two as one text with a line feed
between them: the same words are taken from the stream, whatever is unknown, and the whole is what the
two are, or the fault of the first that has one. It fails exactly if a token of theirs is of no kind, and
names the first such token. A text takes the words of its known tokens, also where it fails. -/
theorem process_joined_lines (stream : RandomStream) (text rest : Text) :
    let first := (random stream).process text
    let second := first.2.process rest
    let joined := (random stream).process (text ++ '\n' :: rest)
    joined.2 = second.2 ∧
      (joined.1 = do return (← first.1) ++ '\n' :: (← second.1)) ∧
      ((∃ fault, joined.1 = .error fault) ↔ ∃ name ∈ tokens text ++ tokens rest, ofToken? name = none) ∧
      (∀ fault, joined.1 = .error fault ↔ ∃ name, fault = .unknownPlaceholder name ∧
        IsFirstUnknown (tokens text ++ tokens rest) name) ∧
      first.2 = .random (drawAll ((tokens text).filterMap ofToken?) stream) := by
  have named (fault : InterpolationFault) := @process_eq_error_iff stream (text ++ '\n' :: rest) fault
  rw [tokens_joined_lines] at named
  refine ⟨?_, ?_, ?_, named, congrArg random (stream_interpolate text stream)⟩
  · simp only [process, interpolate_joined_lines]
  · simp only [process, interpolate_joined_lines]
    cases (interpolate text stream).1 with
    | error name => rfl
    | ok filled => cases (interpolate rest (interpolate text stream).2).1 <;> rfl
  · rw [← exists_isFirstUnknown_iff]
    constructor
    · rintro ⟨fault, failed⟩
      obtain ⟨name, -, unknown⟩ := (named fault).mp failed
      exact ⟨name, unknown⟩
    · rintro ⟨name, unknown⟩
      exact ⟨_, (named _).mpr ⟨name, rfl, unknown⟩⟩

/-- The first text has an unknown token between two known ones, and a bar at its end; so has the whole. -/
theorem process_joined_lines_unknown :
    let text := "|~number.int| |~no.kind| |~text.word| |".toList
    let rest := "~misc.bool| |~none|".toList
    let joined := (seeded 0).process (text ++ '\n' :: rest)
    joined.1 = .error (.unknownPlaceholder "no.kind".toList) ∧
      joined.2 = (((seeded 0).process text).2.process rest).2 ∧
      joined.2 ≠ seeded 0 := by
  intro text rest joined
  obtain ⟨same, -, -, named, -⟩ := process_joined_lines (.seeded 0) text rest
  have first : IsFirstUnknown (tokens text ++ tokens rest) "no.kind".toList :=
    ⟨["number.int".toList], ["text.word".toList, "none".toList], by decide +kernel, by decide, by decide⟩
  exact ⟨(named _).mpr ⟨_, rfl, first⟩, same, by decide +kernel⟩

end Generator
end ApiBlueprint

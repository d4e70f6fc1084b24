import ApiBlueprint.Placeholder.Generator
import ApiBlueprint.Proofs.Outcome
import ApiBlueprint.Proofs.Placeholder.Alphabet

/-!
The pieces of a text and what interpolation makes of them: a character stays, a token gives way to a
text of its kind. Pieces are found from left to right, so no placeholder is spelled out in the
characters between tokens.
-/

namespace ApiBlueprint
namespace Placeholder

theorem token?_eq_some_iff {text name rest : Text} :
    token? text = some (name, rest) ↔
      text = name ++ '|' :: rest ∧ IsOver isTokenCharacter name := by
  constructor
  · intro found
    simp only [token?] at found
    split at found
    · rename_i tail bar
      split at found
      · cases found
      · rename_i some
        obtain ⟨rfl, rfl⟩ := Prod.mk.inj (Option.some.inj found)
        rw [← bar]
        refine ⟨(List.takeWhile_append_dropWhile).symm, by simpa using some, ?_⟩
        exact List.all_eq_true.mp List.all_takeWhile
    · cases found
  · rintro ⟨rfl, nonempty, characters⟩
    have bar : isTokenCharacter '|' = false := by decide
    have name' : (name ++ '|' :: rest).takeWhile isTokenCharacter = name := by
      rw [List.takeWhile_append_of_pos characters, List.takeWhile_cons_of_neg (by simp [bar]),
        List.append_nil]
    have behind : (name ++ '|' :: rest).dropWhile isTokenCharacter = '|' :: rest := by
      rw [List.dropWhile_append_of_pos characters, List.dropWhile_cons_of_neg (by simp [bar])]
    simp [token?, name', behind, nonempty]

theorem token_of_ofToken? {name : Text} {placeholder : Placeholder}
    (found : ofToken? name = some placeholder) : placeholder.token = name := by
  simpa using List.find?_some found

theorem firstUnknown?_token_cons {name : Text} {rest : List TextPiece}
    (known : firstUnknown? (.token name :: rest) = none) :
    (∃ placeholder, ofToken? name = some placeholder) ∧ firstUnknown? rest = none := by
  unfold firstUnknown? at known ⊢
  rw [List.findSome?_cons] at known
  cases found : ofToken? name with
  | none => simp [found] at known
  | some placeholder => exact ⟨⟨placeholder, rfl⟩, by simpa [found] using known⟩

theorem pieces_token {rest name after : Text} (found : token? rest = some (name, after)) :
    pieces ('|' :: '~' :: rest) = .token name :: pieces after := by
  rw [pieces]
  split
  · rename_i same
    obtain ⟨rfl, rfl⟩ := Prod.mk.inj (Option.some.inj (found.symm.trans same))
    rfl
  · rename_i none
    rw [none] at found
    cases found

theorem pieces_stray {rest : Text} (none : token? rest = none) :
    pieces ('|' :: '~' :: rest) = .literal '|' :: pieces ('~' :: rest) := by
  rw [pieces]
  split
  · rename_i found
    rw [none] at found
    cases found
  · rfl

theorem pieces_cons_cases {text : Text} {piece : TextPiece} {more : List TextPiece}
    (equal : pieces text = piece :: more) :
    (∃ name rest after, piece = .token name ∧ more = pieces after ∧ text = '|' :: '~' :: rest ∧
        token? rest = some (name, after)) ∨
      ∃ c rest, piece = .literal c ∧ more = pieces rest ∧ text = c :: rest ∧
        ∀ after, c = '|' → rest = '~' :: after → token? after = none := by
  fun_cases pieces text with
  | case1 =>
    rw [pieces] at equal
    cases equal
  | case2 rest name after found =>
    rw [pieces_token found] at equal
    obtain ⟨rfl, rfl⟩ := List.cons.inj equal
    exact Or.inl ⟨name, rest, after, rfl, rfl, rfl, found⟩
  | case3 rest none =>
    rw [pieces_stray none] at equal
    obtain ⟨rfl, rfl⟩ := List.cons.inj equal
    refine Or.inr ⟨'|', '~' :: rest, rfl, rfl, rfl, fun after _ same => ?_⟩
    exact (List.cons.inj same).2 ▸ none
  | case4 c rest other =>
    rw [pieces.eq_3 c rest other] at equal
    obtain ⟨rfl, rfl⟩ := List.cons.inj equal
    exact Or.inr ⟨c, rest, rfl, rfl, rfl, fun after bar tilde => (other after bar tilde).elim⟩

theorem exists_pieces_of_append {text : Text} {front back : List TextPiece}
    (equal : pieces text = front ++ back) : ∃ rest, back = pieces rest := by
  induction front generalizing text with
  | nil => exact ⟨text, equal.symm⟩
  | cons piece front ih =>
    rcases pieces_cons_cases equal with ⟨name, rest, after, -, more, -⟩ | ⟨c, rest, -, more, -⟩
    · exact ih more.symm
    · exact ih more.symm

theorem exists_text_of_literals {text characters : Text} {back : List TextPiece}
    (equal : pieces text = characters.map .literal ++ back) :
    ∃ rest, text = characters ++ rest ∧ back = pieces rest := by
  induction characters generalizing text with
  | nil => exact ⟨text, rfl, equal.symm⟩
  | cons c characters ih =>
    rcases pieces_cons_cases equal with ⟨name, rest, after, other, -⟩ | ⟨d, rest, same, more, rfl, -⟩
    · cases other
    · obtain rfl := TextPiece.literal.inj same
      obtain ⟨behind, rfl, last⟩ := ih more.symm
      exact ⟨behind, rfl, last⟩

theorem exists_bar_of_next {text : Text} {next : TextPiece} {back : List TextPiece}
    (equal : pieces text = next :: back) (bar : next = .literal '|' ∨ ∃ token, next = .token token) :
    ∃ rest, text = '|' :: rest := by
  rcases pieces_cons_cases equal with ⟨_, rest, _, -, -, rfl, -⟩ | ⟨c, rest, rfl, -, rfl, -⟩
  · exact ⟨_, rfl⟩
  · rcases bar with same | ⟨token, other⟩
    · obtain rfl := TextPiece.literal.inj same
      exact ⟨rest, rfl⟩
    · cases other

/-- Behind a bar and a tilde that begin no placeholder, a name does not go on to a bar: the search
would have found it. -/
theorem no_name_behind_stray {text name : Text} {front back : List TextPiece} {next : TextPiece}
    (bar : next = .literal '|' ∨ ∃ token, next = .token token) (isName : IsOver isTokenCharacter name) :
    pieces text ≠ front ++ .literal '|' :: .literal '~' :: (name.map .literal ++ next :: back) := by
  intro equal
  obtain ⟨_, found⟩ := exists_pieces_of_append equal
  rcases pieces_cons_cases found.symm with ⟨_, _, _, other, -⟩ | ⟨c, behind, same, more, -, stray⟩
  · cases other
  · obtain rfl := TextPiece.literal.inj same
    have spelled : pieces behind = ('~' :: name).map .literal ++ next :: back := more.symm
    obtain ⟨_, rfl, last⟩ := exists_text_of_literals spelled
    obtain ⟨rest, rfl⟩ := exists_bar_of_next last.symm bar
    have token : token? (name ++ '|' :: rest) = some (name, rest) :=
      token?_eq_some_iff.mpr ⟨rfl, isName⟩
    have missing := stray (name ++ '|' :: rest) rfl rfl
    rw [token] at missing
    cases missing

theorem exists_leading_literals (pieces : List TextPiece) :
    ∃ (characters : Text) (rest : List TextPiece), pieces = characters.map .literal ++ rest ∧
      (rest = [] ∨ ∃ token more, rest = .token token :: more) := by
  induction pieces with
  | nil => exact ⟨[], [], rfl, Or.inl rfl⟩
  | cons piece pieces ih =>
    cases piece with
    | literal c =>
      obtain ⟨characters, rest, rfl, ends⟩ := ih
      exact ⟨c :: characters, rest, rfl, ends⟩
    | token name => exact ⟨[], _, rfl, Or.inr ⟨name, pieces, rfl⟩⟩

/-- The text is that of the pieces, with a text that is drawn for each token. -/
inductive Replaced : List TextPiece → Text → Prop
  | nil : Replaced [] []
  | literal (c : Char) {pieces : List TextPiece} {text : Text} (rest : Replaced pieces text) :
      Replaced (.literal c :: pieces) (c :: text)
  | token (placeholder : Placeholder) (stream : RandomStream) {pieces : List TextPiece} {text : Text}
      (rest : Replaced pieces text) :
      Replaced (.token placeholder.token :: pieces) ((placeholder.draw stream).1 ++ text)

theorem replaced_of_known {pieces : List TextPiece} (known : firstUnknown? pieces = none)
    (stream : RandomStream) : Replaced pieces (replace pieces stream).1 := by
  induction pieces generalizing stream with
  | nil => exact Replaced.nil
  | cons piece pieces ih =>
    cases piece with
    | literal c => exact Replaced.literal c (ih known stream)
    | token name =>
      obtain ⟨⟨placeholder, isKnown⟩, later⟩ := firstUnknown?_token_cons known
      simp only [replace, isKnown]
      rw [← token_of_ofToken? isKnown]
      exact Replaced.token placeholder stream (ih later _)

theorem replaced_of_interpolate {text filled : Text} {stream : RandomStream}
    (done : (interpolate text stream).1 = .ok filled) : Replaced (pieces text) filled := by
  unfold interpolate at done
  cases unknown : firstUnknown? (pieces text) with
  | some name => simp [unknown] at done
  | none =>
    have replaced := replaced_of_known unknown stream
    simp only [unknown, Except.ok.injEq] at done
    rwa [done] at replaced

end Placeholder
end ApiBlueprint

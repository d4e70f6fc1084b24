import ApiBlueprint.Proofs.Template.Drawn

/-!
A template that is filled is read back: the reader takes the tokens of a value, whatever white space
is between them, and leaves what stands behind.
-/

namespace ApiBlueprint

open JsonReader (isSpace skipSpace EndsNumber)
open TemplatePart (sign quoted drawAll drawTokens drawTokens_append drawAll_literal drawAll_quoted)

namespace Laid

variable {token text : Text} {tokens : List Text} {c : Char}

theorem skipSpace_eq {tail : Text} (laid : Laid ((c :: tail) :: tokens) text)
    (solid : isSpace c = false) : ∃ rest, skipSpace text = c :: tail ++ rest ∧ Laid tokens rest := by
  cases laid with
  | @cons blank _ rest _ spaces behind =>
    refine ⟨rest, ?_, behind⟩
    rw [skipSpace, List.dropWhile_append_of_pos spaces]
    exact JsonReader.skipSpace_cons solid _

theorem exists_start {tail : Text} (laid : Laid ((c :: tail) :: tokens) text)
    (solid : isSpace c = false) :
    ∃ unread, skipSpace text = c :: unread ∧ Laid ((c :: tail) :: tokens) (c :: unread) := by
  obtain ⟨rest, start, behind⟩ := laid.skipSpace_eq solid
  exact ⟨tail ++ rest, start, @Laid.cons [] _ _ _ (List.forall_mem_nil _) behind⟩

theorem skipSpace_nil (laid : Laid [] text) : skipSpace text = [] := by
  cases laid with
  | nil spaces => exact List.dropWhile_eq_nil_iff.mpr spaces

def Closes (tokens : List Text) : Prop := ∀ token ∈ tokens.head?, token ∈ [[','], [']'], ['}']]

theorem endsNumber (laid : Laid tokens text) (closes : Closes tokens) : EndsNumber text := by
  have space {c : Char} (space : isSpace c = true) :
      Text.isDigit c = false ∧ c ≠ '.' ∧ JsonReader.isExponentMark c = false := by
    simp only [isSpace, Bool.or_eq_true, decide_eq_true_eq] at space
    rcases space with ((rfl | rfl) | rfl) | rfl <;> decide
  intro c first
  cases laid with
  | nil spaces => exact space (spaces c (List.mem_of_mem_head? first))
  | @cons blank token rest tokens spaces behind =>
    cases blank with
    | cons d blank =>
      obtain rfl : d = c := by simpa using first
      exact space (spaces d List.mem_cons_self)
    | nil =>
      have known := closes token rfl
      simp only [List.mem_cons, List.not_mem_nil, or_false] at known
      rcases known with rfl | rfl | rfl
      all_goals
        obtain rfl := Option.some.inj first
        decide

end Laid

open Laid (Closes)

namespace Template

theorem isSpace_of_number {c : Char} (number : Json.isNumberCharacter c = true) :
    isSpace c = false ∧ c ≠ ']' := by
  refine ⟨NumberLiteral.isSpace_eq_false number, ?_⟩
  rintro rfl
  cases number

theorem isSpace_of_token {c : Char} (inToken : Placeholder.isTokenCharacter c = true) :
    isSpace c = false ∧ c ≠ ']' := by
  constructor
  · by_contra space
    simp only [isSpace, Bool.not_eq_false, Bool.or_eq_true, decide_eq_true_eq] at space
    rcases space with ((rfl | rfl) | rfl) | rfl <;> revert inToken <;> decide
  · rintro rfl
    cases inToken

theorem starts (template : Template) (stream : RandomStream) :
    ∃ c tail more, (drawTokens template.tokens stream).1 = (c :: tail) :: more ∧
      isSpace c = false ∧ c ≠ ']' := by
  cases template with
  | null => exact ⟨'n', _, _, rfl, by decide⟩
  | boolean value => cases value <;> exact ⟨_, _, _, rfl, by decide⟩
  | number literal =>
    obtain ⟨c, tail, equal⟩ := literal.exists_cons
    refine ⟨c, tail, [], ?_, isSpace_of_number (literal.characters c (equal ▸ List.mem_cons_self))⟩
    simp only [tokens, drawTokens, drawAll_literal, equal]
  | string parts => exact ⟨'"', _, [], rfl, by decide⟩
  | bare placeholder =>
    have solid : placeholder.kind.isSolid = true := by cases placeholder <;> rfl
    have isOver := Placeholder.draw_isSolid solid stream
    obtain ⟨c, tail, equal⟩ := List.exists_cons_of_ne_nil isOver.nonempty
    refine ⟨c, tail, [], ?_, isSpace_of_token (isOver.characters c (equal ▸ List.mem_cons_self))⟩
    simp only [tokens, drawTokens, drawAll, TemplatePart.draw, List.append_nil, equal]
  | array items => cases items <;> exact ⟨'[', _, _, rfl, by decide⟩
  | object members =>
    cases members with
    | nil => exact ⟨'{', _, _, rfl, by decide⟩
    | cons first rest => exact ⟨'{', _, _, rfl, by decide⟩

/-- The template filled from the stream, and the value that is read wherever it is laid out. -/
structure Yields (depth : Nat) (template : Template) (stream : RandomStream) (value : Json)
    (after : RandomStream) : Prop where
  fills : template.Fills stream value after
  drawn : (drawTokens template.tokens stream).2 = after
  reads : ∀ more text, Closes more → Laid ((drawTokens template.tokens stream).1 ++ more) text →
    ∃ rest, JsonReader.value depth text = .ok (value, rest) ∧ Laid more rest

theorem drawTokens_sign (c : Char) (rest : List (List TemplatePart)) (stream : RandomStream) :
    drawTokens (sign c :: rest) stream = ([c] :: (drawTokens rest stream).1, (drawTokens rest stream).2) := by
  simp only [sign, drawTokens, drawAll_literal]

theorem drawTokens_key (key : Text) (rest : List (List TemplatePart)) (stream : RandomStream) :
    drawTokens (quoted [.literal key] :: rest) stream =
      (Json.writeString key :: (drawTokens rest stream).1, (drawTokens rest stream).2) := by
  simp only [drawTokens, drawAll_quoted, drawAll_literal]

section Containers

variable {depth : Nat}

theorem length_skipSpace (text : Text) : (JsonReader.skipSpace text).length ≤ text.length :=
  (List.dropWhile_suffix _).length_le

theorem length_of_read {text rest : Text} {item : Json}
    (read : JsonReader.value depth text = .ok (item, rest)) : rest.length ≤ text.length := by
  obtain ⟨taken, rfl, -⟩ := JsonReader.value_skips read
  rw [List.length_append]
  exact Nat.le_add_left _ _

theorem behind_mark {c : Char} {tokens : List Text} {text : Text} (laid : Laid ([c] :: tokens) text)
    (solid : isSpace c = false) : ∃ rest, skipSpace text = c :: rest ∧ Laid tokens rest ∧
      rest.length < text.length := by
  obtain ⟨rest, start, behind⟩ := laid.skipSpace_eq solid
  refine ⟨rest, start, behind, ?_⟩
  have shorter := length_skipSpace text
  rw [start, List.length_append, List.length_singleton] at shorter
  omega

/-- A reader of containers takes one unit of fuel for each item, and each item has a character. -/
theorem exists_fuel (template : Template) {stream : RandomStream} {more : List Text} {text : Text}
    {fuel : Nat} (laid : Laid ((drawTokens template.tokens stream).1 ++ more) text)
    (enough : text.length ≤ fuel) : ∃ less, fuel = less + 1 := by
  obtain ⟨c, tail, others, begins, solid, -⟩ := template.starts stream
  rw [begins, List.cons_append] at laid
  obtain ⟨rest, start, -⟩ := laid.skipSpace_eq solid
  have shorter := length_skipSpace text
  rw [start, List.cons_append, List.length_cons] at shorter
  exact ⟨fuel - 1, by omega⟩

theorem items_yield {first : Template} {rest : List Template}
    (each : ∀ item ∈ first :: rest, ∀ stream, ∃ value after, Yields depth item stream value after)
    (stream : RandomStream) :
    ∃ values after, FillsItems (first :: rest) stream values after ∧
      (drawTokens (first.tokens ++ itemTokens rest) stream).2 = after ∧
      ∀ more text fuel, text.length ≤ fuel →
        Laid ((drawTokens (first.tokens ++ itemTokens rest) stream).1 ++ [']'] :: more) text →
        ∃ behind, JsonReader.items (JsonReader.value depth) fuel text = .ok (values, behind) ∧
          Laid more behind := by
  induction rest generalizing first stream with
  | nil =>
    obtain ⟨value, after, fills, drawn, reads⟩ := each first List.mem_cons_self stream
    rw [itemTokens, List.append_nil]
    refine ⟨[value], after, .cons fills .nil, drawn, fun more text fuel enough laid => ?_⟩
    obtain ⟨less, rfl⟩ := exists_fuel first laid enough
    obtain ⟨behind, read, closing⟩ := reads _ text (by simp [Closes]) laid
    obtain ⟨last, mark, laid', -⟩ := behind_mark closing (by decide)
    exact ⟨last, JsonReader.items_last read mark, laid'⟩
  | cons next rest ih =>
    obtain ⟨value, middle, fills, drawn, reads⟩ := each first List.mem_cons_self stream
    obtain ⟨values, after, fillsRest, drawnRest, readsRest⟩ :=
      ih (fun item member => each item (List.mem_cons_of_mem first member)) middle
    have tokens : drawTokens (first.tokens ++ itemTokens (next :: rest)) stream =
        ((drawTokens first.tokens stream).1 ++
          [','] :: (drawTokens (next.tokens ++ itemTokens rest) middle).1, after) := by
      rw [itemTokens, drawTokens_append, List.cons_append, drawTokens_sign, drawn, drawnRest]
    rw [tokens]
    refine ⟨value :: values, after, .cons fills fillsRest, rfl, fun more text fuel enough laid => ?_⟩
    rw [List.append_assoc] at laid
    obtain ⟨less, rfl⟩ := exists_fuel first laid enough
    obtain ⟨behind, read, comma⟩ := reads _ text (by simp [Closes]) laid
    obtain ⟨later, mark, laid', shorter⟩ := behind_mark comma (by decide)
    obtain ⟨c, tail, others, begins, solid, goesOn⟩ := next.starts middle
    have start : ∃ unread, skipSpace later = c :: unread ∧
        Laid ((drawTokens (next.tokens ++ itemTokens rest) middle).1 ++ [']'] :: more)
          (c :: unread) := by
      rw [drawTokens_append, begins] at laid' ⊢
      exact laid'.exists_start solid
    obtain ⟨unread, start, laid''⟩ := start
    have enough' : (c :: unread).length ≤ less := by
      have consumed := length_of_read read
      have skipped := length_skipSpace later
      rw [start] at skipped
      omega
    obtain ⟨last, readMore, closing⟩ := readsRest more _ less enough' laid''
    exact ⟨last, JsonReader.items_next read mark start goesOn readMore, closing⟩

theorem behind_key {key : Text} {tokens : List Text} {text : Text}
    (laid : Laid (Json.writeString key :: [':'] :: tokens) ('"' :: text)) :
    ∃ behind rest, JsonReader.string text = .ok (key, behind) ∧ skipSpace behind = ':' :: rest ∧
      Laid tokens rest ∧ rest.length < text.length := by
  obtain ⟨behind, start, laid'⟩ := Laid.skipSpace_eq (c := '"') laid (by decide)
  obtain ⟨rest, colon, laid'', shorter⟩ := behind_mark laid' (by decide)
  have spelled : '"' :: text = Json.writeString key ++ behind :=
    (JsonReader.skipSpace_cons (by decide) text).symm.trans start
  rw [JsonReader.writeString_append] at spelled
  obtain rfl := (List.cons.inj spelled).2
  refine ⟨behind, rest, JsonReader.string_written key behind, colon, laid'', ?_⟩
  simp only [List.length_append, List.length_cons]
  omega

theorem members_yield {key : Text} {first : Template} {rest : List (Text × Template)}
    (each : ∀ member ∈ (key, first) :: rest, ∀ stream, ∃ value after,
      Yields depth member.2 stream value after) (stream : RandomStream) :
    ∃ values after, FillsMembers ((key, first) :: rest) stream values after ∧
      values.map Prod.fst = key :: rest.map Prod.fst ∧
      (drawTokens (first.tokens ++ memberTokens rest) stream).2 = after ∧
      ∀ more text fuel, text.length < fuel →
        Laid (Json.writeString key :: [':'] ::
          ((drawTokens (first.tokens ++ memberTokens rest) stream).1 ++ ['}'] :: more)) ('"' :: text) →
        ∃ behind, JsonReader.members (JsonReader.value depth) fuel ('"' :: text) =
          .ok (values, behind) ∧ Laid more behind := by
  induction rest generalizing key first stream with
  | nil =>
    obtain ⟨value, after, fills, drawn, reads⟩ := each (key, first) List.mem_cons_self stream
    rw [memberTokens, List.append_nil]
    refine ⟨[(key, value)], after, .cons fills .nil, rfl, drawn, fun more text fuel enough laid => ?_⟩
    obtain ⟨less, rfl⟩ := Nat.exists_eq_succ_of_ne_zero (Nat.ne_of_gt (Nat.zero_lt_of_lt enough))
    obtain ⟨behindKey, behindColon, name, colon, laid', -⟩ := behind_key laid
    obtain ⟨behind, read, closing⟩ := reads _ behindColon (by simp [Closes]) laid'
    obtain ⟨last, mark, laid'', -⟩ := behind_mark closing (by decide)
    exact ⟨last, JsonReader.members_last name colon read mark, laid''⟩
  | cons next rest ih =>
    obtain ⟨other, second⟩ := next
    obtain ⟨value, middle, fills, drawn, reads⟩ := each (key, first) List.mem_cons_self stream
    obtain ⟨values, after, fillsRest, keys, drawnRest, readsRest⟩ :=
      ih (fun member inside => each member (List.mem_cons_of_mem _ inside)) middle
    have tokens : drawTokens (first.tokens ++ memberTokens ((other, second) :: rest)) stream =
        ((drawTokens first.tokens stream).1 ++ [','] :: Json.writeString other :: [':'] ::
          (drawTokens (second.tokens ++ memberTokens rest) middle).1, after) := by
      rw [memberTokens, drawTokens_append, List.cons_append, List.cons_append, List.cons_append,
        drawTokens_sign, drawTokens_key, drawTokens_sign, drawn, drawnRest]
    rw [tokens]
    refine ⟨(key, value) :: values, after, .cons fills fillsRest, by simp [keys], rfl,
      fun more text fuel enough laid => ?_⟩
    obtain ⟨less, rfl⟩ := Nat.exists_eq_succ_of_ne_zero (Nat.ne_of_gt (Nat.zero_lt_of_lt enough))
    obtain ⟨behindKey, behindColon, name, colon, laid', shorterKey⟩ := behind_key laid
    rw [List.append_assoc] at laid'
    obtain ⟨behind, read, comma⟩ := reads _ behindColon (by simp [Closes]) laid'
    obtain ⟨later, mark, laid'', shorter⟩ := behind_mark comma (by decide)
    obtain ⟨unread, start, laidRest⟩ := Laid.exists_start (c := '"') laid'' (by decide)
    have enough' : unread.length < less := by
      have consumed := length_of_read read
      have skipped := length_skipSpace later
      rw [start, List.length_cons] at skipped
      omega
    obtain ⟨last, readMore, closing⟩ := readsRest more _ less enough' laidRest
    exact ⟨last, JsonReader.members_next name colon read mark start readMore, closing⟩

theorem yields_token {template : Template} {stream after : RandomStream} {token : Text} {value : Json}
    (fills : template.Fills stream value after)
    (drawn : drawTokens template.tokens stream = ([token], after))
    (reads : ∀ rest, EndsNumber rest → JsonReader.value depth (token ++ rest) = .ok (value, rest)) :
    Yields depth template stream value after := by
  refine ⟨fills, by rw [drawn], fun more text closes laid => ?_⟩
  obtain ⟨c, tail, others, begins, solid, -⟩ := template.starts stream
  rw [drawn] at begins laid
  obtain ⟨rfl, -⟩ := List.cons.inj begins
  obtain ⟨rest, start, behind⟩ := laid.skipSpace_eq solid
  refine ⟨rest, ?_, behind⟩
  rw [← JsonReader.value_skipSpace, start]
  exact reads rest (behind.endsNumber closes)

theorem array_yields {items : List Template}
    (each : ∀ item ∈ items, ∀ stream, ∃ value after, Yields depth item stream value after)
    (stream : RandomStream) :
    ∃ value after, Yields (depth + 1) (.array items) stream value after := by
  cases items with
  | nil =>
    have drawn : drawTokens (tokens (.array [])) stream = ([['['], [']']], stream) := rfl
    refine ⟨.array [], stream, .array .nil, by rw [drawn], fun more text closes laid => ?_⟩
    rw [drawn] at laid
    obtain ⟨inner, opens, laid', -⟩ := behind_mark (c := '[') laid (by decide)
    obtain ⟨rest, closed, laid'', -⟩ := behind_mark (c := ']') laid' (by decide)
    refine ⟨rest, ?_, laid''⟩
    rw [← JsonReader.value_skipSpace, opens]
    apply JsonReader.value_array
    rw [JsonReader.array, closed]
    rfl
  | cons first rest =>
    obtain ⟨values, after, fills, drawn, reads⟩ := items_yield each stream
    have all : drawTokens (tokens (.array (first :: rest))) stream =
        (['['] :: (drawTokens (first.tokens ++ itemTokens rest) stream).1 ++ [[']']], after) := by
      rw [tokens, List.cons_append, List.cons_append, drawTokens_sign, drawTokens_append, drawn,
        drawTokens_sign]
      rfl
    refine ⟨.array values, after, .array fills, by rw [all], fun more text closes laid => ?_⟩
    rw [all, List.append_assoc] at laid
    obtain ⟨inner, opens, laid', -⟩ := behind_mark (c := '[') laid (by decide)
    obtain ⟨c, tail, others, begins, solid, goesOn⟩ := first.starts stream
    have start : ∃ unread, skipSpace inner = c :: unread ∧
        Laid ((drawTokens (first.tokens ++ itemTokens rest) stream).1 ++ [']'] :: more)
          (c :: unread) := by
      change Laid ((drawTokens (first.tokens ++ itemTokens rest) stream).1 ++ [']'] :: more) inner
        at laid'
      rw [drawTokens_append, begins] at laid' ⊢
      exact laid'.exists_start solid
    obtain ⟨unread, start, laidItems⟩ := start
    obtain ⟨behind, read, laid''⟩ := reads more _ _ (Nat.le_refl _) laidItems
    refine ⟨behind, ?_, laid''⟩
    rw [← JsonReader.value_skipSpace, opens]
    exact JsonReader.value_array (JsonReader.array_items start goesOn read)

theorem object_yields {members : List (Text × Template)} (distinct : (members.map Prod.fst).Nodup)
    (each : ∀ member ∈ members, ∀ stream, ∃ value after, Yields depth member.2 stream value after)
    (stream : RandomStream) :
    ∃ value after, Yields (depth + 1) (.object members) stream value after := by
  cases members with
  | nil =>
    have drawn : drawTokens (tokens (.object [])) stream = ([['{'], ['}']], stream) := rfl
    refine ⟨.object [], stream, .object .nil List.Pairwise.nil (List.Perm.refl _), by rw [drawn],
      fun more text closes laid => ?_⟩
    rw [drawn] at laid
    obtain ⟨inner, opens, laid', -⟩ := behind_mark (c := '{') laid (by decide)
    obtain ⟨rest, closed, laid'', -⟩ := behind_mark (c := '}') laid' (by decide)
    refine ⟨rest, ?_, laid''⟩
    rw [← JsonReader.value_skipSpace, opens]
    have none : JsonReader.object (JsonReader.value depth) inner = .ok ([], rest) := by
      rw [JsonReader.object, closed]
      rfl
    exact JsonReader.value_object none
  | cons first rest =>
    obtain ⟨key, first⟩ := first
    obtain ⟨values, after, fills, keys, drawn, reads⟩ := members_yield each stream
    have all : drawTokens (tokens (.object ((key, first) :: rest))) stream =
        (['{'] :: Json.writeString key :: [':'] ::
          (drawTokens (first.tokens ++ memberTokens rest) stream).1 ++ [['}']], after) := by
      simp only [tokens, List.cons_append]
      rw [drawTokens_sign, drawTokens_key, drawTokens_sign, drawTokens_append, drawn, drawTokens_sign]
      rfl
    have sorted : (Json.sortMembers values).Perm values :=
      Json.sortMembers_perm (by rw [keys]; exact distinct)
    refine ⟨.object (Json.sortMembers values), after,
      .object fills (Json.sortMembers_isSorted values) sorted, by rw [all],
      fun more text closes laid => ?_⟩
    rw [all, List.append_assoc] at laid
    obtain ⟨inner, opens, laid', -⟩ := behind_mark (c := '{') laid (by decide)
    obtain ⟨unread, start, laidMembers⟩ := Laid.exists_start (c := '"') laid' (by decide)
    obtain ⟨behind, read, laid''⟩ := reads more _ _ (Nat.lt_succ_self _) laidMembers
    refine ⟨behind, ?_, laid''⟩
    rw [← JsonReader.value_skipSpace, opens]
    exact JsonReader.value_object (JsonReader.object_members start read)

end Containers

/-- By induction on the template, with the room for containers that it needs. -/
theorem exists_yields {depth : Nat} {template : Template} (fits : template.Fits depth)
    (stream : RandomStream) : ∃ value after, Yields depth template stream value after := by
  induction fits generalizing stream with
  | null =>
    refine ⟨.null, stream, yields_token .null rfl fun rest _ => ?_⟩
    exact JsonReader.value_scalar rfl (by decide) (by decide) _ _
  | boolean value =>
    refine ⟨.boolean value, stream, yields_token (.boolean value) (by rw [tokens, drawTokens]; rfl)
      fun rest _ => ?_⟩
    cases value <;> exact JsonReader.value_scalar rfl (by decide) (by decide) _ _
  | number literal =>
    exact ⟨_, stream, yields_token (.number literal)
      (by simp only [tokens, drawTokens, drawAll_literal]) fun rest ends => literal.value_append ends _⟩
  | @string depth parts barless =>
    have drawn : drawTokens (tokens (.string parts)) stream =
        ([Json.writeString (drawAll parts stream).1], (drawAll parts stream).2) := by
      simp only [tokens, drawTokens, drawAll_quoted]
    exact ⟨_, _, yields_token (.string parts) drawn (@JsonReader.string_readsBack depth 0 _)⟩
  | bare placeholder =>
    refine ⟨_, _, yields_token (.bare placeholder) ?_ fun rest ends =>
      placeholder.value_draw stream ends _⟩
    simp only [tokens, drawTokens, drawAll, TemplatePart.draw, List.append_nil]
  | array each ih => exact array_yields ih stream
  | object distinct barless each ih => exact object_yields distinct ih stream

end Template
end ApiBlueprint

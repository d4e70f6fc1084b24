import ApiBlueprint.Proofs.Json.Literal
import Mathlib.Data.List.DropRight

/-!
A value without fractions that is written with white space is read back, whatever stands behind it.
-/

namespace ApiBlueprint

inductive Json.IsIntegral : Json → Prop
  | null : IsIntegral .null
  | boolean (value : Bool) : IsIntegral (.boolean value)
  | number (value : Int) : IsIntegral (.number (.integer value))
  | string (value : Text) : IsIntegral (.string value)
  | array {items : List Json} (each : ∀ item ∈ items, IsIntegral item) : IsIntegral (.array items)
  | object {members : List (Text × Json)} (each : ∀ member ∈ members, IsIntegral member.2) :
    IsIntegral (.object members)

namespace JsonReader

open Json (newLine prettyAt prettyItems prettyMembers writeString)

theorem skipSpace_newLine (depth : Nat) (text : Text) :
    skipSpace (newLine depth ++ text) = skipSpace text := by
  apply List.dropWhile_append_of_pos
  intro c member
  rcases List.mem_cons.mp member with rfl | later
  · rfl
  · rw [List.eq_of_mem_replicate later]
    rfl

theorem skipSpace_cons {c : Char} (solid : isSpace c = false) (text : Text) :
    skipSpace (c :: text) = c :: text :=
  List.dropWhile_cons_of_neg (by simp [solid])

theorem value_skipSpace (depth : Nat) (text : Text) : value depth (skipSpace text) = value depth text := by
  have twice : skipSpace (skipSpace text) = skipSpace text := List.dropWhile_idempotent isSpace text
  unfold value
  rw [twice]

theorem writeInteger_starts (value : Int) :
    ∃ c tail, Json.writeInteger value = c :: tail ∧ (c = '-' ∨ Text.isDigit c = true) := by
  unfold Json.writeInteger
  split
  · exact ⟨'-', _, rfl, Or.inl rfl⟩
  · have digits := Text.ofNat_digits value.natAbs
    have some : Text.ofNat value.natAbs ≠ [] := Nat.toDigits_ne_nil
    obtain ⟨c, tail, equal⟩ := List.exists_cons_of_ne_nil some
    exact ⟨c, tail, equal, Or.inr (digits c (equal ▸ List.mem_cons_self))⟩

theorem isDigit_solid {c : Char} (digit : Text.isDigit c = true) :
    isSpace c = false ∧ c ≠ ']' ∧ c ≠ '[' ∧ c ≠ '{' := by
  have plain : c ≠ ' ' ∧ c ≠ '\n' ∧ c ≠ '\t' ∧ c ≠ '\r' ∧ c ≠ ']' ∧ c ≠ '[' ∧ c ≠ '{' := by
    refine ⟨?_, ?_, ?_, ?_, ?_, ?_, ?_⟩ <;> rintro rfl <;> revert digit <;> decide
  exact ⟨by simp [isSpace, plain], plain.2.2.2.2⟩

theorem prettyAt_starts {item : Json} (integral : item.IsIntegral) (level : Nat) :
    ∃ c tail, prettyAt level item = c :: tail ∧ isSpace c = false ∧ c ≠ ']' := by
  cases integral with
  | null => exact ⟨'n', "ull".toList, rfl, rfl, by decide⟩
  | boolean value => cases value <;> exact ⟨_, _, rfl, rfl, by decide⟩
  | number value =>
    obtain ⟨c, tail, equal, first⟩ := writeInteger_starts value
    refine ⟨c, tail, by rw [prettyAt, Json.writeNumber, equal], ?_⟩
    rcases first with rfl | digit
    · exact ⟨rfl, by decide⟩
    · exact ⟨(isDigit_solid digit).1, (isDigit_solid digit).2.1⟩
  | string value => exact ⟨'"', _, rfl, rfl, by decide⟩
  | @array items each =>
    cases items with
    | nil => exact ⟨'[', _, rfl, rfl, by decide⟩
    | cons first rest => exact ⟨'[', _, rfl, rfl, by decide⟩
  | @object members each =>
    cases members with
    | nil => exact ⟨'{', _, rfl, rfl, by decide⟩
    | cons first rest => exact ⟨'{', _, rfl, rfl, by decide⟩

section Steps

variable {read : Text → Except Failure (Json × Text)} {text behind next rest : Text} {item : Json}
  {fuel : Nat}

theorem items_last (found : read text = .ok (item, behind)) (closed : skipSpace behind = ']' :: rest) :
    items read (fuel + 1) text = .ok ([item], rest) := by
  refine bind_eq_ok.mpr ⟨(item, behind), found, ?_⟩
  simp only [closed]

theorem items_next {c : Char} {tail : Text} {others : List Json}
    (found : read text = .ok (item, behind)) (comma : skipSpace behind = ',' :: next)
    (start : skipSpace next = c :: tail) (goesOn : c ≠ ']')
    (more : items read fuel (c :: tail) = .ok (others, rest)) :
    items read (fuel + 1) text = .ok (item :: others, rest) := by
  refine bind_eq_ok.mpr ⟨(item, behind), found, ?_⟩
  simp only [comma, start]
  split
  · simp_all
  · simp_all
  · exact bind_eq_ok.mpr ⟨(others, rest), more, rfl⟩

variable {key behindKey behindColon : Text}

theorem members_last (name : string text = .ok (key, behindKey))
    (colon : skipSpace behindKey = ':' :: behindColon) (found : read behindColon = .ok (item, behind))
    (closed : skipSpace behind = '}' :: rest) :
    members read (fuel + 1) ('"' :: text) = .ok ([(key, item)], rest) := by
  refine bind_eq_ok.mpr ⟨(key, behindKey), name, ?_⟩
  refine bind_eq_ok.mpr ⟨behindColon, by simp [JsonReader.colon, colon], ?_⟩
  refine bind_eq_ok.mpr ⟨(item, behind), found, ?_⟩
  simp only [closed]

theorem members_next {tail : Text} {others : List (Text × Json)}
    (name : string text = .ok (key, behindKey)) (colon : skipSpace behindKey = ':' :: behindColon)
    (found : read behindColon = .ok (item, behind)) (comma : skipSpace behind = ',' :: next)
    (quote : skipSpace next = '"' :: tail)
    (more : members read fuel ('"' :: tail) = .ok (others, rest)) :
    members read (fuel + 1) ('"' :: text) = .ok ((key, item) :: others, rest) := by
  refine bind_eq_ok.mpr ⟨(key, behindKey), name, ?_⟩
  refine bind_eq_ok.mpr ⟨behindColon, by simp [JsonReader.colon, colon], ?_⟩
  refine bind_eq_ok.mpr ⟨(item, behind), found, ?_⟩
  simp only [comma, quote]
  exact bind_eq_ok.mpr ⟨(others, rest), more, rfl⟩

end Steps

/-- What stands behind the last member of a container: white space, and then its closing mark. -/
def closing (level : Nat) (mark : Char) (rest : Text) : Text := newLine level ++ mark :: rest

theorem skipSpace_closing {mark : Char} (solid : isSpace mark = false) (level : Nat) (rest : Text) :
    skipSpace (closing level mark rest) = mark :: rest :=
  (skipSpace_newLine level _).trans (skipSpace_cons solid rest)

theorem endsNumber_closing (level : Nat) (mark : Char) (rest : Text) :
    EndsNumber (closing level mark rest) := by
  intro c first
  obtain rfl : '\n' = c := by simpa [closing, newLine] using first
  decide

theorem endsNumber_comma (rest : Text) : EndsNumber (',' :: rest) := by
  intro c first
  obtain rfl : ',' = c := by simpa using first
  decide

/-- Written at a level, the value is read back whatever stands behind it but more of a number. -/
def ReadsBack (depth level : Nat) (item : Json) : Prop :=
  ∀ rest, EndsNumber rest → value depth (prettyAt level item ++ rest) = .ok (item, rest)

section Containers

variable {depth level : Nat} (outer : Nat)

theorem items_pretty {first : Json} {more : List Json} {fuel : Nat} (enough : more.length < fuel)
    (each : ∀ item ∈ first :: more, ReadsBack depth level item)
    (integral : ∀ item ∈ more, item.IsIntegral) (rest : Text) :
    items (value depth) fuel
        (prettyAt level first ++ (prettyItems level more ++ closing outer ']' rest)) =
      .ok (first :: more, rest) := by
  induction more generalizing first fuel with
  | nil =>
    obtain ⟨less, rfl⟩ := Nat.exists_eq_succ_of_ne_zero (Nat.ne_of_gt enough)
    have found := each first List.mem_cons_self _ (endsNumber_closing outer ']' rest)
    exact items_last found (skipSpace_closing (by decide) outer rest)
  | cons next more ih =>
    obtain ⟨less, rfl⟩ := Nat.exists_eq_succ_of_ne_zero (Nat.ne_of_gt (Nat.zero_lt_of_lt enough))
    have inner := ih (Nat.lt_of_succ_lt_succ enough)
      (fun item inside => each item (List.mem_cons_of_mem first inside))
      fun item inside => integral item (List.mem_cons_of_mem next inside)
    obtain ⟨c, tail, equal, solid, goesOn⟩ := prettyAt_starts (integral next List.mem_cons_self) level
    have found := each first List.mem_cons_self _ (endsNumber_comma
      (newLine level ++ (prettyAt level next ++ (prettyItems level more ++ closing outer ']' rest))))
    simp only [prettyItems, List.cons_append, List.append_assoc]
    rw [equal] at inner found ⊢
    refine items_next found (skipSpace_cons (by decide) _) ?_ goesOn inner
    rw [skipSpace_newLine]
    exact skipSpace_cons solid _

theorem value_space (text : Text) : value depth (' ' :: text) = value depth text := by
  rw [← value_skipSpace depth (' ' :: text), ← value_skipSpace depth text]
  rfl

theorem writeString_append (key rest : Text) :
    writeString key ++ rest = '"' :: (key.flatMap Json.writeCharacter ++ '"' :: rest) := by
  simp [writeString]

theorem members_pretty {key : Text} {first : Json} {more : List (Text × Json)} {fuel : Nat}
    (enough : more.length < fuel)
    (each : ∀ member ∈ (key, first) :: more, ReadsBack depth level member.2) (rest : Text) :
    members (value depth) fuel
        (writeString key ++ (':' :: ' ' :: (prettyAt level first ++
          (prettyMembers level more ++ closing outer '}' rest)))) =
      .ok ((key, first) :: more, rest) := by
  induction more generalizing key first fuel with
  | nil =>
    obtain ⟨less, rfl⟩ := Nat.exists_eq_succ_of_ne_zero (Nat.ne_of_gt enough)
    have found := each (key, first) List.mem_cons_self _ (endsNumber_closing outer '}' rest)
    rw [← value_space] at found
    rw [writeString_append]
    exact members_last (string_written key _) (skipSpace_cons (by decide) _) found
      (skipSpace_closing (by decide) outer rest)
  | cons next more ih =>
    obtain ⟨name, second⟩ := next
    obtain ⟨less, rfl⟩ := Nat.exists_eq_succ_of_ne_zero (Nat.ne_of_gt (Nat.zero_lt_of_lt enough))
    have inner := ih (Nat.lt_of_succ_lt_succ enough)
      fun member inside => each member (List.mem_cons_of_mem _ inside)
    have found := each (key, first) List.mem_cons_self _ (endsNumber_comma
      (newLine level ++ (writeString name ++ (':' :: ' ' :: (prettyAt level second ++
        (prettyMembers level more ++ closing outer '}' rest))))))
    simp only [prettyMembers, List.cons_append, List.append_assoc]
    rw [← value_space] at found
    rw [writeString_append key]
    rw [writeString_append name] at inner found ⊢
    refine members_next (string_written key _) (skipSpace_cons (by decide) _) found
      (skipSpace_cons (by decide) _) ?_ inner
    rw [skipSpace_newLine]
    exact skipSpace_cons (by decide) _

end Containers

theorem value_scalar {c : Char} (solid : isSpace c = false) (bracket : c ≠ '[') (brace : c ≠ '{')
    (depth : Nat) (rest : Text) : value depth (c :: rest) = scalar (c :: rest) := by
  unfold value
  rw [skipSpace_cons solid]
  split <;> simp_all

section Brackets

variable {depth : Nat} {text rest : Text}

theorem value_array {list : List Json} (found : array (value depth) text = .ok (list, rest)) :
    value (depth + 1) ('[' :: text) = .ok (.array list, rest) :=
  bind_eq_ok.mpr ⟨(list, rest), found, rfl⟩

theorem value_object {list : List (Text × Json)} (found : object (value depth) text = .ok (list, rest)) :
    value (depth + 1) ('{' :: text) = .ok (.object (Json.sortMembers list), rest) :=
  bind_eq_ok.mpr ⟨(list, rest), found, rfl⟩

theorem array_items {list : List Json} {c : Char} {tail : Text} (start : skipSpace text = c :: tail)
    (goesOn : c ≠ ']') (found : items (value depth) (c :: tail).length (c :: tail) = .ok (list, rest)) :
    array (value depth) text = .ok (list, rest) := by
  unfold array
  rw [start]
  split
  · simp_all
  · simp_all
  · exact found

theorem object_members {list : List (Text × Json)} {tail : Text} (start : skipSpace text = '"' :: tail)
    (found : members (value depth) (tail.length + 1) ('"' :: tail) = .ok (list, rest)) :
    object (value depth) text = .ok (list, rest) := by
  unfold object
  rw [start]
  exact found

end Brackets

theorem length_prettyItems (level : Nat) (items : List Json) :
    items.length ≤ (prettyItems level items).length := by
  induction items with
  | nil => exact Nat.le_refl 0
  | cons item items ih =>
    simp only [prettyItems, List.length_cons, List.length_append]
    omega

theorem length_prettyMembers (level : Nat) (members : List (Text × Json)) :
    members.length ≤ (prettyMembers level members).length := by
  induction members with
  | nil => exact Nat.le_refl 0
  | cons member members ih =>
    simp only [prettyMembers, List.length_cons, List.length_append]
    omega

section Values

variable {depth level : Nat}

theorem number_readsBack {value : Int} (inRange : (JsonNumber.integer value).InRange) :
    ReadsBack depth level (.number (.integer value)) := by
  intro rest ends
  obtain ⟨c, tail, equal, first⟩ := writeInteger_starts value
  have plain : isSpace c = false ∧ c ≠ '[' ∧ c ≠ '{' := by
    rcases first with rfl | digit
    · exact ⟨rfl, by decide, by decide⟩
    · obtain ⟨solid, -, brackets⟩ := isDigit_solid digit
      exact ⟨solid, brackets⟩
  have read := scalar_writeInteger inRange ends
  rw [equal, List.cons_append] at read
  rw [prettyAt, Json.writeNumber, equal, List.cons_append]
  exact (value_scalar plain.1 plain.2.1 plain.2.2 _ _).trans read

theorem string_readsBack (text : Text) : ReadsBack depth level (.string text) := by
  intro rest _
  rw [prettyAt, writeString_append, value_scalar rfl (by decide) (by decide)]
  simp [scalar, string_written, bind, Except.bind, pure, Except.pure]

theorem array_readsBack {items : List Json} (each : ∀ item ∈ items, ReadsBack depth (level + 1) item)
    (integral : ∀ item ∈ items, item.IsIntegral) : ReadsBack (depth + 1) level (.array items) := by
  intro rest _
  cases items with
  | nil => exact value_array rfl
  | cons first more =>
    obtain ⟨c, tail, equal, solid, goesOn⟩ :=
      prettyAt_starts (integral first List.mem_cons_self) (level + 1)
    have enough : more.length < (prettyAt (level + 1) first ++
        (prettyItems (level + 1) more ++ closing level ']' rest)).length := by
      have longer := length_prettyItems (level + 1) more
      rw [equal]
      simp only [List.length_append, List.length_cons]
      omega
    have found := items_pretty level enough each
      (fun item inside => integral item (List.mem_cons_of_mem first inside)) rest
    simp only [prettyAt, List.cons_append, List.append_assoc]
    apply value_array
    rw [equal] at found ⊢
    refine array_items ?_ goesOn found
    rw [skipSpace_newLine]
    exact skipSpace_cons solid _

theorem object_readsBack {members : List (Text × Json)} (sorted : Json.IsSorted members)
    (each : ∀ member ∈ members, ReadsBack depth (level + 1) member.2) :
    ReadsBack (depth + 1) level (.object members) := by
  intro rest _
  cases members with
  | nil =>
    have empty : object (value depth) ('}' :: rest) = .ok ([], rest) := rfl
    exact value_object empty
  | cons first more =>
    obtain ⟨key, first⟩ := first
    have found (fuel : Nat) (enough : more.length < fuel) := members_pretty level enough each rest
    rw [writeString_append] at found
    have read : object (value depth)
        (newLine (level + 1) ++ (writeString key ++ (':' :: ' ' ::
          (prettyAt (level + 1) first ++
            (prettyMembers (level + 1) more ++ closing level '}' rest))))) =
          .ok ((key, first) :: more, rest) := by
      rw [writeString_append]
      refine object_members ?_ (found _ ?_)
      · rw [skipSpace_newLine]
        exact skipSpace_cons (by decide) _
      · have longer := length_prettyMembers (level + 1) more
        simp only [List.length_append, List.length_cons]
        omega
    have whole := value_object read
    rw [Json.sortMembers_of_isSorted sorted] at whole
    simpa only [prettyAt, closing, List.cons_append, List.append_assoc, List.nil_append] using whole

end Values

/-- By induction on the value, with the room for containers that it needs. -/
theorem readsBack {depth : Nat} {item : Json} (fits : item.Fits depth) (integral : item.IsIntegral)
    (level : Nat) : ReadsBack depth level item := by
  induction fits generalizing level with
  | null =>
    intro rest _
    exact value_scalar rfl (by decide) (by decide) _ _
  | boolean value =>
    intro rest _
    cases value <;> exact value_scalar rfl (by decide) (by decide) _ _
  | number inRange =>
    cases integral with
    | number value => exact number_readsBack inRange
  | string text => exact string_readsBack text
  | @array depth items each ih =>
    cases integral with
    | array integral =>
      have inner (item : Json) (inside : item ∈ items) : ReadsBack depth (level + 1) item :=
        ih item inside (integral item inside) (level + 1)
      exact array_readsBack inner integral
  | @object depth members sorted each ih =>
    cases integral with
    | object integral =>
      have inner (member : Text × Json) (inside : member ∈ members) :
          ReadsBack depth (level + 1) member.2 :=
        ih member inside (integral member inside) (level + 1)
      exact object_readsBack sorted inner

end JsonReader
end ApiBlueprint

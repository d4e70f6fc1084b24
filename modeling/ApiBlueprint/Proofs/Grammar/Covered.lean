import ApiBlueprint.Proofs.Grammar.Declared
import ApiBlueprint.Proofs.Grammar.Log
import ApiBlueprint.Proofs.Grammar.Step
import ApiBlueprint.Proofs.Text.Lines
import Mathlib.Data.Option.Basic

/-!
The content of a payload item is read with the item. A reading comes to one of its lines only inside
a fence that was opened above the item, where the item opens no payload.
-/

namespace ApiBlueprint

namespace Line.IsItem

variable {item : Line}

theorem exists_start (isItem : item.IsItem) : ∃ marker rest,
    Text.trimStart item.text = marker :: rest ∧ (marker = '+' ∨ marker = '*' ∨ marker = '-') ∧
      'R' ∈ rest := by
  obtain ⟨found, keyword⟩ := Option.isSome_iff_exists.mp isItem
  obtain ⟨name, marked, keyword⟩ := Option.bind_eq_some_iff.mp keyword
  obtain ⟨⟨kind, behind⟩, named, -⟩ := Option.bind_eq_some_iff.mp keyword
  have begins : 'R' ∈ name := by
    rcases (Option.orElse_eq_some _ _ _).mp named with request | ⟨-, response⟩
    · obtain ⟨rest, found, -⟩ := Option.map_eq_some_iff.mp request
      rw [Declaration.afterStart_eq found]
      exact List.mem_cons_self
    · obtain ⟨rest, found, -⟩ := Option.map_eq_some_iff.mp response
      rw [Declaration.afterStart_eq found]
      exact List.mem_cons_self
  unfold PayloadItem.marked? at marked
  split at marked
  · cases marked
  · split at marked
    · cases marked
    · rename_i marker rest start
      split at marked
      · rename_i conditions
        obtain rfl := Option.some.inj marked
        have sign : marker = '+' ∨ marker = '*' ∨ marker = '-' := by
          simp only [Bool.and_eq_true, Bool.or_eq_true, decide_eq_true_eq] at conditions
          tauto
        exact ⟨marker, rest, start, sign, (List.dropWhile_suffix _).subset begins⟩
      · cases marked

theorem not_blank (isItem : item.IsItem) : item.isBlank = false := by
  obtain ⟨marker, rest, start, -⟩ := isItem.exists_start
  exact Line.not_blank_of_start start

theorem mem_trim (isItem : item.IsItem) : 'R' ∈ Text.trim item.text := by
  obtain ⟨marker, rest, start, -, member⟩ := isItem.exists_start
  have inStart : 'R' ∈ Text.trimStart item.text := by
    rw [start]
    exact List.mem_cons_of_mem marker member
  exact Text.mem_trim ((List.dropWhile_suffix Text.isSpace).subset inStart) (by decide)

theorem no_underline (isItem : item.IsItem) : Heading.underlineDepth? item = none :=
  Heading.underlineDepth_none isItem.mem_trim (by decide)

theorem no_heading (isItem : item.IsItem) (next : Option Line) : Heading.detect? item next = none := by
  obtain ⟨marker, rest, start, sign, -⟩ := isItem.exists_start
  refine Heading.detect_none_of_start start ?_ next
  rcases sign with rfl | rfl | rfl <;> decide

/-- An item closes no fence: it has a marker and a keyword, which are different characters. -/
theorem not_closes (isItem : item.IsItem) (fence : Fence) : fence.closes item = false := by
  obtain ⟨marker, rest, start, sign, -⟩ := isItem.exists_start
  obtain ⟨inner, trimmed⟩ := Text.exists_trim_of_trimStart start
  have first : marker ∈ Text.trim item.text := trimmed ▸ List.mem_cons_self
  by_contra closes
  have all : ∀ c ∈ Text.trim item.text, c = fence.marker := by
    simp only [Fence.closes, Bool.not_eq_false, Bool.and_eq_true, List.all_eq_true,
      decide_eq_true_eq] at closes
    exact closes.1.2
  have same : marker = 'R' := (all marker first).trans (all 'R' isItem.mem_trim).symm
  rcases sign with rfl | rfl | rfl <;> cases same

theorem step (isItem : item.IsItem) {state : Reading} (unfenced : state.fence = none)
    (lines : List Line) : state.step item lines =
      ({ state with inMetadata := false } : Reading).readStructure item lines := by
  obtain ⟨marker, rest, start, sign, -⟩ := isItem.exists_start
  refine Reading.step_of_start start ?_ ?_ unfenced lines
  · rcases sign with rfl | rfl | rfl <;> decide
  · rcases sign with rfl | rfl | rfl <;> decide

end Line.IsItem

namespace Payload

def beyond (item : Line) (rest : List Line) : List Line := rest.dropWhile (isContent item.indent)

theorem content_append_beyond (item : Line) (rest : List Line) :
    content item rest ++ beyond item rest = rest := List.takeWhile_append_dropWhile

theorem drop_length_content (item : Line) (rest : List Line) :
    rest.drop (content item rest).length = beyond item rest := by
  have parts := content_append_beyond item rest
  calc
    rest.drop (content item rest).length =
        (content item rest ++ beyond item rest).drop (content item rest).length := by rw [parts]
    _ = beyond item rest := List.drop_left

theorem isContent_iff {indent : Nat} {line : Line} :
    isContent indent line = true ↔ Line.IsDeep (indent + 4) line.text := by
  simp only [isContent, Bool.or_eq_true, decide_eq_true_eq]
  rfl

/-- The content of an item ends at the first line that is neither blank nor deep enough. -/
theorem content_between {item : Line} {inside outside : List Line}
    (deep : ∀ line ∈ inside, Line.IsDeep (item.indent + 4) line.text)
    (ends : ∀ line ∈ outside.head?, ¬ Line.IsDeep (item.indent + 4) line.text) :
    content item (inside ++ outside) = inside := by
  unfold content
  rw [List.takeWhile_append_of_pos fun line member => isContent_iff.mpr (deep line member)]
  cases outside with
  | nil => rw [List.takeWhile_nil, List.append_nil]
  | cons line outside =>
    have shallow : ¬ isContent item.indent line = true := fun inside => ends line rfl (isContent_iff.mp inside)
    rw [List.takeWhile_cons_of_neg shallow, List.append_nil]

theorem isContent_of_mem {item line : Line} {rest : List Line} (inside : line ∈ content item rest) :
    isContent item.indent line = true := List.mem_takeWhile_imp inside

theorem not_closes {indent : Nat} {line : Line} (inside : isContent indent line = true) (fence : Fence) :
    fence.closes line = false := by
  simp only [isContent, Bool.or_eq_true, decide_eq_true_eq] at inside
  rcases inside with blank | deep
  · have white : ∀ c ∈ line.text, Text.isSpace c = true := by
      simpa [Line.isBlank, Text.isBlank] using blank
    have nothing : Text.trim line.text = [] := @Text.trim_pad [] [] line.text (by simp) white
    simp [Fence.closes, nothing]
  · have tooDeep : ¬ line.indent ≤ 3 := by omega
    simp [Fence.closes, tooDeep]

theorem isContent_trans {outer item line : Line} (isItem : item.IsItem)
    (first : isContent outer.indent item = true) (second : isContent item.indent line = true) :
    isContent outer.indent line = true := by
  simp only [isContent, isItem.not_blank, Bool.false_or, decide_eq_true_eq] at first
  simp only [isContent, Bool.or_eq_true, decide_eq_true_eq] at second ⊢
  rcases second with blank | deep
  · exact Or.inl blank
  · exact Or.inr (by omega)

/-- An outer item that takes an inner one takes all its content. -/
theorem beyond_of_lt {outer item : Line} {front rest : List Line} (isItem : item.IsItem)
    (reaches : front.length < (content outer (front ++ item :: rest)).length) :
    beyond outer (front ++ item :: rest) <:+ beyond item rest := by
  have taken : front ++ [item] <+: content outer (front ++ item :: rest) := by
    refine List.prefix_of_prefix_length_le ⟨rest, by simp⟩ (List.takeWhile_prefix _) ?_
    rw [List.length_append]
    exact reaches
  have inside : ∀ line ∈ front ++ [item], isContent outer.indent line = true := fun line member =>
    isContent_of_mem (taken.subset member)
  obtain ⟨inFront, inItem⟩ := List.forall_mem_append.mp inside
  have ownItem : isContent outer.indent item = true := inItem item List.mem_cons_self
  have ownContent : ∀ line ∈ content item rest, isContent outer.indent line = true :=
    fun line member => isContent_trans isItem ownItem (isContent_of_mem member)
  calc
    beyond outer (front ++ item :: rest) = beyond outer rest := by
      rw [beyond, List.dropWhile_append_of_pos inFront, List.dropWhile_cons_of_pos ownItem, beyond]
    _ = beyond outer (content item rest ++ beyond item rest) := by rw [content_append_beyond]
    _ = beyond outer (beyond item rest) := List.dropWhile_append_of_pos ownContent
    _ <:+ beyond item rest := List.dropWhile_suffix _

end Payload

namespace Reading

/-- The lines ahead have rising numbers, and a fence that is open was opened above them. -/
structure IsAbove (state : Reading) (lines : List Line) : Prop where
  rising : lines.Pairwise fun first second => first.number < second.number
  opened : ∀ fence, state.fence = some fence → ∀ line ∈ lines, fence.openedAt < line.number

theorem IsAbove.step {state next : Reading} {line : Line} {rest : List Line} {taken : Nat}
    (above : state.IsAbove (line :: rest)) (stepped : state.step line rest = .ok (next, taken)) :
    next.IsAbove (rest.drop taken) := by
  obtain ⟨lower, rising⟩ := List.pairwise_cons.mp above.rising
  refine ⟨rising.sublist (List.drop_sublist taken rest), fun fence opened below member => ?_⟩
  have inRest : below ∈ rest := List.mem_of_mem_drop member
  rw [(step_cases stepped).1] at opened
  rcases Fence.advance_opened fence opened with before | here
  · exact above.opened fence before below (List.mem_cons_of_mem line inRest)
  · rw [here]
    exact lower below inRest

theorem Reached.isAbove {source : Text} {state : Reading} {lines : List Line} {log : List Entry}
    (reached : Reached source state lines log) : state.IsAbove lines := by
  induction reached with
  | start => exact ⟨splitLines_rising source, fun fence opened => by cases opened⟩
  | step reached stepped ih => exact ih.step stepped

/-- Where a reading stands, for an item and the lines below it. -/
inductive Stands (item : Line) (rest : List Line) (state : Reading) (lines : List Line) : Prop
  | above (front : List Line) (ahead : lines = front ++ item :: rest)
  | fenced (fence : Fence) (left : List Line) (opened : state.fence = some fence)
      (since : fence.openedAt < item.number) (within : left <:+ Payload.content item rest)
      (ahead : lines = left ++ Payload.beyond item rest)
  | below (ahead : lines <:+ Payload.beyond item rest)

section Stands

variable {item line : Line} {rest lines : List Line} {state next : Reading} {taken : Nat}

theorem step_fenced {fence : Fence} (opened : state.fence = some fence)
    (stays : fence.closes line = false) (stepped : state.step line lines = .ok (next, taken)) :
    next.fence = some fence ∧ taken = 0 := by
  obtain ⟨after, alone | ⟨unfenced, -⟩⟩ := step_cases stepped
  · refine ⟨?_, alone⟩
    rw [after, opened, Fence.advance, stays]
    rfl
  · rw [opened] at unfenced
    cases unfenced

theorem step_item (isItem : item.IsItem) (above : state.IsAbove (item :: rest))
    (stepped : state.step item rest = .ok (next, taken)) : Stands item rest next (rest.drop taken) := by
  cases opened : state.fence with
  | some fence =>
    obtain ⟨stillOpen, rfl⟩ := step_fenced opened (isItem.not_closes fence) stepped
    exact .fenced fence _ stillOpen (above.opened fence opened item List.mem_cons_self)
      List.suffix_rfl (Payload.content_append_beyond item rest).symm
  | none =>
    rw [isItem.step opened] at stepped
    rcases (readStructure_cases stepped).2 with ⟨heading, found, -⟩ | ⟨-, rfl⟩ | ⟨other, -⟩
    · rw [isItem.no_heading] at found
      cases found
    · exact .below (Payload.drop_length_content item rest ▸ List.suffix_rfl)
    · contradiction

theorem step_above {front : List Line} (isItem : item.IsItem)
    (stepped : state.step line (front ++ item :: rest) = .ok (next, taken)) :
    Stands item rest next ((front ++ item :: rest).drop taken) := by
  by_cases short : taken ≤ front.length
  · exact .above (front.drop taken) (List.drop_append_of_le_length short)
  · rcases (step_cases stepped).2 with rfl | ⟨-, read⟩
    · exact absurd (Nat.zero_le _) short
    · rcases (readStructure_cases read).2 with ⟨heading, found, rfl⟩ | ⟨-, rfl⟩ | ⟨-, rfl⟩
      · rcases Heading.detect_cases found with none | ⟨one, below, depth, more, under⟩
        · exact absurd (none ▸ Nat.zero_le _) short
        · cases front with
          | nil =>
            obtain rfl := Option.some.inj more
            rw [isItem.no_underline] at under
            cases under
          | cons first front =>
            rw [one] at short
            exact absurd (Nat.succ_pos front.length) short
      · rw [Payload.drop_length_content]
        exact .below (Payload.beyond_of_lt isItem (Nat.lt_of_not_le short))
      · exact absurd (Nat.zero_le _) short

theorem Stands.step (stands : Stands item rest state (line :: lines)) (isItem : item.IsItem)
    (above : state.IsAbove (line :: lines)) (stepped : state.step line lines = .ok (next, taken)) :
    Stands item rest next (lines.drop taken) := by
  cases stands with
  | above front ahead =>
    cases front with
    | nil =>
      obtain ⟨rfl, rfl⟩ := List.cons.inj ahead
      exact step_item isItem above stepped
    | cons first front =>
      obtain ⟨rfl, rfl⟩ := List.cons.inj ahead
      exact step_above isItem stepped
  | fenced fence left opened since within ahead =>
    cases left with
    | nil =>
      have suffix : line :: lines <:+ Payload.beyond item rest := ahead ▸ List.suffix_rfl
      exact .below ((List.drop_suffix taken lines).trans ((List.suffix_cons line lines).trans suffix))
    | cons first left =>
      obtain ⟨rfl, rfl⟩ := List.cons.inj ahead
      have inside := Payload.isContent_of_mem (within.subset List.mem_cons_self)
      obtain ⟨stillOpen, rfl⟩ := step_fenced opened (Payload.not_closes inside fence) stepped
      exact .fenced fence left stillOpen since ((List.suffix_cons _ left).trans within) rfl
  | below ahead =>
    exact .below ((List.drop_suffix taken lines).trans ((List.suffix_cons line lines).trans ahead))

/-- By induction on the steps. -/
theorem Reached.stands {source : Text} {front : List Line} {log : List Entry}
    (reached : Reached source state lines log) (whole : splitLines source = front ++ item :: rest)
    (isItem : item.IsItem) : Stands item rest state lines := by
  induction reached with
  | start => exact .above front whole
  | step reached stepped ih => exact ih.step isItem reached.isAbove stepped

/-- A reading comes to a line of the content only where a fence is open that was opened above the
item. -/
theorem Reached.fenced_in_content {source : Text} {front : List Line} {log : List Entry}
    (reached : Reached source state (line :: lines) log)
    (whole : splitLines source = front ++ item :: rest) (isItem : item.IsItem)
    (inside : line ∈ Payload.content item rest) :
    ∃ fence, state.fence = some fence ∧ fence.openedAt < item.number := by
  have rising := splitLines_rising source
  rw [whole, List.pairwise_append, List.pairwise_cons] at rising
  obtain ⟨-, ⟨underItem, inRest⟩, -⟩ := rising
  have lower : item.number < line.number := underItem line ((List.takeWhile_prefix _).subset inside)
  cases reached.stands whole isItem with
  | above higher ahead =>
    have atMost : line.number ≤ item.number := by
      cases higher with
      | nil =>
        obtain ⟨rfl, -⟩ := List.cons.inj ahead
        exact Nat.le_refl _
      | cons first higher =>
        obtain ⟨rfl, rfl⟩ := List.cons.inj ahead
        have later := (List.pairwise_cons.mp reached.isAbove.rising).1
        exact Nat.le_of_lt (later item (by simp))
    omega
  | fenced fence left opened since within ahead => exact ⟨fence, opened, since⟩
  | below ahead =>
    rw [← Payload.content_append_beyond item rest, List.pairwise_append] at inRest
    have beyond : line ∈ Payload.beyond item rest := ahead.subset List.mem_cons_self
    exact absurd (inRest.2.2 line inside line beyond) (Nat.lt_irrefl _)

end Stands
end Reading
end ApiBlueprint

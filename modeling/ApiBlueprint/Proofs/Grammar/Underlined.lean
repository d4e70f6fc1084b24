import ApiBlueprint.Proofs.Grammar.Append
import ApiBlueprint.Proofs.Grammar.Inserted
import ApiBlueprint.Proofs.Text.Lines

/-!
A heading of the first or second depth can be marked by number signs or underlined by the next line.
What is read is the same, but for the numbers of the lines behind it.
-/

namespace ApiBlueprint

/-- One line that is neither a mark of its own, nor an underline, nor metadata. -/
@[mk_iff]
structure IsTitle (title : Text) : Prop where
  nonempty : title ≠ []
  trimmed : Text.IsTrimmed title
  line : Text.IsLine title
  unmarked : title.head? ≠ some '#' ∧ title.head?.any Heading.isListMarker = false
  unfenced : ¬ List.replicate 3 '\x60' <+: title ∧ ¬ List.replicate 3 '~' <+: title
  unclosed : title.getLast? ≠ some '#'
  noUnderline : title.all (· = '=') = false
  noEntry : Metadata.ofLine? title = none

instance (title : Text) : Decidable (IsTitle title) :=
  decidable_of_iff' _ (isTitle_iff title)

def Heading.underline (depth : Nat) : Text := if depth = 1 then "===".toList else "---".toList

theorem Text.replicate_prefix {n : Nat} {c : Char} {text : Text}
    (long : n ≤ (text.takeWhile (· = c)).length) : List.replicate n c <+: text := by
  have run : text.takeWhile (· = c) = List.replicate (text.takeWhile (· = c)).length c :=
    List.eq_replicate_of_mem fun d member => by simpa using List.mem_takeWhile_imp member
  have begins : List.replicate n c <+: text.takeWhile (· = c) := by
    rw [run, ← Nat.add_sub_cancel' long, List.replicate_add]
    exact List.prefix_append _ _
  exact begins.trans (List.takeWhile_prefix _)

theorem Line.dedent_solid {c : Char} (solid : Text.isSpace c = false) (width : Nat) (rest : Text) :
    dedent width (c :: rest) = c :: rest := by
  have noSpace : c ≠ ' ' := by
    rintro rfl
    cases solid
  have noTab : c ≠ '\t' := by
    rintro rfl
    cases solid
  cases width with
  | zero => rfl
  | succ width => rw [dedent] <;> simp [noSpace, noTab]

namespace IsTitle

variable {title : Text} (isTitle : IsTitle title)

include isTitle

theorem exists_cons : ∃ c rest, title = c :: rest ∧ Text.isSpace c = false := by
  obtain ⟨c, rest, rfl⟩ := List.exists_cons_of_ne_nil isTitle.nonempty
  exact ⟨c, rest, rfl, isTitle.trimmed.head_solid⟩

theorem flush (number : Nat) : Line.indent ⟨title, number⟩ = 0 := by
  obtain ⟨c, rest, rfl, solid⟩ := isTitle.exists_cons
  apply Line.indentWidth_other
  · rintro rfl
    cases solid
  · rintro rfl
    cases solid

theorem not_blank (number : Nat) : Line.isBlank ⟨title, number⟩ = false :=
  isTitle.trimmed.not_blank isTitle.nonempty

theorem opening_none (number : Nat) : Fence.opening? ⟨title, number⟩ = none := by
  obtain ⟨c, rest, rfl, solid⟩ := isTitle.exists_cons
  unfold Fence.opening?
  split
  · rfl
  · rw [Line.dedent_solid solid]
    simp only
    split
    · rename_i conditions
      simp only [Bool.and_eq_true, decide_eq_true_eq] at conditions
      obtain ⟨marker, long⟩ := conditions
      have run : List.replicate 3 c <+: c :: rest :=
        (List.prefix_cons_inj c).mpr (Text.replicate_prefix (Nat.le_of_succ_le_succ long))
      have fences : c = '\x60' ∨ c = '~' := by simpa [Fence.isMarker] using marker
      rcases fences with rfl | rfl
      · exact absurd run isTitle.unfenced.1
      · exact absurd run isTitle.unfenced.2
    · rfl

theorem breaks (number : Nat) : Line.Breaks ⟨title, number⟩ := by
  refine ⟨isTitle.not_blank number, by simp [isTitle.flush number], ?_⟩
  have hyphens : title.all (· = '-') = false := by
    obtain ⟨c, rest, rfl, -⟩ := isTitle.exists_cons
    have marker : Heading.isListMarker c = false := isTitle.unmarked.2
    rw [List.all_cons, Bool.and_eq_false_iff]
    left
    rw [decide_eq_false_iff_not]
    rintro rfl
    cases marker
  have trimmed : Text.trim title = title := isTitle.trimmed
  simp [Heading.underlineDepth?, trimmed, isTitle.noUnderline, hyphens]

theorem detect_underlined {below : Line} {depth : Nat} (number : Nat)
    (under : Heading.underlineDepth? below = some depth) :
    Heading.detect? ⟨title, number⟩ (some below) =
      some ⟨depth, title, CommonMark.plainText title, 1⟩ := by
  obtain ⟨c, rest, same, solid⟩ := isTitle.exists_cons
  have first : title.head? = some c := by
    rw [same]
    rfl
  obtain ⟨sign, marker⟩ := isTitle.unmarked
  rw [first] at sign marker
  have start : Text.trimStart title = c :: rest := by
    rw [same, Text.trimStart_cons solid]
  have unsigned : Heading.marked? ⟨title, number⟩ = none :=
    Heading.marked_none_of_start start fun hash => sign (congrArg some hash)
  have trimmed : Text.trim title = title := isTitle.trimmed
  rw [Heading.detect?, unsigned, Heading.underlined?]
  simp only [isTitle.not_blank, isTitle.flush, trimmed]
  rw [same]
  simp [marker, under]

theorem isRow : IsRow title := isRow_trimmed isTitle.line isTitle.trimmed

theorem marked {depth : Nat} (shallow : depth = 1 ∨ depth = 2) (number : Nat) :
    Heading.marked? ⟨Render.heading depth title, number⟩ =
      some ⟨depth, title, CommonMark.plainText title, 0⟩ := by
  obtain ⟨front, last, same⟩ := (List.eq_nil_or_concat' title).resolve_left isTitle.nonempty
  have ends : title.getLast? = some last := by
    rw [same]
    exact List.getLast?_concat
  refine marked_heading (by omega) (by omega) isTitle.trimmed ends ?_
  rintro rfl
  exact isTitle.unclosed ends

theorem step_eq {state : Reading} (unfenced : state.fence = none) (number : Nat) (rest : List Line) :
    state.step ⟨title, number⟩ rest =
      ({ state with inMetadata := false } : Reading).readStructure ⟨title, number⟩ rest := by
  obtain ⟨blueprint, scope, fence, inMetadata⟩ := state
  obtain rfl := unfenced
  cases inMetadata <;>
    simp [Reading.step, Fence.advance, isTitle.opening_none, isTitle.not_blank, isTitle.noEntry]

end IsTitle

namespace Heading

theorem underline_depth {depth : Nat} (shallow : depth = 1 ∨ depth = 2) (number : Nat) :
    underlineDepth? ⟨underline depth, number⟩ = some depth := by
  rcases shallow with rfl | rfl <;> rfl

end Heading

namespace Reading

/-- The further lines of a heading are nothing to the state behind it. -/
theorem run_underlined {title : Text} (isTitle : IsTitle title) {depth : Nat}
    (shallow : depth = 1 ∨ depth = 2) {state : Reading} (unfenced : state.fence = none)
    (number : Nat) (rest : List Line) :
    state.run (⟨title, number⟩ :: ⟨Heading.underline depth, number + 1⟩ :: rest) =
      state.run (⟨Render.heading depth title, number⟩ :: rest) := by
  let late : Reading := { state with inMetadata := false }
  let signed : Heading := ⟨depth, title, CommonMark.plainText title, 0⟩
  have marked (next : Option Line) :
      Heading.detect? ⟨Render.heading depth title, number⟩ next = some signed := by
    rw [Heading.detect?, isTitle.marked shallow]
    rfl
  obtain ⟨-, -, tail, start⟩ := Heading.marked_cases (isTitle.marked shallow number)
  have above : late.readStructure ⟨title, number⟩ (⟨Heading.underline depth, number + 1⟩ :: rest) =
      late.enterHeading signed number >>= fun next => .ok (next, 1) := by
    have underlined := isTitle.detect_underlined number (Heading.underline_depth shallow (number + 1))
    rw [readStructure, List.head?_cons, underlined]
    rfl
  have alone : late.readStructure ⟨Render.heading depth title, number⟩ rest =
      late.enterHeading signed number >>= fun next => .ok (next, 0) := by
    rw [readStructure, marked]
    rfl
  rw [run, isTitle.step_eq unfenced, above, run,
    step_of_start start (by decide) (by decide) unfenced, alone]
  cases late.enterHeading signed number <;> rfl

end Reading

/-- Headings of both notations are read alike. Where no fence is open, a title can be underlined or
marked by number signs: the tree is the same, or the error is, with line numbers that are greater by one
behind the title. -/
theorem Blueprint.read_underlined {before after : List Text} {title : Text} {depth : Nat}
    (lines : ∀ text ∈ before ++ after, Text.IsLine text) (isTitle : IsTitle title)
    (shallow : depth = 1 ∨ depth = 2)
    (topLevel : ∀ state, ({} : Reading).after (numbered 1 (before.map Line.dropReturn)) = .ok state →
      state.fence = none) :
    let place := inserted (before.length + 1) 1
    Blueprint.read (Text.joinWith ['\n'] (before ++ title :: Heading.underline depth :: after)) =
      renumbered place (renumber place)
        (Blueprint.read (Text.joinWith ['\n'] (before ++ Render.heading depth title :: after))) := by
  intro place
  let number := before.length + 1
  let front := numbered 1 (before.map Line.dropReturn)
  let behind (start : Nat) := numbered start (after.map Line.dropReturn)
  have rows : ∀ text ∈ [title, Heading.underline depth], IsRow text := by
    rw [List.forall_mem_cons, List.forall_mem_singleton]
    refine ⟨isTitle.isRow, ?_⟩
    rcases shallow with rfl | rfl <;> decide
  have row : ∀ text ∈ [Render.heading depth title], IsRow text :=
    List.forall_mem_singleton.mpr (isRow_heading depth isTitle.isRow)
  have underlined : splitLines (Text.joinWith ['\n'] (before ++ title :: Heading.underline depth :: after)) =
      front ++ ⟨title, number⟩ :: ⟨Heading.underline depth, number + 1⟩ :: behind (number + 2) :=
    splitLines_between (by simp) rows lines
  have signed : splitLines (Text.joinWith ['\n'] (before ++ Render.heading depth title :: after)) =
      front ++ ⟨Render.heading depth title, number⟩ :: behind (number + 1) :=
    splitLines_between (by simp) row lines
  have kept : front.map (Line.renumber place) = front := numbered_inserted (by simp [Nat.add_comm])
  have here : Line.renumber place ⟨Render.heading depth title, number⟩ =
      ⟨Render.heading depth title, number⟩ := by
    rw [Line.renumber, show place number = number from if_neg (Nat.lt_irrefl number)]
  have moved : (behind (number + 1)).map (Line.renumber place) = behind (number + 2) :=
    inserted_numbered (Nat.lt_succ_self number)
  have breaks : Line.Breaks ⟨Render.heading depth title, number⟩ :=
    Heading.marked_breaks (isTitle.marked shallow number)
  calc
    Blueprint.read (Text.joinWith ['\n'] (before ++ title :: Heading.underline depth :: after)) =
        ({} : Reading).after front >>= fun last =>
          last.run (⟨title, number⟩ :: ⟨Heading.underline depth, number + 1⟩ :: behind (number + 2)) := by
      rw [Blueprint.read, underlined, Reading.run_front (isTitle.breaks number)]
    _ = ({} : Reading).after front >>= fun last =>
          last.run (⟨Render.heading depth title, number⟩ :: behind (number + 2)) := by
      cases reached : ({} : Reading).after front with
      | error error => rfl
      | ok last => exact Reading.run_underlined isTitle shallow (topLevel last reached) number _
    _ = ({} : Reading).run (front ++ ⟨Render.heading depth title, number⟩ :: behind (number + 2)) :=
      (Reading.run_front breaks {} front).symm
    _ = renumbered place (renumber place)
          (({} : Reading).run (front ++ ⟨Render.heading depth title, number⟩ :: behind (number + 1))) := by
      have moves := @Reading.run_relabel place (Payload.renumber place) {}
        (front ++ ⟨Render.heading depth title, number⟩ :: behind (number + 1))
        fun line member payload same => rfl
      rw [List.map_append, kept, List.map_cons, here, moved] at moves
      exact moves
    _ = renumbered place (renumber place)
          (Blueprint.read (Text.joinWith ['\n'] (before ++ Render.heading depth title :: after))) := by
      rw [Blueprint.read, signed]

/-- The title ends a payload, and with the line below it the next payload moves down. -/
theorem Blueprint.read_underlined_fill :
    let before := ["# Tea [/tea]".toList, "## Pour [GET]".toList, "+ Response 200".toList, [],
      "        hot".toList]
    let after := ["+ Response 204".toList]
    let title := "Fill [PUT]".toList
    IsTitle title ∧ ∃ tree,
      Blueprint.read (Text.joinWith ['\n'] (before ++ "## Fill [PUT]".toList :: after)) = .ok tree ∧
      Blueprint.read (Text.joinWith ['\n'] (before ++ title :: "---".toList :: after)) =
        .ok (tree.renumber (inserted 6 1)) ∧
      tree.actions.map Action.line = [2, 6] ∧
      tree.actions.map (fun action => action.responses.map Payload.line) = [[3], [7]] := by
  intro before after title
  let source := Text.joinWith ['\n'] (before ++ "## Fill [PUT]".toList :: after)
  have isTitle : IsTitle title := by decide
  have lines : ∀ text ∈ before ++ after, Text.IsLine text := by decide
  have topLevel (state : Reading)
      (reached : ({} : Reading).after (numbered 1 (before.map Line.dropReturn)) = .ok state) :
      state.fence = none := by
    have unfenced : (({} : Reading).after (numbered 1 (before.map Line.dropReturn))).map Reading.fence =
        .ok none := by decide +kernel
    rw [reached] at unfenced
    exact Except.ok.inj unfenced
  have same := read_underlined lines isTitle (Or.inr rfl) topLevel
  have places : (Blueprint.read source).map (fun tree => (tree.actions.map Action.line,
      tree.actions.map fun action => action.responses.map Payload.line)) =
      .ok ([2, 6], [[3], [7]]) := by decide +kernel
  obtain ⟨tree, read, there⟩ := map_eq_ok.mp places
  obtain ⟨actions, payloads⟩ := Prod.mk.inj there
  refine ⟨isTitle, tree, read, ?_, actions, payloads⟩
  rw [show Blueprint.read (Text.joinWith ['\n'] (before ++ Render.heading 2 title :: after)) = .ok tree
    from read] at same
  exact same

end ApiBlueprint

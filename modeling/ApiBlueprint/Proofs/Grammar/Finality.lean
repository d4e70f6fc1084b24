import ApiBlueprint.Proofs.Grammar.Order
import ApiBlueprint.Proofs.Grammar.Shift

/-!
A fault is final. A step looks at most one line past those that it takes, and a payload that cannot be
built has a line of its own to blame, so what stands behind a fault neither hides it nor moves it. Only
a fence that stays open is found at the end.
-/

namespace ApiBlueprint

/-- The error is on the last of the lines or on the one above it. -/
def GrammarError.EndsOn (error : GrammarError) (lines : List Line) : Prop :=
  ∃ before line under, lines = before ++ line :: under ∧ under.length ≤ 1 ∧ error.line = line.number

theorem GrammarError.EndsOn.append {error : GrammarError} {lines : List Line} (ends : error.EndsOn lines)
    (front : List Line) : error.EndsOn (front ++ lines) := by
  obtain ⟨before, line, under, rfl, short, here⟩ := ends
  exact ⟨front ++ before, line, under, (List.append_assoc _ _ _).symm, short, here⟩

namespace Payload

variable {error : GrammarError}

theorem headerOfLine_eq_error {line : Line} (failed : headerOfLine line = .error error) :
    error.line = line.number ∧ error.fault ≠ .unclosedFence := by
  simp only [headerOfLine] at failed
  split at failed
  · cases failed
  · obtain rfl := Except.error.inj failed
    exact ⟨rfl, by simp⟩

/-- By induction on the lines: the first one that is no header is to blame. -/
theorem headers_fail {lines : List Line}
    (failed : (lines.filter fun line => !line.isBlank).mapM headerOfLine = .error error) :
    error.fault ≠ .unclosedFence ∧ ∃ front, front <+: lines ∧ error.EndsOn front ∧
      ∀ more, ((front ++ more).filter fun line => !line.isBlank).mapM headerOfLine = .error error := by
  induction lines with
  | nil => cases failed
  | cons line rest ih =>
    cases blank : line.isBlank with
    | true =>
      have dropped (more : List Line) : (line :: more).filter (fun line => !line.isBlank) =
          more.filter fun line => !line.isBlank := List.filter_cons_of_neg (by simp [blank])
      rw [dropped] at failed
      obtain ⟨other, front, begins, ends, fails⟩ := ih failed
      refine ⟨other, line :: front, (List.prefix_cons_inj line).mpr begins, ends.append [line], ?_⟩
      intro more
      rw [List.cons_append, dropped]
      exact fails more
    | false =>
      have kept (more : List Line) : (line :: more).filter (fun line => !line.isBlank) =
          line :: more.filter fun line => !line.isBlank := List.filter_cons_of_pos (by simp [blank])
      rw [kept, List.mapM_cons] at failed
      rcases bind_eq_error.mp failed with here | ⟨header, read, later⟩
      · obtain ⟨same, other⟩ := headerOfLine_eq_error here
        refine ⟨other, [line], ⟨rest, rfl⟩, ⟨[], line, [], rfl, Nat.zero_le _, same⟩, fun more => ?_⟩
        rw [List.singleton_append, kept, List.mapM_cons]
        exact bind_eq_error.mpr (Or.inl here)
      · rcases bind_eq_error.mp later with later | ⟨_, -, done⟩
        · obtain ⟨other, front, begins, ends, fails⟩ := ih later
          refine ⟨other, line :: front, (List.prefix_cons_inj line).mpr begins, ends.append [line], ?_⟩
          intro more
          rw [List.cons_append, kept, List.mapM_cons]
          exact bind_eq_error.mpr (Or.inr ⟨header, read, bind_eq_error.mpr (Or.inl (fails more))⟩)
        · cases done

theorem withSection_fails {payload : Payload} {kind : Section} {block : List Line}
    (failed : payload.withSection kind block = .error error) :
    error.fault ≠ .unclosedFence ∧ ∃ front, front <+: block ∧ error.EndsOn front ∧
      ∀ more, payload.withSection kind (front ++ more) = .error error := by
  cases kind with
  | headers =>
    rcases bind_eq_error.mp failed with here | ⟨headers, -, done⟩
    · obtain ⟨other, front, begins, ends, fails⟩ := headers_fail here
      exact ⟨other, front, begins, ends, fun more => bind_eq_error.mpr (Or.inl (fails more))⟩
    · cases done
  | body => cases failed
  | schema => cases failed

theorem preamble_append_marked {front : List Line} (more : List Line)
    (marked : ∃ line ∈ front, (PayloadItem.section? line.text).isSome = true) :
    preamble (front ++ more) = preamble front := by
  unfold preamble
  rw [List.takeWhile_append, if_neg]
  intro whole
  obtain ⟨line, member, marker⟩ := marked
  have same := (List.takeWhile_prefix _).eq_of_length whole
  rw [← same] at member
  have quiet := List.mem_takeWhile_imp member
  rw [Option.isNone_iff_eq_none] at quiet
  rw [quiet] at marker
  cases marker

theorem preamble_append_quiet {front rest : List Line} (more : List Line) (quiet : front <+: preamble rest) :
    preamble (front ++ more) = front ++ preamble more := by
  have unmarked : ∀ line ∈ preamble rest, (PayloadItem.section? line.text).isNone = true :=
    fun line member => List.mem_takeWhile_imp (p := fun line : Line => (PayloadItem.section? line.text).isNone) member
  exact List.takeWhile_append_of_pos fun line member => unmarked line (quiet.subset member)

/-- By induction on the block: a section fails within its own lines, whatever its later ones are. -/
theorem sections_fail {block : List Line} {payload : Payload}
    (failed : (sections block).foldlM (fun payload (kind, lines) => payload.withSection kind lines) payload =
      .error error) :
    error.fault ≠ .unclosedFence ∧ ∃ front, front <+: block ∧ error.EndsOn front ∧
      (∃ line ∈ front, (PayloadItem.section? line.text).isSome = true) ∧
      ∀ more, (sections (front ++ more)).foldlM
        (fun payload (kind, lines) => payload.withSection kind lines) payload = .error error := by
  induction block generalizing payload with
  | nil => cases failed
  | cons line rest ih =>
    cases marker : PayloadItem.section? line.text with
    | none =>
      have skipped (more : List Line) : sections (line :: more) = sections more := by
        rw [sections, marker]
      rw [skipped] at failed
      obtain ⟨other, front, begins, ends, ⟨first, member, marked⟩, fails⟩ := ih failed
      refine ⟨other, line :: front, (List.prefix_cons_inj line).mpr begins, ends.append [line],
        ⟨first, List.mem_cons_of_mem line member, marked⟩, ?_⟩
      intro more
      rw [List.cons_append, skipped]
      exact fails more
    | some kind =>
      have opened (more : List Line) :
          sections (line :: more) = (kind, preamble more) :: sections more := by
        rw [sections, marker]
      have marked (front : List Line) :
          ∃ first ∈ line :: front, (PayloadItem.section? first.text).isSome = true :=
        ⟨line, List.mem_cons_self, by rw [marker]; rfl⟩
      rw [opened, List.foldlM_cons] at failed
      rcases bind_eq_error.mp failed with here | ⟨grown, read, later⟩
      · obtain ⟨other, front, begins, ends, fails⟩ := withSection_fails here
        refine ⟨other, line :: front, ?_, ends.append [line], marked front, fun more => ?_⟩
        · exact (List.prefix_cons_inj line).mpr (begins.trans (List.takeWhile_prefix _))
        · rw [List.cons_append, opened, List.foldlM_cons, preamble_append_quiet more begins]
          exact bind_eq_error.mpr (Or.inl (fails _))
      · obtain ⟨other, front, begins, ends, inFront, fails⟩ := ih later
        refine ⟨other, line :: front, (List.prefix_cons_inj line).mpr begins, ends.append [line],
          marked front, fun more => ?_⟩
        obtain ⟨behind, whole⟩ := begins
        rw [← whole, preamble_append_marked behind inFront] at read
        rw [List.cons_append, opened, List.foldlM_cons, preamble_append_marked more inFront]
        exact bind_eq_error.mpr (Or.inr ⟨grown, read, fails more⟩)

theorem build_fails {item : PayloadItem} {first : Line} {content : List Line}
    (failed : build item first content = .error error) :
    error.fault ≠ .unclosedFence ∧ ∃ front, front <+: content ∧ error.EndsOn front ∧
      ∀ more, build item first (front ++ more) = .error error := by
  let dedented (line : Line) : Line := { line with text := Line.dedent (first.indent + 4) line.text }
  let bare : Payload := ⟨item.signature, item.mediaType, [], [], none, none, first.number⟩
  have same (content : List Line) : build item first content = .error error ↔
      (sections (content.map dedented)).foldlM (fun payload (kind, lines) => payload.withSection kind lines)
        bare = .error error := by
    unfold build
    simp only
    split
    · rename_i none
      rw [show sections (content.map dedented) = [] from none]
      constructor <;> intro failed <;> cases failed
    · rw [bind_eq_error]
      refine or_iff_left ?_
      rintro ⟨payload, -, done⟩
      cases done
  obtain ⟨other, inner, begins, ends, -, fails⟩ := sections_fail ((same content).mp failed)
  obtain ⟨front, inContent, rfl⟩ := List.prefix_map_iff.mp begins
  refine ⟨other, front, inContent, ?_, fun more => ?_⟩
  · obtain ⟨before, line, under, parts, short, here⟩ := ends
    obtain ⟨before, behind, rfl, -, parts⟩ := List.map_eq_append_iff.mp parts
    obtain ⟨line, under, rfl, rfl, rfl⟩ := List.map_eq_cons_iff.mp parts
    exact ⟨before, line, under, rfl, by simpa using short, here⟩
  · rw [same, List.map_append]
    exact fails _

/-- Where the content ends is seen at the first line behind it. -/
theorem content_local {item first : Line} {skipped tail : List Line}
    (length : (content item (skipped ++ first :: tail)).length = skipped.length) (more : List Line) :
    content item (skipped ++ first :: more) = skipped := by
  have begins : content item (skipped ++ first :: tail) <+: skipped ++ first :: tail :=
    List.takeWhile_prefix _
  have same : content item (skipped ++ first :: tail) = skipped := by
    rw [List.prefix_iff_eq_take.mp begins, length, List.take_left]
  have inside : ∀ line ∈ skipped, isContent item.indent line = true := by
    intro line member
    rw [← same] at member
    exact isContent_of_mem member
  have outside : isContent item.indent first ≠ true := by
    intro further
    rw [content, List.takeWhile_append_of_pos inside, List.takeWhile_cons_of_pos further] at length
    simp at length
  rw [content, List.takeWhile_append_of_pos inside, List.takeWhile_cons_of_neg outside, List.append_nil]

end Payload

namespace Reading

variable {state next : Reading} {line : Line} {rest : List Line} {error : GrammarError}

theorem enterHeading_eq_error {heading : Heading} {number : Nat}
    (failed : state.enterHeading heading number = .error error) :
    error.line = number ∧ error.fault ≠ .unclosedFence := by
  unfold enterHeading at failed
  split at failed
  · cases failed
  · split at failed
    · cases failed
    · obtain rfl := Except.error.inj failed
      exact ⟨rfl, fun same => nomatch same⟩
  · cases failed
  · cases failed
  · split at failed <;> cases failed

theorem ofRest_fault {kind : PayloadKind} {signature : Text} {fault : GrammarFault}
    (failed : PayloadItem.ofRest kind signature = .error fault) : fault ≠ .unclosedFence := by
  unfold PayloadItem.ofRest at failed
  rintro rfl
  split at failed
  · split at failed <;> cases failed
  · split at failed
    · cases failed
    · cases failed
    · split at failed <;> cases failed

theorem enterPayload_inside (inside : state.scope = .action) (kind : PayloadKind) (signature : Text)
    (line : Line) (content : List Line) : state.enterPayload kind signature line content =
      readPayload kind signature line content >>= fun payload => .ok (state.addPayload payload) := by
  unfold enterPayload readPayload
  cases PayloadItem.ofRest kind signature with
  | error fault => rfl
  | ok item => exact if_pos inside

theorem enterPayload_outside (outside : state.scope ≠ .action) {kind : PayloadKind} {signature : Text}
    {content : List Line} (failed : state.enterPayload kind signature line content = .error error) :
    error.line = line.number ∧ error.fault ≠ .unclosedFence ∧
      ∀ other, state.enterPayload kind signature line other = .error error := by
  unfold enterPayload at failed ⊢
  cases read : PayloadItem.ofRest kind signature with
  | error fault =>
    rw [read] at failed
    obtain rfl := Except.error.inj failed
    exact ⟨rfl, ofRest_fault read, fun other => rfl⟩
  | ok item =>
    simp only [read, outside, if_false] at failed ⊢
    obtain rfl := Except.error.inj failed
    refine ⟨rfl, ?_, fun other => rfl⟩
    cases kind <;> exact fun same => nomatch same

theorem readPayload_fails {kind : PayloadKind} {signature : Text} {content : List Line}
    (failed : readPayload kind signature line content = .error error) :
    error.fault ≠ .unclosedFence ∧ ∃ front, front <+: content ∧ error.EndsOn (line :: front) ∧
      ∀ more, readPayload kind signature line (front ++ more) = .error error := by
  unfold readPayload at failed ⊢
  cases read : PayloadItem.ofRest kind signature with
  | error fault =>
    rw [read] at failed
    obtain rfl := Except.error.inj failed
    exact ⟨ofRest_fault read, [], List.nil_prefix, ⟨[], line, [], rfl, Nat.zero_le _, rfl⟩, fun more => rfl⟩
  | ok item =>
    rw [read] at failed
    obtain ⟨other, front, begins, ends, fails⟩ := Payload.build_fails failed
    exact ⟨other, front, begins, ends.append [line], fails⟩

theorem enterPayload_fails {kind : PayloadKind} {signature : Text} {content : List Line}
    (failed : state.enterPayload kind signature line content = .error error) :
    error.fault ≠ .unclosedFence ∧ ∃ front, front <+: content ∧ error.EndsOn (line :: front) ∧
      ∀ more, state.enterPayload kind signature line (front ++ more) = .error error := by
  by_cases inside : state.scope = .action
  · simp only [enterPayload_inside inside] at failed ⊢
    rcases bind_eq_error.mp failed with read | ⟨payload, -, done⟩
    · obtain ⟨other, front, begins, ends, fails⟩ := readPayload_fails read
      exact ⟨other, front, begins, ends, fun more => bind_eq_error.mpr (Or.inl (fails more))⟩
    · cases done
  · obtain ⟨here, other, fails⟩ := enterPayload_outside inside failed
    exact ⟨other, [], List.nil_prefix, ⟨[], line, [], rfl, Nat.zero_le _, here⟩, fails⟩

theorem heading_fails {heading : Heading} (found : Heading.detect? line rest.head? = some heading)
    (failed : state.readStructure line rest = .error error) :
    error.fault ≠ .unclosedFence ∧ ∃ front, front <+: rest ∧ error.EndsOn (line :: front) ∧
      ∀ more, state.readStructure line (front ++ more) = .error error := by
  have entered : state.enterHeading heading line.number = .error error := by
    unfold readStructure at failed
    rw [found] at failed
    rcases bind_eq_error.mp failed with entered | ⟨next, -, done⟩
    · exact entered
    · cases done
  have again {lines : List Line} (found : Heading.detect? line lines.head? = some heading) :
      state.readStructure line lines = .error error := by
    rw [readStructure, found]
    exact bind_eq_error.mpr (Or.inl entered)
  obtain ⟨here, other⟩ := enterHeading_eq_error entered
  refine ⟨other, ?_⟩
  cases marked : Heading.marked? line with
  | some signed =>
    have always (next : Option Line) : Heading.detect? line next = some signed := by
      rw [Heading.detect?, marked]
      rfl
    have same : signed = heading := Option.some.inj ((always _).symm.trans found)
    exact ⟨[], List.nil_prefix, ⟨[], line, [], rfl, Nat.zero_le _, here⟩, fun more =>
      again ((always _).trans (congrArg some same))⟩
  | none =>
    have underlined := found
    rw [Heading.detect?, marked] at underlined
    obtain ⟨-, below, -, next, -⟩ := Heading.underlined_cases underlined
    obtain ⟨lower, rfl⟩ := List.head?_eq_some_iff.mp next
    exact ⟨[below], ⟨lower, rfl⟩, ⟨[], line, [below], rfl, Nat.le_refl _, here⟩, fun more => again found⟩

theorem readStructure_fails (failed : state.readStructure line rest = .error error) :
    error.fault ≠ .unclosedFence ∧ ∃ front, front <+: rest ∧ error.EndsOn (line :: front) ∧
      ∀ more, state.readStructure line (front ++ more) = .error error := by
  cases found : Heading.detect? line rest.head? with
  | some heading => exact heading_fails found failed
  | none =>
    cases keyword : PayloadItem.keyword? line.text with
    | none =>
      simp only [readStructure, found, keyword] at failed
      cases failed
    | some item =>
      have isItem : line.IsItem := by simp [Line.IsItem, keyword]
      have read (lines : List Line) : state.readStructure line lines =
          state.enterPayload item.1 item.2 line (Payload.content line lines) >>= fun next =>
            .ok (next, (Payload.content line lines).length) := by
        simp only [readStructure, isItem.no_heading, keyword]
        rfl
      rw [read] at failed
      rcases bind_eq_error.mp failed with entered | ⟨next, -, done⟩
      · obtain ⟨other, front, begins, ends, fails⟩ := enterPayload_fails entered
        refine ⟨other, front, begins.trans (List.takeWhile_prefix _), ends, fun more => ?_⟩
        have inside : ∀ below ∈ front, Payload.isContent line.indent below = true :=
          fun below member => Payload.isContent_of_mem (begins.subset member)
        have content : Payload.content line (front ++ more) = front ++ Payload.content line more :=
          List.takeWhile_append_of_pos inside
        rw [read, content]
        exact bind_eq_error.mpr (Or.inl (fails _))
      · cases done

/-- Which way a step goes is not up to the further lines, unless its line is read as part of the structure. -/
theorem step_way (state : Reading) (line : Line) :
    (∃ next, ∀ rest, state.step line rest = .ok (next, 0)) ∨
      ∃ late : Reading, ∀ rest, state.step line rest = late.readStructure line rest := by
  unfold step
  split
  · exact Or.inl ⟨_, fun rest => rfl⟩
  · split
    · split
      · exact Or.inl ⟨_, fun rest => rfl⟩
      · split
        · exact Or.inl ⟨_, fun rest => rfl⟩
        · exact Or.inr ⟨_, fun rest => rfl⟩
    · exact Or.inr ⟨_, fun rest => rfl⟩

theorem step_fails (failed : state.step line rest = .error error) :
    error.fault ≠ .unclosedFence ∧ ∃ front, front <+: rest ∧ error.EndsOn (line :: front) ∧
      ∀ more, state.step line (front ++ more) = .error error := by
  rcases step_way state line with ⟨next, taken⟩ | ⟨late, same⟩
  · rw [taken] at failed
    cases failed
  · simp only [same] at failed ⊢
    exact readStructure_fails failed

/-- A step looks at most one line past those that it takes. -/
theorem step_local {skipped tail : List Line} {first : Line}
    (stepped : state.step line (skipped ++ first :: tail) = .ok (next, skipped.length)) (more : List Line) :
    state.step line (skipped ++ first :: more) = .ok (next, skipped.length) := by
  rcases step_way state line with ⟨single, taken⟩ | ⟨late, same⟩
  · rw [taken] at stepped ⊢
    exact stepped
  · rw [same] at stepped ⊢
    have ahead : (skipped ++ first :: more).head? = (skipped ++ first :: tail).head? := by
      cases skipped <;> rfl
    unfold readStructure at stepped ⊢
    rw [ahead]
    cases found : Heading.detect? line (skipped ++ first :: tail).head? with
    | some heading =>
      rw [found] at stepped
      exact stepped
    | none =>
      cases keyword : PayloadItem.keyword? line.text with
      | none =>
        simp only [found, keyword] at stepped ⊢
        exact stepped
      | some item =>
        simp only [found, keyword] at stepped ⊢
        obtain ⟨reached, -, done⟩ := bind_eq_ok.mp stepped
        have content := Payload.content_local (Prod.mk.inj (pure_eq_ok.mp done)).2
        rw [content] at stepped ⊢
        exact stepped

theorem run_past {taken : Nat} (stepped : state.step line rest = .ok (next, taken)) {front : List Line}
    (begins : front <+: rest.drop taken) (some : front ≠ []) (more : List Line) :
    state.run (line :: (rest.take taken ++ front ++ more)) = next.run (front ++ more) := by
  obtain ⟨first, tail, rfl⟩ := List.exists_cons_of_ne_nil some
  obtain ⟨behind, ahead⟩ := begins
  have whole : rest = rest.take taken ++ first :: (tail ++ behind) := by
    rw [← List.cons_append, ahead, List.take_append_drop]
  have counted : (rest.take taken).length = taken := List.length_take_of_le (taken_le stepped)
  generalize rest.take taken = skipped at counted whole
  subst counted whole
  have same := step_local stepped (tail ++ more)
  rw [List.append_assoc, List.cons_append, run, same]
  exact congrArg next.run List.drop_left

/-- By induction on the number of lines: what stands behind a fault does not change it. -/
theorem run_fails {lines : List Line} (failed : state.run lines = .error error)
    (other : error.fault ≠ .unclosedFence) : ∃ front, front <+: lines ∧ error.EndsOn front ∧
      ∀ more, state.run (front ++ more) = .error error := by
  induction length : lines.length using Nat.strong_induction_on generalizing state lines with
  | _ count ih =>
    cases lines with
    | nil =>
      rw [run, finish] at failed
      split at failed
      · exact absurd rfl (Except.error.inj failed ▸ other)
      · cases failed
    | cons line rest =>
      rw [run] at failed
      rcases bind_eq_error.mp failed with here | ⟨⟨next, taken⟩, stepped, later⟩
      · obtain ⟨-, front, begins, ends, fails⟩ := step_fails here
        refine ⟨line :: front, (List.prefix_cons_inj line).mpr begins, ends, fun more => ?_⟩
        rw [List.cons_append, run]
        exact bind_eq_error.mpr (Or.inl (fails more))
      · have shorter : (rest.drop taken).length < count := by
          rw [← length, List.length_drop, List.length_cons]
          omega
        obtain ⟨front, begins, ends, fails⟩ := ih _ shorter later rfl
        refine ⟨line :: (rest.take taken ++ front), ?_, ends.append (line :: rest.take taken), fun more => ?_⟩
        · obtain ⟨behind, ahead⟩ := begins
          refine (List.prefix_cons_inj line).mpr ⟨behind, ?_⟩
          rw [List.append_assoc, ahead, List.take_append_drop]
        · have some : front ≠ [] := by
            obtain ⟨before, bad, under, rfl, -⟩ := ends
            simp
          exact (run_past stepped begins some more).trans (fails more)

theorem read_fails {source : Text} (failed : Blueprint.read source = .error error)
    (other : error.fault ≠ .unclosedFence) : ∃ front, front <+: splitLines source ∧ error.EndsOn front ∧
      ∀ source', front <+: splitLines source' → Blueprint.read source' = .error error := by
  obtain ⟨front, begins, ends, fails⟩ := run_fails failed other
  refine ⟨front, begins, ends, fun source' begins' => ?_⟩
  obtain ⟨more, whole⟩ := begins'
  rw [Blueprint.read, ← whole]
  exact fails more

/-- By induction on the number of lines: the fence that is open at the end was open before, or the reading
comes to its opening line. -/
theorem Reached.unclosed {source : Text} {lines : List Line} {log : List Entry}
    (reached : Reached source state lines log) (failed : state.run lines = .error error)
    (unclosed : error.fault = .unclosedFence) :
    (∃ fence, state.fence = some fence ∧ error.line = fence.openedAt ∧
      ∀ line ∈ lines, fence.closes line = false) ∨
    ∃ before line rest log fence, Reached source before (line :: rest) log ∧ before.fence = none ∧
      Fence.opening? line = some fence ∧ error.line = line.number ∧
      ∀ later ∈ rest, fence.closes later = false := by
  induction length : lines.length using Nat.strong_induction_on generalizing state lines log with
  | _ count ih =>
    cases lines with
    | nil =>
      rw [run, finish] at failed
      split at failed
      · rename_i fence opened
        obtain rfl := Except.error.inj failed
        exact Or.inl ⟨fence, opened, rfl, List.forall_mem_nil _⟩
      · cases failed
    | cons line rest =>
      rw [run] at failed
      rcases bind_eq_error.mp failed with here | ⟨⟨next, taken⟩, stepped, later⟩
      · exact absurd unclosed (step_fails here).1
      · have shorter : (rest.drop taken).length < count := by
          rw [← length, List.length_drop, List.length_cons]
          omega
        rcases ih _ shorter (reached.step stepped) later rfl with ⟨fence, opened, here, stays⟩ | inside
        · obtain ⟨fenced, single⟩ := step_cases stepped
          -- A step that reads structure leaves no fence open.
          have alone : taken = 0 := by
            refine single.resolve_right ?_
            rintro ⟨unfenced, read⟩
            have same := (readStructure_cases read).1
            rw [opened] at same
            cases same.trans unfenced
          rw [alone, List.drop_zero] at stays
          rcases Fence.advance_eq_some (fenced.symm.trans opened) with ⟨before, closes⟩ | ⟨before, opens⟩
          · exact Or.inl ⟨fence, before, here, List.forall_mem_cons.mpr ⟨closes, stays⟩⟩
          · exact Or.inr ⟨state, line, rest, log, fence, reached, before, opens,
              here.trans (Fence.openedAt_opening opens), stays⟩
        · exact Or.inr inside

end Reading

/-- An error is on a line of the source. Either it is a fence that the reading comes to at its opening line
and that no later line closes, or the lines down to the error, with the underline of a heading, decide it:
any source that begins with them, and so any that goes on behind a line feed, has the same error. -/
theorem Blueprint.read_error_final {source : Text} {error : GrammarError}
    (failed : Blueprint.read source = .error error) :
    IsLineNumber source error.line ∧
      if error.fault = .unclosedFence then
        ∃ state line rest log fence, Reading.Reached source state (line :: rest) log ∧
          state.fence = none ∧ Fence.opening? line = some fence ∧ error.line = line.number ∧
          ∀ later ∈ rest, fence.closes later = false
      else
        (∀ more, Blueprint.read (source ++ '\n' :: more) = .error error) ∧
          ∃ front, front <+: splitLines source ∧ front.length ≤ error.line + 1 ∧
            ∀ other, front <+: splitLines other → Blueprint.read other = .error error := by
  split
  · rename_i unclosed
    rcases Reading.Reached.start.unclosed failed unclosed with ⟨fence, none, -⟩ | opening
    · cases none
    · obtain ⟨state, line, rest, log, fence, reached, unfenced, opens, here, stays⟩ := opening
      refine ⟨?_, state, line, rest, log, fence, reached, unfenced, opens, here, stays⟩
      rw [here]
      exact isLineNumber_of_suffix reached.traces.suffix
  · rename_i other
    obtain ⟨front, begins, ends, fails⟩ := Reading.read_fails failed other
    obtain ⟨before, line, under, parts, short, here⟩ := ends
    obtain ⟨behind, whole⟩ := begins
    have split : before ++ line :: (under ++ behind) = splitLines source := by
      rw [← whole, parts, List.append_assoc, List.cons_append]
    refine ⟨?_, fun more => fails _ ?_, front, ⟨behind, whole⟩, ?_, fails⟩
    · rw [here]
      exact isLineNumber_of_suffix ⟨before, split⟩
    · rw [splitLines_append, ← whole, List.append_assoc]
      exact List.prefix_append _ _
    · rw [here, number_of_suffix split, parts, List.length_append, List.length_cons]
      omega

/-- The content of the payload, and the header section in it, may go on. -/
theorem Blueprint.read_error_final_lid :
    let source := "## Pot [/pot]\n### Pour [GET]\n+ Response 200\n    + Headers\n\n            Lid".toList
    let error : GrammarError := ⟨6, .headerLine "Lid".toList⟩
    Blueprint.read source = .error error ∧ IsLineNumber source error.line ∧
      ∀ more, Blueprint.read (source ++ '\n' :: more) = .error error := by
  intro source error
  have failed : Blueprint.read source = .error error := by decide +kernel
  obtain ⟨isLine, final⟩ := Blueprint.read_error_final failed
  rw [if_neg (fun same => nomatch same)] at final
  exact ⟨failed, isLine, final.1⟩

end ApiBlueprint

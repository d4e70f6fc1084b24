import ApiBlueprint.Proofs.Include.Stack

/-!
The expansion with one stack that all its calls work on: a call pushes a location before it expands the
document there, and pops it behind. It is the same expansion, and every call leaves the stack as it was.
-/

namespace ApiBlueprint

/-- A call of the expansion that is over, with the stack at its start and at its end. -/
structure ExpansionCall where
  source : IncludeSource
  entry : List Path
  exit : List Path
  deriving DecidableEq, Repr

/-- What the calls share: the stack, and the record of the calls that are over. -/
structure SharedStack where
  stack : List Path := []
  calls : List ExpansionCall := []
  deriving DecidableEq, Repr

namespace SharedStack

def push (location : Path) (shared : SharedStack) : SharedStack :=
  { shared with stack := shared.stack ++ [location] }

def pop (shared : SharedStack) : SharedStack := { shared with stack := shared.stack.dropLast }

def record (source : IncludeSource) (entry : List Path) (shared : SharedStack) : SharedStack :=
  { shared with calls := shared.calls ++ [⟨source, entry, shared.stack⟩] }

end SharedStack

namespace Transclusion

abbrev Sharing : Type := SharedStack → Except TransclusionFault Text × SharedStack

def assembleShared (replacement : Text → Text → Sharing) : List DocumentPiece → Sharing
  | [], shared => (.ok [], shared)
  | .literal c :: rest, shared =>
    let (behind, shared) := assembleShared replacement rest shared
    (behind.map fun text => c :: text, shared)
  | .directive link indent :: rest, shared =>
    match replacement link indent shared with
    | (.error fault, shared) => (.error fault, shared)
    | (.ok insert, shared) =>
      let (behind, shared) := assembleShared replacement rest shared
      (behind.map fun text => insert ++ text, shared)

/-- What a directive is replaced by. The depth is that of the stack, and the stack is popped before the
result of the nested expansion is looked at. -/
def includeShared (context : Context) (expandNested : IncludeSource → Sharing) (base : Option Path)
    (link indent : Text) : Sharing := fun shared =>
  if isRemote link then (.error (.remote link), shared)
  else if context.maxDepth ≤ shared.stack.length then (.error (.tooDeep context.maxDepth link), shared)
  else
    match load context shared.stack base link with
    | .error fault => (.error fault, shared)
    | .ok inclusion =>
      let (nested, after) := expandNested ⟨inclusion.location.parent?, inclusion.text⟩
        (shared.push inclusion.location)
      (nested.map (splice indent), after.pop)

/-- Expands a source on the shared stack. The fuel bounds how deep calls are nested; the test of the
depth ends an expansion before that, where it is larger than the greatest depth. -/
def expandShared (context : Context) : Nat → IncludeSource → Sharing
  | 0, _, shared => (.error .noOutput, shared)
  | fuel + 1, source, shared =>
    let (result, after) := assembleShared
      (includeShared context (expandShared context fuel) source.base)
      (Directive.pieces source.text) shared
    (result, after.record source shared.stack)

/-- On that stack, the computation has that result and leaves the stack as it was; the calls that it
makes have the property. -/
def Restores (sharing : Sharing) (stack : List Path) (result : Except TransclusionFault Text)
    (property : ExpansionCall → Prop) : Prop :=
  ∀ earlier, ∃ calls, sharing ⟨stack, earlier⟩ = (result, ⟨stack, earlier ++ calls⟩) ∧
    ∀ call ∈ calls, property call

section Restoring

variable {stack : List Path} {property : ExpansionCall → Prop}

theorem restores_result (result : Except TransclusionFault Text) :
    Restores (fun shared => (result, shared)) stack result property :=
  fun earlier => ⟨[], by rw [List.append_nil], by simp⟩

theorem assembleShared_restores {shared : Text → Text → Sharing}
    {replacement : Text → Text → Except TransclusionFault Text} {pieces : List DocumentPiece}
    (each : ∀ link indent, .directive link indent ∈ pieces →
      Restores (shared link indent) stack (replacement link indent) property) :
    Restores (assembleShared shared pieces) stack (assemble replacement pieces) property := by
  induction pieces with
  | nil => exact restores_result (.ok [])
  | cons piece pieces ih =>
    have later := ih fun link indent member => each link indent (List.mem_cons_of_mem piece member)
    intro earlier
    cases piece with
    | literal c =>
      obtain ⟨calls, run, held⟩ := later earlier
      refine ⟨calls, ?_, held⟩
      rw [assembleShared, run, assemble]
      cases assemble replacement pieces <;> rfl
    | directive link indent =>
      obtain ⟨first, begun, heldFirst⟩ := each link indent List.mem_cons_self earlier
      cases replaced : replacement link indent with
      | error fault =>
        refine ⟨first, ?_, heldFirst⟩
        rw [assembleShared, begun, replaced, assemble, replaced]
        rfl
      | ok insert =>
        obtain ⟨calls, run, held⟩ := later (earlier ++ first)
        refine ⟨first ++ calls, ?_, List.forall_mem_append.mpr ⟨heldFirst, held⟩⟩
        rw [assembleShared, begun, replaced, assemble, replaced]
        simp only [run, List.append_assoc]
        cases assemble replacement pieces <;> rfl

variable {table : IncludeTable} {maxDepth : Nat}

theorem includeShared_restores {room : Nat} {expandNested : IncludeSource → Sharing}
    {base : Option Path} {link indent : Text} (enough : stack.length + room = maxDepth)
    (below : ∀ less included, room = less + 1 → table.source? (locate link base) = some included →
      stack.any (locate link base).same = false →
        Restores (expandNested included) (stack ++ [locate link base])
          (expand ⟨table.loader, maxDepth⟩ less (stack ++ [locate link base]) included.base
            included.text) property) :
    Restores (includeShared ⟨table.loader, maxDepth⟩ expandNested base link indent) stack
      (replacement table maxDepth room stack base link indent) property := by
  intro earlier
  cases near : isRemote link with
  | true =>
    refine ⟨[], ?_, by simp⟩
    simp only [includeShared, replacement, near, if_true, List.append_nil]
  | false =>
    cases room with
    | zero =>
      refine ⟨[], ?_, by simp⟩
      have full : maxDepth ≤ stack.length := by omega
      simp only [includeShared, replacement, near, Bool.false_eq_true, if_false, full, if_true,
        List.append_nil]
    | succ less =>
      have free : ¬ maxDepth ≤ stack.length := by omega
      rw [replacement_near near]
      simp only [includeShared, near, Bool.false_eq_true, if_false, free, load_table]
      cases found : table.source? (locate link base) with
      | none => exact ⟨[], by rw [List.append_nil], by simp⟩
      | some included =>
        simp only
        cases back : stack.any (locate link base).same with
        | true => exact ⟨[], by simp, by simp⟩
        | false =>
          obtain ⟨calls, run, held⟩ := below less included rfl found back earlier
          refine ⟨calls, ?_, held⟩
          simp only [Bool.false_eq_true, if_false, SharedStack.push, ← (source_of_find found).2, run,
            SharedStack.pop, List.dropLast_concat]

/-- A call that leaves the stack as it was, on a chain of includes to its source that is not too long. -/
structure IsSound (table : IncludeTable) (maxDepth : Nat) (start : IncludeSource)
    (call : ExpansionCall) : Prop where
  restored : call.exit = call.entry
  arrives : table.Arrives start call.entry call.source
  short : call.entry.length ≤ maxDepth

/-- By induction on the room below the source. -/
theorem expandShared_restores {room : Nat} {start source : IncludeSource}
    (arrives : table.Arrives start stack source) (enough : stack.length + room = maxDepth) :
    Restores (expandShared ⟨table.loader, maxDepth⟩ (room + 1) source) stack
      (expand ⟨table.loader, maxDepth⟩ room stack source.base source.text)
      (IsSound table maxDepth start) := by
  induction room using Nat.strong_induction_on generalizing stack source with
  | _ room ih =>
    rw [expand_eq]
    have together : Restores (assembleShared (includeShared ⟨table.loader, maxDepth⟩
        (expandShared ⟨table.loader, maxDepth⟩ room) source.base) (Directive.pieces source.text)) stack
        (assemble (replacement table maxDepth room stack source.base) (Directive.pieces source.text))
        (IsSound table maxDepth start) := by
      refine assembleShared_restores fun link indent mentions => includeShared_restores enough ?_
      rintro less included rfl found free
      refine ih less (Nat.lt_succ_self less) (arrives.push mentions found free) ?_
      rw [List.length_append, List.length_singleton]
      omega
    intro earlier
    obtain ⟨calls, run, held⟩ := together earlier
    refine ⟨calls ++ [⟨source, stack, stack⟩], ?_, ?_⟩
    · rw [expandShared, run, ← List.append_assoc]
      rfl
    · have short : stack.length ≤ maxDepth := by omega
      rw [List.forall_mem_append, List.forall_mem_singleton]
      exact ⟨held, rfl, arrives, short⟩

end Restoring

/-- All calls of an expansion work on one stack, and each one leaves it as it was. On its entry the stack
is a chain of includes without repetition, no longer than the greatest depth. Where a circular include is
reported, its locations are a chain of includes of which only the last one stands there before. -/
theorem shared_stack_is_chain (table : IncludeTable) (maxDepth : Nat) (base : Option Path) (text : Text) :
    let context : Context := ⟨table.loader, maxDepth⟩
    let run := expandShared context (maxDepth + 1) ⟨base, text⟩ {}
    run.1 = expand context maxDepth [] base text ∧ run.2.stack = [] ∧
      (∀ call ∈ run.2.calls, IsSound table maxDepth ⟨base, text⟩ call) ∧
      ∀ chain, transclude table.loader maxDepth base text = .error (.circular chain) →
        ∃ stack last, chain = stack ++ [last] ∧ table.IsIncludeChain ⟨base, text⟩ chain ∧
          (stack.map Path.components).Nodup ∧ last ∈ stack := by
  intro context run
  have arrives := IncludeTable.Arrives.begin table ⟨base, text⟩
  have enough : ([] : List Path).length + maxDepth = maxDepth := Nat.zero_add maxDepth
  obtain ⟨calls, same, sound⟩ := expandShared_restores arrives enough []
  have outcome : run = (expand context maxDepth [] base text, ⟨[], calls⟩) := same
  rw [outcome]
  refine ⟨rfl, rfl, sound, fun chain failed => ?_⟩
  rcases blames_of_transclude failed with none | none | blames
  · cases none
  · cases none
  · cases blames with
    | circular here mentions near back =>
      exact ⟨_, _, rfl, here.chain_mention mentions, here.distinct, back⟩

/-- The document `c` is expanded first; of it nothing is left on the stack when `b` leads back to `a`. -/
theorem shared_stack_is_chain_cycle :
    let table : IncludeTable :=
      ⟨[(⟨"a".toList⟩, ":[](b)".toList), (⟨"b".toList⟩, ":[](./a)".toList), (⟨"c".toList⟩, ['x'])]⟩
    let start : IncludeSource := ⟨none, ":[](c):[](a)".toList⟩
    let call : ExpansionCall := ⟨⟨some ⟨[]⟩, ":[](./a)".toList⟩, [⟨"a".toList⟩, ⟨"b".toList⟩], [⟨"a".toList⟩, ⟨"b".toList⟩]⟩
    call ∈ (expandShared ⟨table.loader, 16⟩ 17 start {}).2.calls ∧ IsSound table 16 start call ∧
      transclude table.loader 16 none start.text = .error (.circular [⟨"a".toList⟩, ⟨"b".toList⟩, ⟨"a".toList⟩]) ∧
      ∃ stack last, [⟨"a".toList⟩, ⟨"b".toList⟩, ⟨"a".toList⟩] = stack ++ [last] ∧
        table.IsIncludeChain start [⟨"a".toList⟩, ⟨"b".toList⟩, ⟨"a".toList⟩] ∧
          (stack.map Path.components).Nodup ∧ last ∈ stack := by
  intro table start call
  have made : call ∈ (expandShared ⟨table.loader, 16⟩ 17 start {}).2.calls := by decide +kernel
  have failed : transclude table.loader 16 none start.text =
      .error (.circular [⟨"a".toList⟩, ⟨"b".toList⟩, ⟨"a".toList⟩]) := by decide +kernel
  obtain ⟨-, -, sound, reported⟩ := shared_stack_is_chain table 16 none start.text
  exact ⟨made, sound call made, failed, reported _ failed⟩

end Transclusion
end ApiBlueprint

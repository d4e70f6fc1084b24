import ApiBlueprint.Document.Batch
import Mathlib.Data.List.Nodup
import Mathlib.Data.List.Range

/-!
Batches whose members use their shared generator in any order, and whose outcomes come in in any
order. Only the order of the members that draw values shows in the artifacts.
-/

namespace ApiBlueprint.Batch

section Members

variable {Member : Type} (compile : Member → Generator → Except CompileError Artifact × Generator)

/-- A random generator stays one, and a member that does not draw neither moves nor notices it. -/
structure DrawsOnly (draws : Member → Bool) : Prop where
  random : ∀ member stream, ∃ after, (compile member (.random stream)).2 = .random after
  still : ∀ member, draws member = false → ∀ stream stream',
    compile member (.random stream) = ((compile member (.random stream')).1, .random stream)

end Members

def place? : Outcome → Option Nat
  | .ok (index, _) => some index
  | .error _ => none

theorem fill_error (slots : List (Option Artifact)) {error : CompileError} {outcomes : List Outcome}
    (fails : .error error ∈ outcomes) : (fill slots outcomes).toOption = none := by
  induction outcomes generalizing slots with
  | nil => cases fails
  | cons outcome rest ih =>
    cases outcome with
    | error => rfl
    | ok filled =>
      rcases List.mem_cons.mp fails with equal | later
      · cases equal
      · exact ih _ later

/-- By induction on the permutation; two slots that are swapped are different ones. -/
theorem fill_perm {outcomes outcomes' : List Outcome} (same : outcomes.Perm outcomes')
    (distinct : (outcomes.filterMap place?).Nodup) (slots : List (Option Artifact)) :
    (fill slots outcomes).toOption = (fill slots outcomes').toOption := by
  induction same generalizing slots with
  | nil => rfl
  | cons outcome _ ih =>
    cases outcome with
    | error => rfl
    | ok filled => exact ih (List.Nodup.of_cons distinct) _
  | swap second first rest =>
    cases first with
    | error =>
      cases second with
      | error => rfl
      | ok filled => exact (fill_error slots (List.mem_cons_of_mem _ List.mem_cons_self)).symm
    | ok filled =>
      cases second with
      | error => exact fill_error slots (List.mem_cons_of_mem _ List.mem_cons_self)
      | ok filled' =>
        have other : filled.1 ≠ filled'.1 := by
          intro equal
          simp [place?, equal] at distinct
        simp only [fill]
        rw [List.set_comm _ _ other]
  | trans left _ ih ih' =>
    exact (ih distinct slots).trans (ih' ((left.filterMap place?).nodup_iff.mp distinct) slots)

theorem joinInOrder_perm {outcomes outcomes' : List Outcome} (same : outcomes.Perm outcomes')
    (distinct : (outcomes.filterMap place?).Nodup) (total : Nat) :
    (joinInOrder total outcomes).toOption = (joinInOrder total outcomes').toOption := by
  have filled := fill_perm same distinct (List.replicate total none)
  unfold joinInOrder
  cases found : fill (List.replicate total none) outcomes with
  | error =>
    cases found' : fill (List.replicate total none) outcomes' with
    | error => rfl
    | ok slots => simp [found, found', Except.toOption] at filled
  | ok slots =>
    cases found' : fill (List.replicate total none) outcomes' with
    | error => simp [found, found', Except.toOption] at filled
    | ok slots' =>
      obtain rfl : slots = slots' := by simpa [found, found', Except.toOption] using filled
      rfl

section Schedules

variable {Member G : Type} {compile : Member → G → Except CompileError Artifact × G}

theorem places_run (order : List (Member × Nat)) (generator : G) :
    ((run compile order generator).1.filterMap place?).Sublist (order.map Prod.snd) := by
  induction order generalizing generator with
  | nil => exact List.Sublist.slnil
  | cons entry rest ih =>
    obtain ⟨member, index⟩ := entry
    have later := ih (compile member generator).2
    simp only [run, List.map_cons]
    cases (compile member generator).1 with
    | error error => exact later.cons index
    | ok artifact => exact later.cons_cons index

variable (compile) in
/-- One way to run a batch: the members in the order in which they use the generator, and their
outcomes in the order in which they come in. -/
structure Schedule (members : List Member) (generator : G) where
  order : List (Member × Nat)
  arrivals : List Outcome
  order_perm : order.Perm members.zipIdx
  arrivals_perm : arrivals.Perm (run compile order generator).1

namespace Schedule

variable {members : List Member} {generator : G}

def artifacts? (schedule : Schedule compile members generator) : Option (List Artifact) :=
  (joinInOrder members.length schedule.arrivals).toOption

/-- The members in the given order; the last to run comes in first. -/
def lastFirst (order : List (Member × Nat)) (complete : order.Perm members.zipIdx) :
    Schedule compile members generator where
  order := order
  arrivals := (run compile order generator).1.reverse
  order_perm := complete
  arrivals_perm := List.reverse_perm _

def secondFirst (members : List Member) (generator : G) :
    Schedule compile members generator :=
  lastFirst ((members.zipIdx.take 2).reverse ++ members.zipIdx.drop 2) (by
    simpa using (List.reverse_perm (members.zipIdx.take 2)).append_right (members.zipIdx.drop 2))

def inOrder (members : List Member) (generator : G) :
    Schedule compile members generator where
  order := members.zipIdx
  arrivals := (run compile members.zipIdx generator).1
  order_perm := List.Perm.refl _
  arrivals_perm := List.Perm.refl _

theorem artifacts_inOrder (members : List Member) (generator : G) :
    (inOrder members generator : Schedule compile members generator).artifacts? =
      (compileAll compile members generator).1.toOption :=
  rfl

def drawing (schedule : Schedule compile members generator) (draws : Member → Bool) :
    List (Member × Nat) :=
  schedule.order.filter fun entry => draws entry.1

theorem distinct (schedule : Schedule compile members generator) :
    (schedule.arrivals.filterMap place?).Nodup := by
  have places : (members.zipIdx.map Prod.snd).Nodup := by
    rw [List.zipIdx_map_snd]
    exact List.nodup_range'
  have ordered := (schedule.order_perm.map Prod.snd).nodup_iff.mpr places
  apply (schedule.arrivals_perm.filterMap place?).nodup_iff.mpr
  exact (places_run schedule.order generator).nodup ordered

end Schedule
end Schedules

section Random

variable {Member : Type} {compile : Member → Generator → Except CompileError Artifact × Generator}

/-- What a member comes to that does not depend on the generator. -/
def alone (compile : Member → Generator → Except CompileError Artifact × Generator)
    (generator : Generator) (entry : Member × Nat) : Outcome :=
  (compile entry.1 generator).1.map fun artifact => (entry.2, artifact)

variable {draws : Member → Bool}

/-- By induction on the order: the members that draw see the generator as if there were no others. -/
theorem run_perm (drawsOnly : DrawsOnly compile draws) (base : RandomStream)
    (order : List (Member × Nat)) (stream : RandomStream) :
    (run compile order (.random stream)).1.Perm
      ((run compile (order.filter fun entry => draws entry.1) (.random stream)).1 ++
        (order.filter fun entry => !draws entry.1).map (alone compile (.random base))) := by
  induction order generalizing stream with
  | nil => exact List.Perm.nil
  | cons entry rest ih =>
    obtain ⟨member, index⟩ := entry
    cases takes : draws member with
    | true =>
      obtain ⟨after, moved⟩ := drawsOnly.random member stream
      have first : draws (member, index).1 = true := takes
      simp only [List.filter_cons, first, run, moved, if_true, Bool.not_true, Bool.false_eq_true,
        if_false]
      exact (ih after).cons _
    | false =>
      have still := drawsOnly.still member takes stream base
      have first : draws (member, index).1 = false := takes
      simp only [List.filter_cons, first, run, if_true, Bool.not_false, Bool.false_eq_true, if_false]
      rw [still]
      exact ((ih stream).cons _).trans List.perm_middle.symm

namespace Schedule

variable {members : List Member}

theorem arrivals_perm_of_drawing (drawsOnly : DrawsOnly compile draws) {stream : RandomStream}
    (left right : Schedule compile members (.random stream))
    (drawing : left.drawing draws = right.drawing draws) : left.arrivals.Perm right.arrivals := by
  have still := (left.order_perm.trans right.order_perm.symm).filter fun entry => !draws entry.1
  let drawn (schedule : Schedule compile members (.random stream)) : List Outcome :=
    (run compile (schedule.drawing draws) (.random stream)).1
  let others (schedule : Schedule compile members (.random stream)) : List Outcome :=
    (schedule.order.filter fun entry => !draws entry.1).map (alone compile (.random stream))
  have apart (schedule : Schedule compile members (.random stream)) :
      schedule.arrivals.Perm (drawn schedule ++ others schedule) :=
    schedule.arrivals_perm.trans (run_perm drawsOnly stream schedule.order stream)
  have same : drawn left = drawn right := by
    simp only [drawn, drawing]
  calc
    List.Perm left.arrivals (drawn left ++ others left) := apart left
    List.Perm _ (drawn right ++ others left) := by rw [same]
    List.Perm _ (drawn right ++ others right) := (still.map _).append_left _
    List.Perm _ right.arrivals := (apart right).symm

theorem artifacts_eq_of_drawing (drawsOnly : DrawsOnly compile draws) {stream : RandomStream}
    (left right : Schedule compile members (.random stream))
    (drawing : left.drawing draws = right.drawing draws) : left.artifacts? = right.artifacts? :=
  joinInOrder_perm (arrivals_perm_of_drawing drawsOnly left right drawing) left.distinct _

/-- Members of which none draws come to the same with any two random generators. -/
theorem artifacts_eq_of_still (drawsOnly : DrawsOnly compile draws)
    (still : ∀ member ∈ members, draws member = false) {stream stream' : RandomStream}
    (left : Schedule compile members (.random stream))
    (right : Schedule compile members (.random stream')) : left.artifacts? = right.artifacts? := by
  -- No member is left among those that draw, so all outcomes are those of members run alone.
  have alike {base : RandomStream} (schedule : Schedule compile members (.random base)) :
      schedule.arrivals.Perm (schedule.order.map (alone compile (.random stream))) := by
    have quiet : ∀ entry ∈ schedule.order, draws entry.1 = false := by
      intro entry member
      have placed := List.mem_zipIdx_iff_getElem?.mp (schedule.order_perm.mem_iff.mp member)
      exact still _ (List.mem_of_getElem? placed)
    have none : schedule.order.filter (fun entry => draws entry.1) = [] := by
      simpa [List.filter_eq_nil_iff] using quiet
    have all : schedule.order.filter (fun entry => !draws entry.1) = schedule.order := by
      simpa [List.filter_eq_self] using quiet
    have apart := run_perm drawsOnly stream schedule.order base
    rw [none, all] at apart
    exact schedule.arrivals_perm.trans apart
  have orders := (left.order_perm.trans right.order_perm.symm).map (alone compile (.random stream))
  exact joinInOrder_perm ((alike left).trans (orders.trans (alike right).symm)) left.distinct _

end Schedule
end Random
end ApiBlueprint.Batch

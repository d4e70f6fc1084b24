import ApiBlueprint.Proofs.Include.Stack

/-!
The greatest depth of an expansion. A run with a smaller one is cut off, or it is the run with a larger
one; a depth that is larger than the number of documents in the table cuts off no run.
-/

namespace ApiBlueprint

open Relation Transclusion

/-- The outcome under a greatest depth: the error that it is exceeded, or the other outcome. -/
def CutOff {α : Type} (limit : Nat) (outcome other : Except TransclusionFault α) : Prop :=
  (∃ link, outcome = .error (.tooDeep limit link)) ∨ outcome = other

namespace CutOff

variable {α β : Type} {limit : Nat}

theorem same (outcome : Except TransclusionFault α) : CutOff limit outcome outcome := Or.inr rfl

theorem bind {first other : Except TransclusionFault α} {next further : α → Except TransclusionFault β}
    (begun : CutOff limit first other) (goesOn : ∀ value, CutOff limit (next value) (further value)) :
    CutOff limit (first >>= next) (other >>= further) := by
  rcases begun with ⟨link, rfl⟩ | rfl
  · exact Or.inl ⟨link, rfl⟩
  · cases first with
    | error fault => exact same _
    | ok value => exact goesOn value

theorem assemble {replacement other : Text → Text → Except TransclusionFault Text}
    (each : ∀ link indent, CutOff limit (replacement link indent) (other link indent))
    (pieces : List DocumentPiece) :
    CutOff limit (Transclusion.assemble replacement pieces) (Transclusion.assemble other pieces) := by
  induction pieces with
  | nil => exact same _
  | cons piece pieces ih =>
    cases piece with
    | literal c => exact ih.bind fun _ => same _
    | directive link indent => exact (each link indent).bind fun _ => ih.bind fun _ => same _

variable {loader : Loader}

/-- By induction on the room of the run that may be cut off. -/
theorem expand {further room more : Nat} {stack : List Path} {base : Option Path} {text : Text}
    (within : room ≤ more) :
    CutOff limit (Transclusion.expand ⟨loader, limit⟩ room stack base text)
      (Transclusion.expand ⟨loader, further⟩ more stack base text) := by
  induction room generalizing more stack base text with
  | zero =>
    cases more <;>
    · refine assemble (fun link indent => ?_) _
      split
      · exact same _
      · exact Or.inl ⟨link, rfl⟩
  | succ room ih =>
    cases more with
    | zero => exact absurd within (Nat.not_succ_le_zero room)
    | succ more =>
      refine assemble (fun link indent => ?_) _
      split
      · exact same _
      · exact (same _).bind fun inclusion => (ih (Nat.le_of_succ_le_succ within)).bind fun _ => same _

theorem transclude {further : Nat} {base : Option Path} {text : Text} (within : limit ≤ further) :
    CutOff limit (transclude loader limit base text) (transclude loader further base text) := by
  have nested : CutOff limit (Transclusion.expand ⟨loader, limit⟩ limit [] base text)
      (Transclusion.expand ⟨loader, further⟩ further [] base text) := expand within
  unfold ApiBlueprint.transclude
  split
  · exact same _
  · rcases nested with ⟨link, cut⟩ | equal
    · exact Or.inl ⟨link, by rw [cut]⟩
    · exact Or.inr (by rw [equal])

end CutOff

namespace IncludeTable

variable {table : IncludeTable} {start : IncludeSource} {limit : Nat}

/-- The locations on the stack are different locations of the table. -/
theorem Arrives.length_le {source : IncludeSource} {stack : List Path}
    (arrives : table.Arrives start stack source) : stack.length ≤ table.entries.length := by
  have inside : stack ⊆ table.entries.map Prod.fst := by
    intro location member
    obtain ⟨included, found⟩ := arrives.registered location member
    obtain ⟨entry, here, -⟩ := Option.map_eq_some_iff.mp (source_of_find found).1
    obtain rfl : entry.1 = location := by simpa using List.find?_some here
    exact List.mem_map_of_mem (List.mem_of_find?_eq_some here)
  have shorter := arrives.distinct.of_map.length_le_of_subset inside
  rwa [List.length_map] at shorter

inductive IsBroken (table : IncludeTable) (source : IncludeSource) : TransclusionFault → Prop where
  | remote {link indent} (mentions : source.Mentions link indent) (far : isRemote link = true) :
      IsBroken table source (.remote link)
  | missing {link indent reason} (mentions : source.Mentions link indent)
      (missing : table.source? (locate link source.base) = none) :
      IsBroken table source (.notLoaded link reason)

end IncludeTable

namespace Transclusion

variable {table : IncludeTable} {start : IncludeSource} {limit : Nat}

theorem not_blames_tooDeep (large : table.entries.length < limit) (depth : Nat) (link : Text) :
    ¬ Blames table limit start (.tooDeep depth link) := by
  intro blames
  cases blames with
  | tooDeep arrives mentions near full =>
    have short := arrives.length_le
    omega

theorem transclude_not_tooDeep (large : table.entries.length < limit) (base : Option Path) (text : Text)
    (depth : Nat) (link : Text) :
    transclude table.loader limit base text ≠ .error (.tooDeep depth link) := by
  intro failed
  rcases blames_of_transclude failed with none | none | blames
  · cases none
  · cases none
  · exact not_blames_tooDeep large depth link blames

/-- A reachable cycle makes the run fail: in a circular include, or at a broken document before it. -/
theorem transclude_of_cycle (large : table.entries.length < limit) {base : Option Path} {text : Text}
    {location : Path} (reaches : table.Reaches ⟨base, text⟩ location)
    (cycle : TransGen table.Includes location location) :
    ∃ fault, transclude table.loader limit base text = .error fault ∧
      ((∃ chain, fault = .circular chain) ∨
        ∃ visited, table.Visits ⟨base, text⟩ visited ∧ table.IsBroken visited fault) := by
  have nonempty : text ≠ [] := by
    rintro rfl
    obtain ⟨first, ⟨link, indent, mentions, -⟩, -⟩ := reaches
    simp [IncludeSource.Mentions, Directive.pieces, Directive.piecesFrom] at mentions
  cases outcome : expand ⟨table.loader, limit⟩ limit [] base text with
  | ok out =>
    have includable : table.Includable limit ⟨base, text⟩ := includable_of_expand outcome
    exact absurd cycle (includable.acyclic location reaches)
  | error fault =>
    refine ⟨fault, transclude_eq_error_iff.mpr (Or.inr ⟨nonempty, Or.inl outcome⟩), ?_⟩
    cases blames_of_start outcome with
    | remote arrives mentions far => exact Or.inr ⟨_, arrives.visits, .remote mentions far⟩
    | tooDeep arrives mentions near full =>
      exact absurd (.tooDeep arrives mentions near full) (not_blames_tooDeep large limit _)
    | missing arrives mentions near missing => exact Or.inr ⟨_, arrives.visits, .missing mentions missing⟩
    | circular arrives mentions near back => exact Or.inl ⟨_, rfl⟩

/-- With a smaller greatest depth a run is cut off or the same. With one that is larger than the number
of documents in the table it is not cut off, so a larger one changes nothing; a cycle that it reaches is
reported as a circular include, where no directive before it leads nowhere. -/
theorem depth_only_cuts_off (base : Option Path) (text : Text) :
    (∀ (loader : Loader) (limit further : Nat), limit ≤ further →
      CutOff limit (transclude loader limit base text) (transclude loader further base text)) ∧
    ∀ (table : IncludeTable) (limit : Nat), table.entries.length < limit →
      (∀ depth link, transclude table.loader limit base text ≠ .error (.tooDeep depth link)) ∧
      (∀ further, limit ≤ further →
        transclude table.loader limit base text = transclude table.loader further base text) ∧
      ∀ location, table.Reaches ⟨base, text⟩ location → TransGen table.Includes location location →
        ∃ fault, transclude table.loader limit base text = .error fault ∧
          ((∃ chain, fault = .circular chain) ∨
            ∃ visited, table.Visits ⟨base, text⟩ visited ∧ table.IsBroken visited fault) := by
  refine ⟨fun loader limit further within => CutOff.transclude within, fun table limit large => ?_⟩
  have free := transclude_not_tooDeep large base text
  refine ⟨free, fun further within => ?_, fun location => transclude_of_cycle large⟩
  rcases CutOff.transclude within with ⟨link, cut⟩ | same
  · exact absurd cut (free limit link)
  · exact same

/-- Two documents that include each other: at a depth of two the run ends before the first one is met
again. -/
theorem depth_only_cuts_off_pair :
    let table : IncludeTable := ⟨[(⟨"a".toList⟩, ":[](b)".toList), (⟨"b".toList⟩, ":[](./a)".toList)]⟩
    let start : IncludeSource := ⟨none, ":[](a)".toList⟩
    let fault : TransclusionFault := .circular [⟨"a".toList⟩, ⟨"b".toList⟩, ⟨"a".toList⟩]
    transclude table.loader 2 none start.text = .error (.tooDeep 2 "./a".toList) ∧
      transclude table.loader 3 none start.text = .error fault ∧
      CutOff 2 (transclude table.loader 2 none start.text) (transclude table.loader 3 none start.text) ∧
      (∀ further, 3 ≤ further → transclude table.loader further none start.text = .error fault) ∧
      table.Reaches start ⟨"a".toList⟩ ∧ TransGen table.Includes ⟨"a".toList⟩ ⟨"a".toList⟩ ∧
      ∃ other, transclude table.loader 3 none start.text = .error other ∧
        ((∃ chain, other = .circular chain) ∨
          ∃ visited, table.Visits start visited ∧ table.IsBroken visited other) := by
  intro table start fault
  obtain ⟨cuts, large⟩ := depth_only_cuts_off none start.text
  obtain ⟨-, stable, cyclic⟩ := large table 3 (by decide)
  have failed : transclude table.loader 3 none start.text = .error fault := by decide +kernel
  have reaches : table.Reaches start ⟨"a".toList⟩ :=
    ⟨_, ⟨['a'], [], by decide +kernel, rfl⟩, .refl⟩
  have there : table.Includes ⟨"a".toList⟩ ⟨"b".toList⟩ :=
    ⟨_, rfl, ['b'], [], by decide +kernel, by decide +kernel⟩
  have back : table.Includes ⟨"b".toList⟩ ⟨"a".toList⟩ :=
    ⟨_, rfl, "./a".toList, [], by decide +kernel, by decide +kernel⟩
  have cycle : TransGen table.Includes ⟨"a".toList⟩ ⟨"a".toList⟩ := .tail (.single there) back
  exact ⟨by decide +kernel, failed, cuts table.loader 2 3 (by decide),
    fun further within => (stable further within).symm.trans failed, reaches, cycle,
    cyclic _ reaches cycle⟩

end Transclusion
end ApiBlueprint

import ApiBlueprint.Proofs.Include.Success
import Mathlib.Data.List.Nodup

/-!
The stack of an expansion: a chain of includes without repetition, from the text to the document under
expansion. An expansion that fails fails at a directive that it comes to with such a stack.
-/

namespace ApiBlueprint

open Relation Transclusion

namespace IncludeTable

variable {table : IncludeTable}

/-- An expansion from `start` has come to `source` over the locations on the stack. -/
structure Arrives (table : IncludeTable) (start : IncludeSource) (stack : List Path)
    (source : IncludeSource) : Prop where
  chain : table.IsIncludeChain start stack
  distinct : (stack.map Path.components).Nodup
  registered : ∀ location ∈ stack, ∃ included, table.source? location = some included
  top : (stack = [] ∧ source = start) ∨
    ∃ last, stack.getLast? = some last ∧ table.source? last = some source

theorem normalized_of_reaches {source : IncludeSource} {location : Path}
    (reaches : table.Reaches source location) : ∃ path, Path.normalize path = location := by
  have normalized {source : IncludeSource} {location : Path} (leads : source.LeadsTo location) :
      ∃ path, Path.normalize path = location := by
    obtain ⟨link, indent, -, rfl⟩ := leads
    exact normalize_locate link source.base
  obtain ⟨first, leads, path⟩ := reaches
  rcases ReflTransGen.cases_tail path with rfl | ⟨parent, -, includer, -, includes⟩
  · exact normalized leads
  · exact normalized includes

namespace Arrives

variable {start source included : IncludeSource} {stack : List Path} {link indent : Text}

theorem begin (table : IncludeTable) (start : IncludeSource) : table.Arrives start [] start where
  chain := ⟨by simp, List.isChain_nil⟩
  distinct := List.nodup_nil
  registered := by simp
  top := Or.inl ⟨rfl, rfl⟩

/-- A directive of the source leads one step further, also where its location is on the stack. -/
theorem chain_mention (arrives : table.Arrives start stack source) (mentions : source.Mentions link indent) :
    table.IsIncludeChain start (stack ++ [locate link source.base]) := by
  refine chain_concat arrives.chain ?_
  have leads : source.LeadsTo (locate link source.base) := ⟨link, indent, mentions, rfl⟩
  rcases arrives.top with ⟨empty, rfl⟩ | ⟨last, ends, found⟩
  · exact Or.inl ⟨empty, leads⟩
  · exact Or.inr ⟨last, ends, source, found, leads⟩

theorem push (arrives : table.Arrives start stack source) (mentions : source.Mentions link indent)
    (found : table.source? (locate link source.base) = some included)
    (free : stack.any (locate link source.base).same = false) :
    table.Arrives start (stack ++ [locate link source.base]) included where
  chain := arrives.chain_mention mentions
  distinct := by
    rw [List.map_append, List.map_singleton, List.nodup_append]
    refine ⟨arrives.distinct, List.nodup_singleton _, ?_⟩
    intro components inside other single same
    obtain ⟨location, member, rfl⟩ := List.mem_map.mp inside
    obtain rfl := List.mem_singleton.mp single
    exact List.any_eq_false.mp free location member (decide_eq_true same.symm)
  registered := by
    rw [List.forall_mem_append, List.forall_mem_singleton]
    exact ⟨arrives.registered, included, found⟩
  top := Or.inr ⟨_, List.getLast?_concat, found⟩

theorem mem_of_same (arrives : table.Arrives start stack source)
    (back : stack.any (locate link source.base).same = true) : locate link source.base ∈ stack :=
  mem_of_any_same
    (fun location member => normalized_of_reaches (reaches_of_chain arrives.chain location member)) back

theorem visits (arrives : table.Arrives start stack source) : table.Visits start source := by
  rcases arrives.top with ⟨-, rfl⟩ | ⟨last, ends, found⟩
  · exact Or.inl rfl
  · exact Or.inr ⟨last, reaches_of_chain arrives.chain last (List.mem_of_getLast? ends), found⟩

end Arrives
end IncludeTable

namespace Transclusion

open IncludeTable

variable {table : IncludeTable} {maxDepth : Nat}

theorem mention_of_assemble_error {replacement : Text → Text → Except TransclusionFault Text}
    {pieces : List DocumentPiece} {fault : TransclusionFault}
    (failed : assemble replacement pieces = .error fault) :
    ∃ link indent, .directive link indent ∈ pieces ∧ replacement link indent = .error fault := by
  induction pieces with
  | nil => cases failed
  | cons piece pieces ih =>
    cases piece with
    | literal c =>
      rcases bind_eq_error.mp failed with failed | ⟨_, -, done⟩
      · obtain ⟨link, indent, member, here⟩ := ih failed
        exact ⟨link, indent, List.mem_cons_of_mem _ member, here⟩
      · cases done
    | directive link indent =>
      rcases bind_eq_error.mp failed with here | ⟨text, -, failed⟩
      · exact ⟨link, indent, List.mem_cons_self, here⟩
      · rcases bind_eq_error.mp failed with failed | ⟨_, -, done⟩
        · obtain ⟨other, space, member, here⟩ := ih failed
          exact ⟨other, space, List.mem_cons_of_mem _ member, here⟩
        · cases done

/-- Why an expansion from `start` fails: a directive of a document that it has come to. -/
inductive Blames (table : IncludeTable) (maxDepth : Nat) (start : IncludeSource) :
    TransclusionFault → Prop where
  | remote {stack source link indent} (arrives : table.Arrives start stack source)
      (mentions : source.Mentions link indent) (far : isRemote link = true) :
      Blames table maxDepth start (.remote link)
  | tooDeep {stack source link indent} (arrives : table.Arrives start stack source)
      (mentions : source.Mentions link indent) (near : isRemote link = false)
      (full : stack.length = maxDepth) : Blames table maxDepth start (.tooDeep maxDepth link)
  | missing {stack source link indent reason} (arrives : table.Arrives start stack source)
      (mentions : source.Mentions link indent) (near : isRemote link = false)
      (missing : table.source? (locate link source.base) = none) :
      Blames table maxDepth start (.notLoaded link reason)
  | circular {stack source link indent} (arrives : table.Arrives start stack source)
      (mentions : source.Mentions link indent) (near : isRemote link = false)
      (back : locate link source.base ∈ stack) :
      Blames table maxDepth start (.circular (stack ++ [locate link source.base]))

/-- By induction on the room below the document. -/
theorem blames_of_expand {room : Nat} {start source : IncludeSource} {stack : List Path}
    {fault : TransclusionFault} (arrives : table.Arrives start stack source)
    (enough : stack.length + room = maxDepth)
    (failed : expand ⟨table.loader, maxDepth⟩ room stack source.base source.text = .error fault) :
    Blames table maxDepth start fault := by
  induction room using Nat.strong_induction_on generalizing stack source with
  | _ room ih =>
    rw [expand_eq] at failed
    obtain ⟨link, indent, mentions, replaced⟩ := mention_of_assemble_error failed
    cases near : isRemote link with
    | true =>
      simp only [replacement, near, if_true] at replaced
      cases replaced
      exact .remote arrives mentions near
    | false =>
      cases room with
      | zero =>
        simp only [replacement, near, Bool.false_eq_true, if_false] at replaced
        cases replaced
        exact .tooDeep arrives mentions near enough
      | succ less =>
        rw [replacement_near near] at replaced
        cases found : table.source? (locate link source.base) with
        | none =>
          rw [found] at replaced
          cases replaced
          exact .missing arrives mentions near found
        | some included =>
          simp only [found] at replaced
          split at replaced
          · rename_i back
            cases replaced
            exact .circular arrives mentions near (arrives.mem_of_same back)
          · rename_i free
            have pushed := arrives.push mentions found (by simpa using free)
            have deeper : (stack ++ [locate link source.base]).length + less = maxDepth := by
              rw [List.length_append, List.length_singleton]
              omega
            exact ih less (Nat.lt_succ_self less) pushed deeper (map_eq_error.mp replaced)

theorem blames_of_start {base : Option Path} {text : Text} {fault : TransclusionFault}
    (failed : expand ⟨table.loader, maxDepth⟩ maxDepth [] base text = .error fault) :
    Blames table maxDepth ⟨base, text⟩ fault :=
  blames_of_expand (.begin table ⟨base, text⟩) (Nat.zero_add maxDepth) failed

theorem blames_of_transclude {base : Option Path} {text : Text} {fault : TransclusionFault}
    (failed : transclude table.loader maxDepth base text = .error fault) :
    fault = .noText ∨ fault = .noOutput ∨ Blames table maxDepth ⟨base, text⟩ fault := by
  rcases transclude_eq_error_iff.mp failed with ⟨-, rfl⟩ | ⟨-, failed | ⟨-, rfl⟩⟩
  · exact Or.inl rfl
  · exact Or.inr (Or.inr (blames_of_start failed))
  · exact Or.inr (Or.inl rfl)

end Transclusion
end ApiBlueprint

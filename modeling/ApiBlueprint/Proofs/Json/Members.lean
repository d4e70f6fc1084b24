import ApiBlueprint.Json.Basic
import Mathlib.Data.Char

/-!
The members of an object in the order of their keys. Sorting gives that order, and leaves members
that are in it as they are.
-/

namespace ApiBlueprint
namespace Json

theorem keyLess_irrefl (key : Text) : keyLess key key = false := by
  induction key with
  | nil => rfl
  | cons c rest ih => simp [keyLess, ih]

theorem keyLess_trans {first second third : Text} (before : keyLess first second = true)
    (behind : keyLess second third = true) : keyLess first third = true := by
  induction first generalizing second third with
  | nil =>
    cases third with
    | nil => cases second <;> simp [keyLess] at behind
    | cons e more => rfl
  | cons c rest ih =>
    cases second with
    | nil => simp [keyLess] at before
    | cons d other =>
      cases third with
      | nil => simp [keyLess] at behind
      | cons e more =>
        simp only [keyLess, Bool.or_eq_true, Bool.and_eq_true, decide_eq_true_eq] at before behind ⊢
        rcases before with less | ⟨rfl, less⟩
        · rcases behind with more | ⟨rfl, -⟩
          · exact Or.inl (lt_trans less more)
          · exact Or.inl less
        · rcases behind with more | ⟨rfl, more⟩
          · exact Or.inl more
          · exact Or.inr ⟨rfl, ih less more⟩

theorem keyLess_total {left right : Text} (different : left ≠ right) (other : keyLess left right = false) :
    keyLess right left = true := by
  induction left generalizing right with
  | nil =>
    cases right with
    | nil => exact absurd rfl different
    | cons d rest => simp [keyLess] at other
  | cons c rest ih =>
    cases right with
    | nil => rfl
    | cons d more =>
      simp only [keyLess, Bool.or_eq_false_iff, Bool.and_eq_false_imp, decide_eq_false_iff_not,
        decide_eq_true_eq, not_lt] at other
      simp only [keyLess, Bool.or_eq_true, Bool.and_eq_true, decide_eq_true_eq]
      rcases lt_or_eq_of_le other.1 with less | rfl
      · exact Or.inl less
      · exact Or.inr ⟨rfl, ih (by simpa using different) (other.2 rfl)⟩

def IsSorted (members : List (Text × Json)) : Prop :=
  members.Pairwise fun left right => keyLess left.1 right.1 = true

theorem mem_insertMember {key : Text} {value : Json} {members : List (Text × Json)}
    {member : Text × Json} (inside : member ∈ insertMember key value members) :
    member = (key, value) ∨ member ∈ members := by
  induction members with
  | nil => exact Or.inl (List.mem_singleton.mp inside)
  | cons held rest ih =>
    simp only [insertMember] at inside
    split at inside
    · rcases List.mem_cons.mp inside with same | later
      · exact Or.inl same
      · exact Or.inr (List.mem_cons_of_mem held later)
    · split at inside
      · exact List.mem_cons.mp inside
      · rcases List.mem_cons.mp inside with same | later
        · exact Or.inr (same ▸ List.mem_cons_self)
        · exact (ih later).imp_right (List.mem_cons_of_mem held)

theorem IsSorted.insertMember {members : List (Text × Json)} (sorted : IsSorted members) (key : Text)
    (value : Json) : IsSorted (insertMember key value members) := by
  induction members with
  | nil => exact List.pairwise_singleton _ _
  | cons held rest ih =>
    obtain ⟨other, old⟩ := held
    obtain ⟨first, more⟩ := List.pairwise_cons.mp sorted
    simp only [Json.insertMember]
    split
    · rename_i same
      subst same
      exact List.pairwise_cons.mpr ⟨first, more⟩
    · rename_i different
      split
      · rename_i less
        refine List.pairwise_cons.mpr ⟨?_, sorted⟩
        intro member inside
        rcases List.mem_cons.mp inside with rfl | later
        · exact less
        · exact keyLess_trans less (first member later)
      · rename_i notLess
        refine List.pairwise_cons.mpr ⟨?_, ih more⟩
        intro member inside
        rcases mem_insertMember inside with rfl | later
        · exact keyLess_total different (by simpa using notLess)
        · exact first member later

theorem insertMember_last {key : Text} {value : Json} {members : List (Text × Json)}
    (greatest : ∀ member ∈ members, keyLess member.1 key = true) :
    insertMember key value members = members ++ [(key, value)] := by
  induction members with
  | nil => rfl
  | cons held rest ih =>
    obtain ⟨other, old⟩ := held
    have less : keyLess other key = true := greatest _ List.mem_cons_self
    have different : key ≠ other := by
      rintro rfl
      rw [keyLess_irrefl] at less
      cases less
    have notLess : ¬ keyLess key other = true := by
      intro more
      have around := keyLess_trans less more
      rw [keyLess_irrefl] at around
      cases around
    simp only [insertMember, if_neg different, if_neg notLess, List.cons_append]
    rw [ih fun member inside => greatest member (List.mem_cons_of_mem _ inside)]

section Sorting

variable (members sorted : List (Text × Json))

theorem foldl_isSorted (start : IsSorted sorted) :
    IsSorted (members.foldl (fun sorted (key, value) => insertMember key value sorted) sorted) := by
  induction members generalizing sorted with
  | nil => exact start
  | cons member rest ih => exact ih _ (start.insertMember member.1 member.2)

theorem mem_foldl {member : Text × Json}
    (inside : member ∈ members.foldl (fun sorted (key, value) => insertMember key value sorted) sorted) :
    member ∈ sorted ∨ member ∈ members := by
  induction members generalizing sorted with
  | nil => exact Or.inl inside
  | cons first rest ih =>
    rcases ih _ inside with earlier | later
    · rcases mem_insertMember earlier with same | before
      · exact Or.inr (same ▸ List.mem_cons_self)
      · exact Or.inl before
    · exact Or.inr (List.mem_cons_of_mem first later)

theorem foldl_of_isSorted (all : IsSorted (sorted ++ members)) :
    members.foldl (fun sorted (key, value) => insertMember key value sorted) sorted =
      sorted ++ members := by
  induction members generalizing sorted with
  | nil => simp
  | cons first rest ih =>
    obtain ⟨key, value⟩ := first
    have greatest : ∀ member ∈ sorted, keyLess member.1 key = true := fun member inside =>
      (List.pairwise_append.mp all).2.2 member inside (key, value) List.mem_cons_self
    have last := ih (sorted ++ [(key, value)]) (by simpa using all)
    rw [← insertMember_last greatest] at last
    rw [List.foldl_cons]
    refine last.trans ?_
    rw [insertMember_last greatest, List.append_assoc, List.singleton_append]

end Sorting

theorem sortMembers_isSorted (members : List (Text × Json)) : IsSorted (sortMembers members) :=
  foldl_isSorted members [] List.Pairwise.nil

theorem mem_sortMembers {members : List (Text × Json)} {member : Text × Json}
    (inside : member ∈ sortMembers members) : member ∈ members :=
  (mem_foldl members [] inside).resolve_left List.not_mem_nil

theorem sortMembers_of_isSorted {members : List (Text × Json)} (sorted : IsSorted members) :
    sortMembers members = members :=
  foldl_of_isSorted members [] sorted

theorem insertMember_perm {key : Text} {value : Json} {members : List (Text × Json)}
    (new : key ∉ members.map Prod.fst) :
    (insertMember key value members).Perm ((key, value) :: members) := by
  induction members with
  | nil => exact List.Perm.refl _
  | cons held rest ih =>
    simp only [List.map_cons, List.mem_cons, not_or] at new
    rw [insertMember, if_neg new.1]
    split
    · exact List.Perm.refl _
    · exact ((ih new.2).cons held).trans (List.Perm.swap _ _ _)

theorem foldl_perm (members sorted : List (Text × Json))
    (distinct : ((members ++ sorted).map Prod.fst).Nodup) :
    (members.foldl (fun sorted (key, value) => insertMember key value sorted) sorted).Perm
      (members ++ sorted) := by
  induction members generalizing sorted with
  | nil => exact List.Perm.refl _
  | cons first rest ih =>
    obtain ⟨key, value⟩ := first
    have new : key ∉ (rest ++ sorted).map Prod.fst := (List.nodup_cons.mp distinct).1
    have absent : key ∉ sorted.map Prod.fst := by
      intro member
      apply new
      rw [List.map_append]
      exact List.mem_append_right _ member
    have inserted : (rest ++ insertMember key value sorted).Perm ((key, value) :: (rest ++ sorted)) :=
      ((insertMember_perm absent).append_left rest).trans List.perm_middle
    have kept : ((rest ++ insertMember key value sorted).map Prod.fst).Nodup :=
      (inserted.map Prod.fst).nodup_iff.mpr distinct
    exact (ih _ kept).trans inserted

theorem sortMembers_perm {members : List (Text × Json)} (distinct : (members.map Prod.fst).Nodup) :
    (sortMembers members).Perm members := by
  have sorted := foldl_perm members [] (by rwa [List.append_nil])
  rwa [List.append_nil] at sorted

end Json
end ApiBlueprint

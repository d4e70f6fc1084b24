import Mathlib.Tactic.SplitIfs
import ApiBlueprint.Glob.Match

/-!
Matching with and without a separator. Stars that stop at slashes match less, and on texts without a
slash there is nothing to stop at.
-/

namespace ApiBlueprint

open OsText (slash)

namespace GlobToken

/-- Wherever the second way of matching stops at a slash of the text, the first does too. -/
def StopsMore (strict lax : Bool) (text : List UInt8) : Prop :=
  slash ∈ text → lax = true → strict = true

variable {strict lax : Bool} {text rest : List UInt8}

theorem StopsMore.of_suffix (stops : StopsMore strict lax text) (behind : rest <:+ text) :
    StopsMore strict lax rest :=
  fun inside => stops (behind.subset inside)

theorem StopsMore.passes (stops : StopsMore strict lax text) {byte : UInt8} (inside : byte ∈ text)
    (passes : (!(strict && byte = slash)) = true) : (!(lax && byte = slash)) = true := by
  by_cases same : byte = slash
  · subst same
    cases lax with
    | false => rfl
    | true =>
      rw [stops inside rfl] at passes
      contradiction
  · simp [same]

theorem suffix_of_mem_skipRun {skip : UInt8 → Bool} (member : rest ∈ skipRun skip text) :
    rest <:+ text := by
  induction text with
  | nil => simp_all [skipRun]
  | cons byte more ih =>
    rw [skipRun] at member
    rcases List.mem_cons.mp member with rfl | later
    · exact List.suffix_refl _
    · split at later
      · exact (ih later).trans (List.suffix_cons byte more)
      · contradiction

theorem suffix_of_mem_afterSlashes (member : rest ∈ afterSlashes text) : rest <:+ text := by
  induction text with
  | nil => contradiction
  | cons byte more ih =>
    rw [afterSlashes] at member
    split at member
    · rcases List.mem_cons.mp member with rfl | later
      · exact List.suffix_cons byte rest
      · exact (ih later).trans (List.suffix_cons byte more)
    · exact (ih member).trans (List.suffix_cons byte more)

theorem suffix_of_mem_afterByte {accept : UInt8 → Bool} (member : rest ∈ afterByte accept text) :
    rest <:+ text := by
  cases text with
  | nil => contradiction
  | cons byte more =>
    rw [afterByte] at member
    split at member
    · obtain rfl := List.mem_singleton.mp member
      exact List.suffix_cons byte rest
    · contradiction

theorem suffix_of_mem_afterBytes {expected : List UInt8} (member : rest ∈ afterBytes expected text) :
    rest <:+ text := by
  induction expected generalizing text with
  | nil =>
    obtain rfl := List.mem_singleton.mp member
    exact List.suffix_refl _
  | cons first later ih =>
    cases text with
    | nil => contradiction
    | cons byte more =>
      rw [afterBytes] at member
      split at member
      · exact (ih member).trans (List.suffix_cons byte more)
      · contradiction

theorem skipRun_mono {skip skip' : UInt8 → Bool}
    (more : ∀ byte ∈ text, skip byte = true → skip' byte = true)
    (member : rest ∈ skipRun skip text) : rest ∈ skipRun skip' text := by
  induction text with
  | nil => exact member
  | cons byte below ih =>
    obtain ⟨first, later⟩ := List.forall_mem_cons.mp more
    rw [skipRun] at member ⊢
    rcases List.mem_cons.mp member with rfl | deeper
    · exact List.mem_cons_self
    · split at deeper
      · rename_i skipped
        rw [if_pos (first skipped)]
        exact List.mem_cons_of_mem _ (ih later deeper)
      · contradiction

theorem afterByte_mono {accept accept' : UInt8 → Bool}
    (more : ∀ byte ∈ text, accept byte = true → accept' byte = true)
    (member : rest ∈ afterByte accept text) : rest ∈ afterByte accept' text := by
  cases text with
  | nil => contradiction
  | cons byte below =>
    rw [afterByte] at member ⊢
    split at member
    · rename_i accepted
      rwa [if_pos (more byte List.mem_cons_self accepted)]
    · contradiction

mutual

/-- By induction on the token: what is left in the strict way is left in the lax way too. -/
theorem remainders_mono (token : GlobToken) {text rest : List UInt8}
    (stops : StopsMore strict lax text) (member : rest ∈ remainders strict token text) :
    rest ∈ remainders lax token text ∧ rest <:+ text := by
  match token with
  | .literal c =>
    rw [remainders] at member ⊢
    exact ⟨member, suffix_of_mem_afterBytes member⟩
  | .any =>
    rw [remainders] at member ⊢
    exact ⟨afterByte_mono (fun byte inside => stops.passes inside) member,
      suffix_of_mem_afterByte member⟩
  | .star =>
    rw [remainders] at member ⊢
    exact ⟨skipRun_mono (fun byte inside => stops.passes inside) member,
      suffix_of_mem_skipRun member⟩
  | .anyFolders =>
    rw [remainders] at member ⊢
    refine ⟨member, ?_⟩
    rcases List.mem_cons.mp member with rfl | later
    · exact List.suffix_refl _
    · exact suffix_of_mem_afterSlashes later
  | .anyBelow =>
    cases text with
    | nil => simp [remainders] at member
    | cons byte below =>
      simp only [remainders] at member ⊢
      refine ⟨member, ?_⟩
      split at member
      · exact (suffix_of_mem_skipRun member).trans (List.suffix_cons byte below)
      · contradiction
  | .anyBetween =>
    cases text with
    | nil => simp [remainders] at member
    | cons byte below =>
      simp only [remainders] at member ⊢
      refine ⟨member, ?_⟩
      split at member
      · rcases List.mem_cons.mp member with rfl | later
        · exact List.suffix_cons byte rest
        · exact (suffix_of_mem_afterSlashes later).trans (List.suffix_cons byte below)
      · contradiction
  | .oneOf negated ranges =>
    rw [remainders] at member ⊢
    exact ⟨member, suffix_of_mem_afterByte member⟩
  | .alternatives branches =>
    rw [remainders] at member ⊢
    split at member
    · rename_i empty
      rw [if_pos empty]
      refine ⟨member, ?_⟩
      obtain rfl := List.mem_singleton.mp member
      exact List.suffix_refl _
    · rename_i full
      rw [if_neg full]
      exact branchRemainders_mono branches stops member

theorem listRemainders_mono (tokens : List GlobToken) {texts texts' : List (List UInt8)}
    (left : ∀ text ∈ texts, text ∈ texts' ∧ StopsMore strict lax text) {rest : List UInt8}
    (member : rest ∈ listRemainders strict tokens texts) :
    rest ∈ listRemainders lax tokens texts' ∧ ∃ text ∈ texts, rest <:+ text := by
  match tokens with
  | [] =>
    rw [listRemainders] at member ⊢
    exact ⟨(left rest member).1, rest, member, List.suffix_refl _⟩
  | token :: more =>
    rw [listRemainders] at member ⊢
    have next {text : List UInt8} (inside : text ∈ (texts.flatMap (remainders strict token)).eraseDups) :
        text ∈ (texts'.flatMap (remainders lax token)).eraseDups ∧ ∃ whole ∈ texts, text <:+ whole := by
      rw [List.mem_eraseDups, List.mem_flatMap] at inside ⊢
      obtain ⟨whole, held, remains⟩ := inside
      obtain ⟨also, behind⟩ := remainders_mono token (left whole held).2 remains
      exact ⟨⟨whole, (left whole held).1, also⟩, whole, held, behind⟩
    have leftNext (text : List UInt8)
        (inside : text ∈ (texts.flatMap (remainders strict token)).eraseDups) :
        text ∈ (texts'.flatMap (remainders lax token)).eraseDups ∧ StopsMore strict lax text := by
      obtain ⟨also, whole, held, behind⟩ := next inside
      exact ⟨also, (left whole held).2.of_suffix behind⟩
    obtain ⟨also, text, inside, behind⟩ := listRemainders_mono more leftNext member
    obtain ⟨-, whole, held, above⟩ := next inside
    exact ⟨also, whole, held, behind.trans above⟩

theorem branchRemainders_mono (branches : List (List GlobToken)) {text rest : List UInt8}
    (stops : StopsMore strict lax text) (member : rest ∈ branchRemainders strict branches text) :
    rest ∈ branchRemainders lax branches text ∧ rest <:+ text := by
  match branches with
  | [] => simp [branchRemainders] at member
  | branch :: others =>
    rw [branchRemainders, List.mem_append] at member ⊢
    rcases member with here | later
    · split at here
      · contradiction
      · rename_i full
        rw [if_neg full]
        have start : ∀ whole ∈ [text], whole ∈ [text] ∧ StopsMore strict lax whole := by
          simpa using stops
        obtain ⟨also, whole, held, behind⟩ := listRemainders_mono branch start here
        obtain rfl := List.mem_singleton.mp held
        exact ⟨.inl also, behind⟩
    · obtain ⟨also, behind⟩ := branchRemainders_mono others stops later
      exact ⟨.inr also, behind⟩

end

end GlobToken

namespace Glob

open GlobToken (StopsMore)

theorem accepts_of_stopsMore {strict lax : Bool} {glob : Glob} {path : OsText}
    (stops : StopsMore strict lax path) (accepted : glob.accepts strict path = true) :
    glob.accepts lax path = true := by
  unfold accepts at accepted ⊢
  rw [Bool.or_eq_true, List.any_eq_true] at accepted ⊢
  apply accepted.imp_right
  rintro ⟨rest, left, ends⟩
  have start : ∀ whole ∈ [path], whole ∈ [path] ∧ StopsMore strict lax whole := by
    simpa using stops
  exact ⟨rest, (GlobToken.listRemainders_mono glob.tokens start left).1, ends⟩

theorem accepts_of_separator {glob : Glob} {path : OsText} (accepted : glob.accepts true path = true) :
    glob.accepts false path = true :=
  accepts_of_stopsMore (fun _ _ => rfl) accepted

theorem accepts_eq_of_no_slash (glob : Glob) {path : OsText} (noSlash : slash ∉ path) :
    glob.accepts true path = glob.accepts false path := by
  have stops : StopsMore false true path := fun inside => absurd inside noSlash
  rw [Bool.eq_iff_iff]
  exact ⟨accepts_of_separator, accepts_of_stopsMore stops⟩

end Glob
end ApiBlueprint

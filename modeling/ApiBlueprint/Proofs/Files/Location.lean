import Mathlib.Data.List.Infix
import ApiBlueprint.Files.Tree
import ApiBlueprint.Proofs.Outcome
import ApiBlueprint.Proofs.Path.Normal
import ApiBlueprint.Proofs.Text.Words

/-!
A walk ends at a location of plain names, and such a location and its path from the root folder
stand for each other: the parents of the path are the folders above the location.
-/

namespace ApiBlueprint

open OsText (slash point)

namespace FileTree

def IsPlain (location : Location) : Prop := ∀ name ∈ location, (Component.name name).IsPlain

theorem isPlain_append {above below : Location} :
    IsPlain (above ++ below) ↔ IsPlain above ∧ IsPlain below := List.forall_mem_append

theorem IsPlain.of_prefix {above location : Location} (plain : IsPlain location)
    (leads : above <+: location) : IsPlain above :=
  fun name member => plain name (leads.subset member)

theorem isPlain_piece {piece : OsText} (noSlash : slash ∉ piece) (kept : ¬Path.isFiller piece = true)
    (notParent : ¬piece = [point, point]) : (Component.name piece).IsPlain := by
  have notFiller : piece ≠ [] ∧ piece ≠ [point] := by simpa [Path.isFiller] using kept
  refine ⟨by simp, by simp, notFiller.1, noSlash, ?_⟩
  change Component.ofPiece piece = .name piece
  unfold Component.ofPiece
  rw [if_neg notFiller.2, if_neg notParent]

theorem walk_isPlain {tree : FileTree} {followLast : Bool} {links : Nat} {here : Location}
    {pieces : List OsText} {location : Location}
    (walked : tree.walk followLast links here pieces = .ok location) (plain : IsPlain here)
    (noSlash : ∀ piece ∈ pieces, slash ∉ piece) : IsPlain location := by
  -- A walk goes down by a piece that is neither a filler nor `..`.
  have entered {here : Location} {piece : OsText} {rest : List OsText} (plain : IsPlain here)
      (noSlash : ∀ other ∈ piece :: rest, slash ∉ other) (kept : ¬Path.isFiller piece = true)
      (notParent : ¬piece = [point, point]) : IsPlain (here ++ [piece]) :=
    isPlain_append.mpr ⟨plain, List.forall_mem_singleton.mpr
      (isPlain_piece (noSlash piece List.mem_cons_self) kept notParent)⟩
  fun_induction walk tree followLast links here pieces with
  | case1 => exact Except.ok.inj walked ▸ plain
  | case2 links here piece rest entries found filler ih =>
    exact ih walked plain (List.forall_mem_cons.mp noSlash).2
  | case3 links here rest entries found kept ih =>
    exact ih walked (plain.of_prefix (List.dropLast_prefix here)) (List.forall_mem_cons.mp noSlash).2
  | case6 links here piece rest entries found kept notParent short target link atEnd =>
    exact Except.ok.inj walked ▸ entered plain noSlash kept notParent
  | case8 here piece rest entries found kept notParent short target link notEnd links ih =>
    refine ih walked ?_ ?_
    · split
      · exact List.forall_mem_nil _
      · exact plain
    · rw [List.forall_mem_append]
      exact ⟨fun piece member => Text.not_mem_of_mem_splitOn member, (List.forall_mem_cons.mp noSlash).2⟩
  | case9 links here piece rest entries found kept notParent short next notLink entry ih =>
    exact ih walked (entered plain noSlash kept notParent) (List.forall_mem_cons.mp noSlash).2
  | case4 | case5 | case7 | case10 => contradiction

theorem locate_isPlain {tree : FileTree} {path : Path} {followLast : Bool} {location : Location}
    (located : tree.locate path followLast = .ok location) : IsPlain location := by
  obtain ⟨_, checked, walked⟩ := bind_eq_ok.mp located
  exact walk_isPlain walked (List.forall_mem_nil _) fun piece member => Text.not_mem_of_mem_splitOn member

theorem components_pathTo {location : Location} (plain : IsPlain location) :
    (pathTo location).components = .root :: location.map .name := by
  -- `Path.components_root` is about components, so the names are read as such.
  have texts : location = (location.map Component.name).map Component.bytes := by
    rw [List.map_map]
    exact (List.map_id location).symm
  have spelled : pathTo location = Path.ofComponents (.root :: location.map .name) := by
    conv_lhs => rw [texts]
    rfl
  rw [spelled, Path.components_root]
  intro component member
  obtain ⟨name, inside, rfl⟩ := List.mem_map.mp member
  exact plain name inside

theorem same_pathTo {left right : Location} (plainLeft : IsPlain left) (plainRight : IsPlain right) :
    (pathTo left).same (pathTo right) = true ↔ left = right := by
  have names : Function.Injective Component.name := fun _ _ equal => Component.name.inj equal
  unfold Path.same
  rw [decide_eq_true_iff, components_pathTo plainLeft, components_pathTo plainRight, List.cons_inj_right]
  exact (List.map_injective_iff.mpr names).eq_iff

theorem splitOn_pathTo {location : Location} (plain : IsPlain location) (nonempty : location ≠ []) :
    (pathTo location).bytes.splitOn slash = [] :: location := by
  unfold pathTo Text.joinWith
  rw [List.splitOn_cons_eq_if_modifyHead, if_pos (beq_self_eq_true slash), List.splitOn_intercalate]
  · exact fun name member => (plain name member).noSlash
  · exact nonempty

theorem pathTo_singleton (name : OsText) : pathTo [name] = ⟨slash :: name⟩ := by
  unfold pathTo
  rw [Text.joinWith_singleton]

theorem pathTo_append {location : Location} (nonempty : location ≠ []) (name : OsText) :
    pathTo (location ++ [name]) = ⟨(pathTo location).bytes ++ slash :: name⟩ := by
  unfold pathTo
  rw [Text.joinWith_append nonempty (List.cons_ne_nil name []), Text.joinWith_singleton]
  rfl

theorem getLast_pathTo {location : Location} (plain : IsPlain location) (nonempty : location ≠ []) :
    (pathTo location).bytes.getLast? ≠ some slash := by
  obtain ⟨above, name, rfl⟩ := location.eq_nil_or_concat'.resolve_left nonempty
  have last : (Component.name name).IsPlain := (isPlain_append.mp plain).2 name (by simp)
  have some : name ≠ [] := last.nonempty
  have ends : (pathTo (above ++ [name])).bytes.getLast? = name.getLast? := by
    by_cases root : above = []
    · subst root
      rw [List.nil_append, pathTo_singleton]
      exact List.getLast?_append_of_ne_nil [slash] some
    · rw [pathTo_append root]
      calc
        ((pathTo above).bytes ++ slash :: name).getLast? =
            ((pathTo above).bytes ++ [slash] ++ name).getLast? := by rw [List.append_cons]
        _ = name.getLast? := List.getLast?_append_of_ne_nil _ some
  rw [ends]
  exact fun slash => last.noSlash (List.mem_of_getLast? slash)

theorem join_pathTo {location : Location} {name : OsText} (plain : IsPlain (location ++ [name])) :
    (pathTo location).join ⟨name⟩ = pathTo (location ++ [name]) := by
  obtain ⟨above, last⟩ := isPlain_append.mp plain
  have relative : Path.isAbsolute ⟨name⟩ = false := Path.isAbsolute_name (last name (by simp))
  by_cases root : location = []
  · subst root
    rw [List.nil_append, pathTo_singleton]
    simp [Path.join, relative, pathTo, Text.joinWith]
  · have more : (pathTo location).isEmpty = false := rfl
    simp [Path.join, relative, more, getLast_pathTo above root, pathTo_append root]

theorem not_isFiller {name : OsText} (plain : (Component.name name).IsPlain) :
    Path.isFiller name = false := by
  have notCurrent : name ≠ [point] := by
    rintro rfl
    exact absurd plain.reads (by decide)
  have nonempty : name ≠ [] := plain.nonempty
  simp [Path.isFiller, nonempty, notCurrent]

theorem dropWhile_isFiller {names : List OsText} (plain : ∀ name ∈ names, (Component.name name).IsPlain) :
    names.dropWhile Path.isFiller = names := by
  cases names with
  | nil => rfl
  | cons name rest =>
    exact List.dropWhile_cons_of_neg (by simp [not_isFiller (plain name List.mem_cons_self)])

theorem parent_pathTo {location : Location} {name : OsText} (plain : IsPlain (location ++ [name])) :
    (pathTo (location ++ [name])).parent? = some (pathTo location) := by
  have last : (pathTo (location ++ [name])).components.getLast? = some (.name name) := by
    rw [components_pathTo plain, List.map_append, ← List.cons_append]
    exact List.getLast?_concat
  have upwards : (location ++ [name]).reverse.dropWhile Path.isFiller = name :: location.reverse := by
    rw [dropWhile_isFiller fun other member => plain other (List.mem_reverse.mp member)]
    exact List.reverse_concat
  have above : location.reverse.dropWhile Path.isFiller = location.reverse :=
    dropWhile_isFiller fun other member => (isPlain_append.mp plain).1 other (List.mem_reverse.mp member)
  unfold Path.parent?
  simp only [last, splitOn_pathTo plain (by simp), upwards, above, List.reverse_reverse]
  cases location <;> rfl

theorem parent_root : (pathTo []).parent? = none := by decide

theorem length_le_pathTo (location : Location) : location.length ≤ (pathTo location).bytes.length := by
  induction location using List.reverseRecOn with
  | nil => exact Nat.zero_le _
  | append_singleton above name ih =>
    by_cases root : above = []
    · simp [root, pathTo_singleton]
    · rw [pathTo_append root, List.length_append, List.length_append, List.length_singleton,
        List.length_cons]
      omega

/-- By induction from the last name on; every parent takes one name and one unit of fuel. -/
theorem ancestorsFrom_pathTo {location : Location} (plain : IsPlain location) {fuel : Nat}
    (enough : location.length < fuel) :
    Path.ancestorsFrom fuel (pathTo location) = location.inits.reverse.map pathTo := by
  induction location using List.reverseRecOn generalizing fuel with
  | nil =>
    obtain ⟨fuel, rfl⟩ := Nat.exists_eq_succ_of_ne_zero (Nat.ne_of_gt enough)
    simp [Path.ancestorsFrom, parent_root]
  | append_singleton above name ih =>
    obtain ⟨fuel, rfl⟩ := Nat.exists_eq_succ_of_ne_zero (Nat.ne_of_gt (Nat.zero_lt_of_lt enough))
    have below : above.length < fuel := by simpa using enough
    simp only [Path.ancestorsFrom, parent_pathTo plain, ih (isPlain_append.mp plain).1 below]
    simp [List.inits_append]

theorem ancestors_pathTo {location : Location} (plain : IsPlain location) :
    (pathTo location).ancestors = location.inits.reverse.map pathTo :=
  ancestorsFrom_pathTo plain (Nat.lt_succ_of_le (length_le_pathTo location))

/-- The longest of the locations above another one, itself among them, that is accepted. -/
theorem find_inits_eq_some_iff {accepts : Location → Bool} {location root : Location} :
    location.inits.reverse.find? accepts = some root ↔
      root <+: location ∧ accepts root = true ∧
        ∀ other, other <+: location → accepts other = true → other <+: root := by
  induction location using List.reverseRecOn with
  | nil =>
    change [[]].find? accepts = some root ↔ _
    simp only [List.find?_singleton, List.prefix_nil]
    grind
  | append_singleton above name ih =>
    have nearestFirst : (above ++ [name]).inits.reverse = (above ++ [name]) :: above.inits.reverse := by
      simp [List.inits_append]
    rw [nearestFirst, List.find?_cons]
    cases here : accepts (above ++ [name]) with
    | true =>
      simp only [Option.some.injEq]
      constructor
      · rintro rfl
        exact ⟨List.prefix_rfl, here, fun other leads _ => leads⟩
      · rintro ⟨leads, -, nearest⟩
        exact (nearest _ List.prefix_rfl here).eq_of_length_le leads.length_le
    | false =>
      simp only [ih, List.prefix_concat_iff]
      constructor
      · rintro ⟨leads, accepted, nearest⟩
        refine ⟨Or.inr leads, accepted, ?_⟩
        rintro other (rfl | higher) marked
        · exact absurd marked (by simp [here])
        · exact nearest other higher marked
      · rintro ⟨rfl | leads, accepted, nearest⟩
        · exact absurd accepted (by simp [here])
        · exact ⟨leads, accepted, fun other higher => nearest other (Or.inr higher)⟩

theorem parent_ne_none {path : Path} {last : Component}
    (ends : path.components.getLast? = some last) (notRoot : last ≠ .root) : path.parent? ≠ none := by
  unfold Path.parent?
  rw [ends]
  split
  · contradiction
  · simp_all
  · exact absurd ‹_› (List.splitOn_ne_nil _ _)
  · split
    · simp
    · split <;> simp

/-- Only the root folder is at the top: its path has nothing between its slashes but dots. -/
theorem isFiller_of_parent_eq_none {path : Path} (absolute : path.isAbsolute = true)
    (top : path.parent? = none) : ∀ piece ∈ path.bytes.splitOn slash, Path.isFiller piece = true := by
  intro piece member
  by_contra kept
  have notFiller : piece ≠ [] ∧ piece ≠ [point] := by simpa [Path.isFiller] using kept
  let behind := (path.pieces.map Component.ofPiece).filter (· ≠ .current)
  have inside : Component.ofPiece piece ∈ behind := by
    simp only [behind, List.mem_filter, List.mem_map, Path.pieces]
    refine ⟨⟨piece, ⟨member, ?_⟩, rfl⟩, ?_⟩
    · simpa using notFiller.1
    · simpa [Component.ofPiece_eq_current] using notFiller.2
  obtain ⟨above, last, ends⟩ := behind.eq_nil_or_concat'.resolve_left (List.ne_nil_of_mem inside)
  have components : path.components = (.root :: above) ++ [last] := by
    rw [Path.components_of_absolute absolute]
    exact congrArg (Component.root :: ·) ends
  have lastInside : last ∈ behind := by rw [ends]; simp
  obtain ⟨text, -, rfl⟩ := List.mem_map.mp (List.mem_filter.mp lastInside).1
  refine absurd top (parent_ne_none ?_ (Component.ofPiece_ne_root text))
  rw [components]
  exact List.getLast?_concat

theorem walk_fillers {tree : FileTree} {followLast : Bool} {links : Nat} {here : Location}
    {pieces : List OsText} {location : Location}
    (walked : tree.walk followLast links here pieces = .ok location)
    (fillers : ∀ piece ∈ pieces, Path.isFiller piece = true) (some : pieces ≠ []) :
    location = here ∧ tree.isFolderAt here = true := by
  fun_induction walk tree followLast links here pieces with
  | case2 links here piece rest entries found filler ih =>
    refine ⟨?_, by simp [isFolderAt, found]⟩
    by_cases atEnd : rest = []
    · subst atEnd
      simpa [walk] using walked.symm
    · exact (ih walked (List.forall_mem_cons.mp fillers).2 atEnd).1
  | case1 => contradiction
  | case10 => contradiction
  | _ => simp_all

theorem exists_parent_of_isFile {tree : FileTree} {path : Path} (absolute : path.isAbsolute = true)
    (found : tree.isFile path = true) : ∃ base, path.parent? = some base := by
  rw [← Option.ne_none_iff_exists']
  intro top
  obtain ⟨contents, leads⟩ : ∃ contents, tree.find path true = .ok (file contents) := by
    unfold isFile at found
    split at found
    · exact ⟨_, ‹_›⟩
    · contradiction
  obtain ⟨location, located, there⟩ := bind_eq_ok.mp leads
  obtain ⟨_, checked, walked⟩ := bind_eq_ok.mp located
  obtain ⟨rfl, folder⟩ :=
    walk_fillers walked (isFiller_of_parent_eq_none absolute top) (List.splitOn_ne_nil _ _)
  unfold isFolderAt at folder
  split at folder
  · simp_all [pure, Except.pure]
  · contradiction

end FileTree
end ApiBlueprint

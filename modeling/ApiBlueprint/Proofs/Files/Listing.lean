import Mathlib
import ApiBlueprint.Files.Project
import ApiBlueprint.Files.Store
import ApiBlueprint.Proofs.Files.Location
import ApiBlueprint.Proofs.Path.Encoding
import ApiBlueprint.Proofs.Path.Order

/-!
Files in a folder and the same files in a store of documents are listed by the walk through the folder,
which passes over names that start with a dot and is sorted afterwards, and by the test of every path of
the store, which is kept in path order. The test wants a text where the walk does not, so the lists are
alike but for names that are none.
-/

namespace ApiBlueprint

open OsText (slash point)

namespace Path

variable {path : Path}

/-- A component is passed over on a walk. -/
def isDotted (path : Path) : Bool :=
  path.components.any fun component =>
    match component with
    | .name name => FileTree.isHiddenName name
    | _ => false

def HasDottedBytes (path : Path) : Prop :=
  ∃ name, .name name ∈ path.components ∧ name.head? = some point ∧ OsText.text? name = none

theorem isDotted_iff :
    path.isDotted = true ↔ ∃ name, .name name ∈ path.components ∧ name.head? = some point := by
  unfold isDotted
  rw [List.any_eq_true]
  constructor
  · rintro ⟨component, member, dotted⟩
    cases component with
    | name name => exact ⟨name, member, OsText.head?_display.mp (decide_eq_true_iff.mp dotted)⟩
    | _ => cases dotted
  · rintro ⟨name, member, dotted⟩
    exact ⟨.name name, member, decide_eq_true (OsText.head?_display.mpr dotted)⟩

theorem isHidden_iff : path.isHidden = true ↔
    ∃ text : Text, .name (Text.bytes text) ∈ path.components ∧
      (Text.bytes text).head? = some point := by
  unfold isHidden
  rw [List.any_eq_true]
  constructor
  · rintro ⟨component, member, hidden⟩
    cases component with
    | name name =>
      obtain ⟨text, read, dotted⟩ := (Option.any_eq_true _ _).mp hidden
      obtain rfl := OsText.text?_eq_some_iff.mp read
      exact ⟨text, member, OsText.head?_bytes.mp (decide_eq_true_iff.mp dotted)⟩
    | _ => cases hidden
  · rintro ⟨text, member, dotted⟩
    refine ⟨.name (Text.bytes text), member, ?_⟩
    simp [OsText.text?_bytes, OsText.head?_bytes.mpr dotted]

theorem isDotted_iff_isHidden_or :
    path.isDotted = true ↔ path.isHidden = true ∨ path.HasDottedBytes := by
  rw [isDotted_iff, isHidden_iff]
  constructor
  · rintro ⟨name, member, dotted⟩
    cases read : OsText.text? name with
    | none => exact .inr ⟨name, member, dotted, read⟩
    | some text =>
      obtain rfl := OsText.text?_eq_some_iff.mp read
      exact .inl ⟨text, member, dotted⟩
  · rintro (⟨text, member, dotted⟩ | ⟨name, member, dotted, -⟩)
    · exact ⟨_, member, dotted⟩
    · exact ⟨name, member, dotted⟩

end Path

namespace FileTree

theorem mem_filesBelow_iff {hidden : Bool} {entries : List (OsText × FileTree)} {location : Location} :
    location ∈ filesBelow hidden entries ↔
      ∃ entry ∈ entries, (hidden || !isHiddenName entry.1) = true ∧
        ∃ below ∈ entry.2.files hidden, entry.1 :: below = location := by
  induction entries with
  | nil => simp [filesBelow]
  | cons entry rest ih =>
    obtain ⟨name, tree⟩ := entry
    simp only [filesBelow, List.mem_append, ih, List.exists_mem_cons_iff]
    cases shown : hidden || !isHiddenName name <;> simp

/-- Names are plain and distinct within each folder. -/
inductive IsTidy : FileTree → Prop where
  | file (contents : FileContents) : IsTidy (file contents)
  | link (target : Path) : IsTidy (link target)
  | folder {entries : List (OsText × FileTree)}
      (plain : ∀ entry ∈ entries, (Component.name entry.1).IsPlain)
      (distinct : (entries.map Prod.fst).Nodup)
      (below : ∀ entry ∈ entries, IsTidy entry.2) : IsTidy (folder entries)

theorem lookup_eq_some_iff {entries : List (OsText × FileTree)}
    (distinct : (entries.map Prod.fst).Nodup) {name : OsText} {tree : FileTree} :
    lookup entries name = some tree ↔ (name, tree) ∈ entries := by
  unfold lookup
  constructor
  · intro found
    obtain ⟨entry, first, rfl⟩ := Option.map_eq_some_iff.mp found
    have named : entry.1 = name := by simpa using List.find?_some first
    exact named ▸ List.mem_of_find?_eq_some first
  · intro member
    induction entries with
    | nil => cases member
    | cons entry rest ih =>
      obtain ⟨new, others⟩ := List.nodup_cons.mp distinct
      rw [List.find?_cons]
      rcases List.mem_cons.mp member with rfl | later
      · simp
      · have different : entry.1 ≠ name := by
          rintro rfl
          exact new (List.mem_map.mpr ⟨_, later, rfl⟩)
        simpa [different] using ih others later

/-- The walk finds the files, each under its location, and passes over those below a hidden name. -/
theorem mem_files_iff {tree : FileTree} (tidy : tree.IsTidy) {hidden : Bool} {location : Location} :
    location ∈ tree.files hidden ↔
      (∃ contents, tree.at? location = some (file contents)) ∧
        (hidden = true ∨ ∀ name ∈ location, isHiddenName name = false) := by
  induction tidy generalizing location with
  | file contents => cases location <;> simp [files, at?]
  | link target => cases location <;> simp [files, at?]
  | @folder entries plain distinct below ih =>
    rw [files, mem_filesBelow_iff]
    cases location with
    | nil => simp [at?]
    | cons name rest =>
      simp only [List.cons.injEq, at?, Option.bind_eq_bind, Option.bind_eq_some_iff,
        lookup_eq_some_iff distinct, List.forall_mem_cons]
      constructor
      · rintro ⟨⟨_, tree⟩, member, shown, _, found, rfl, rfl⟩
        obtain ⟨⟨contents, stands⟩, visible⟩ := (ih _ member).mp found
        refine ⟨⟨contents, tree, member, stands⟩, ?_⟩
        cases hidden with
        | true => exact .inl rfl
        | false => exact .inr ⟨by simpa using shown, by simpa using visible⟩
      · rintro ⟨⟨contents, tree, member, stands⟩, visible⟩
        refine ⟨_, member, ?_, rest, (ih _ member).mpr ⟨⟨contents, stands⟩, ?_⟩, rfl, rfl⟩
        · rcases visible with rfl | ⟨shown, -⟩
          · rfl
          · simp [shown]
        · exact visible.imp_right And.right

theorem IsTidy.isPlain {tree found : FileTree} (tidy : tree.IsTidy) {location : Location}
    (stands : tree.at? location = some found) : IsPlain location := by
  induction tidy generalizing location with
  | file contents => cases location <;> simp [at?, IsPlain] at stands ⊢
  | link target => cases location <;> simp [at?, IsPlain] at stands ⊢
  | @folder entries plain distinct below ih =>
    cases location with
    | nil => exact List.forall_mem_nil _
    | cons name rest =>
      simp only [at?, Option.bind_eq_bind, Option.bind_eq_some_iff, lookup_eq_some_iff distinct]
        at stands
      obtain ⟨tree, member, stands⟩ := stands
      exact List.forall_mem_cons.mpr ⟨plain _ member, ih _ member stands⟩

def pathBelow (location : Location) : Path := ⟨Text.joinWith [slash] location⟩

theorem components_pathBelow {location : Location} (plain : IsPlain location) :
    (pathBelow location).components = location.map .name := by
  cases location with
  | nil => rfl
  | cons first rest =>
    have texts : first :: rest = ((first :: rest).map Component.name).map Component.bytes := by
      rw [List.map_map]
      exact (List.map_id _).symm
    have spelled : pathBelow (first :: rest) =
        Path.ofComponents (.name first :: rest.map .name) := by
      unfold pathBelow
      conv_lhs => rw [texts]
      rfl
    rw [spelled, Path.components_relative (plain first List.mem_cons_self)]
    · rfl
    · intro component member
      obtain ⟨name, inside, rfl⟩ := List.mem_map.mp member
      exact plain name (List.mem_cons_of_mem first inside)

theorem same_pathBelow {left right : Location} (plainLeft : IsPlain left) (plainRight : IsPlain right)
    (same : (pathBelow left).same (pathBelow right) = true) : left = right := by
  unfold Path.same at same
  rw [decide_eq_true_iff, components_pathBelow plainLeft, components_pathBelow plainRight] at same
  exact List.map_injective_iff.mpr (fun _ _ equal => Component.name.inj equal) same

theorem isDotted_pathBelow {location : Location} (plain : IsPlain location) :
    (pathBelow location).isDotted = location.any isHiddenName := by
  unfold Path.isDotted
  rw [components_pathBelow plain, List.any_map]
  rfl

theorem at?_concat {tree : FileTree} {here : Location} {entries : List (OsText × FileTree)}
    (found : tree.at? here = some (folder entries)) (name : OsText) :
    tree.at? (here ++ [name]) = lookup entries name := by
  induction here generalizing tree with
  | nil =>
    obtain rfl : tree = folder entries := Option.some.inj found
    simp [at?]
  | cons first rest ih =>
    cases tree with
    | file contents => cases found
    | link target => cases found
    | folder others =>
      simp only [at?, Option.bind_eq_bind, Option.bind_eq_some_iff, List.cons_append] at found ⊢
      obtain ⟨tree, here, found⟩ := found
      rw [here]
      exact ih found

/-- Where a walk ends that does not follow a link in the last place. -/
theorem walk_unfollowed {tree : FileTree} {links : Nat} {here : Location} {pieces : List OsText}
    {location : Location} (walked : tree.walk true links here pieces = .ok location) :
    ∃ other, tree.walk false links here pieces = .ok other ∧
      (other = location ∨ ∃ target, tree.at? other = some (link target)) := by
  fun_induction walk tree true links here pieces with
  | case1 links here =>
    refine ⟨here, by simp [walk], .inl (Except.ok.inj walked)⟩
  | case2 links here piece rest entries found filler ih =>
    rw [walk]
    simpa [found, filler] using ih walked
  | case3 links here rest entries found kept ih =>
    rw [walk]
    simpa [found, kept] using ih walked
  | case6 links here piece rest entries found kept notParent short target link atEnd =>
    simp at atEnd
  | case8 here piece rest entries found kept notParent short target link notEnd links ih =>
    rw [walk]
    by_cases last : rest = []
    · refine ⟨here ++ [piece], ?_, .inr ⟨target, ?_⟩⟩
      · simp [found, kept, notParent, short, link, last]
      · rw [at?_concat found, link]
    · simpa [found, kept, notParent, short, link, last] using ih walked
  | case9 links here piece rest entries found kept notParent short next notLink entry ih =>
    rw [walk]
    cases next with
    | link target => exact absurd rfl (notLink target)
    | _ => simpa [found, kept, notParent, short, entry] using ih walked
  | case4 | case5 | case7 | case10 => contradiction

theorem find_eq_ok_iff {tree : FileTree} {path : Path} {followLast : Bool} {found : FileTree} :
    tree.find path followLast = .ok found ↔
      ∃ location, tree.locate path followLast = .ok location ∧ tree.at? location = some found := by
  unfold find
  simp only [bind_eq_ok]
  constructor
  · rintro ⟨location, located, stands⟩
    refine ⟨location, located, ?_⟩
    split at stands
    case h_1 other there => rw [there, pure_eq_ok.mp stands]
    case h_2 => cases stands
  · rintro ⟨location, located, stands⟩
    exact ⟨location, located, by rw [stands]; rfl⟩

theorem find_unfollowed {tree : FileTree} {path : Path} {found : FileTree}
    (leads : tree.find path true = .ok found) :
    ∃ other, tree.find path false = .ok other ∧ (other = found ∨ ∃ target, other = link target) := by
  obtain ⟨location, located, stands⟩ := find_eq_ok_iff.mp leads
  obtain ⟨_, checked, walked⟩ := bind_eq_ok.mp located
  obtain ⟨other, unfollowed, ends⟩ := walk_unfollowed walked
  have locatedOther : tree.locate path false = .ok other := bind_eq_ok.mpr ⟨_, checked, unfollowed⟩
  rcases ends with rfl | ⟨target, there⟩
  · exact ⟨found, find_eq_ok_iff.mpr ⟨other, locatedOther, stands⟩, .inl rfl⟩
  · exact ⟨_, find_eq_ok_iff.mpr ⟨other, locatedOther, there⟩, .inr ⟨target, rfl⟩⟩

end FileTree

namespace Project

open FileTree

theorem filesBelow_folder {project : Project} {tree : FileTree} {entries : List (OsText × FileTree)}
    (found : tree.find project.root true = .ok (folder entries)) (hidden : Bool) :
    project.filesBelow tree hidden = .ok (((folder entries).files hidden).map pathBelow) := by
  obtain ⟨other, unfollowed, rfl | ⟨target, rfl⟩⟩ := find_unfollowed found
  · unfold filesBelow
    rw [found, unfollowed]
    rfl
  · unfold filesBelow
    rw [found, unfollowed]
    rfl

end Project

theorem Store.map_fst_insertFile (path : Path) (text : Text) (files : List (Path × Text)) :
    (insertFile path text files).map Prod.fst = Path.insert path (files.map Prod.fst) := by
  induction files with
  | nil => rfl
  | cons file rest ih =>
    obtain ⟨other, held⟩ := file
    simp only [insertFile, List.map_cons, Path.insert]
    split
    · rfl
    · split
      · rfl
      · rw [List.map_cons, ih]

theorem Store.isHidden_of_mem_glob {store : Store} {pattern : Text} {options : GlobOptions}
    {paths : List Path} (listed : store.glob pattern options = .ok paths)
    (passed : options.includeHidden = false) : ∀ path ∈ paths, path.isHidden = false := by
  obtain ⟨filter, -, listed⟩ := bind_eq_ok.mp listed
  obtain rfl := pure_eq_ok.mp listed
  intro path member
  obtain ⟨-, shown⟩ := List.mem_filter.mp member
  simp only [passed, Bool.false_or, Bool.and_eq_true, Bool.not_eq_true'] at shown
  exact shown.1

theorem Store.map_fst_ofList (files : List (Path × Text)) :
    (ofList files).files.map Prod.fst = Path.sorted (files.map Prod.fst) := by
  have inserted (store : Store) :
      (files.foldl (fun store file => store.insert file.1 file.2) store).files.map Prod.fst =
        (files.map Prod.fst).foldl (fun kept path => Path.insert path kept)
          (store.files.map Prod.fst) := by
    induction files generalizing store with
    | nil => rfl
    | cons file rest ih =>
      rw [List.foldl_cons, ih, List.map_cons, List.foldl_cons, ← map_fst_insertFile]
      rfl
  exact inserted {}

namespace FileTree

/-- A folder holds the files of a list, each under its path as it is spelled there, and no others. -/
structure LaysOut (tree : FileTree) (files : List (Path × Text)) : Prop where
  tidy : tree.IsTidy
  mem_iff : ∀ path, path ∈ files.map Prod.fst ↔
    ∃ location contents, tree.at? location = some (file contents) ∧ pathBelow location = path

theorem LaysOut.of_mem_files {tree : FileTree} {files : List (Path × Text)} (tidy : tree.IsTidy)
    (mem_iff : ∀ path, path ∈ files.map Prod.fst ↔ path ∈ (tree.files true).map pathBelow) :
    tree.LaysOut files := by
  refine ⟨tidy, fun path => (mem_iff path).trans ?_⟩
  simp only [List.mem_map, mem_files_iff tidy, true_or, and_true]
  constructor
  · rintro ⟨location, ⟨contents, stands⟩, spelled⟩
    exact ⟨location, contents, stands, spelled⟩
  · rintro ⟨location, contents, stands, spelled⟩
    exact ⟨location, ⟨contents, stands⟩, spelled⟩

theorem LaysOut.exists_location {tree : FileTree} {files : List (Path × Text)}
    (laid : tree.LaysOut files) {path : Path} (member : path ∈ files.map Prod.fst) :
    ∃ location, IsPlain location ∧ pathBelow location = path := by
  obtain ⟨location, contents, stands, spelled⟩ := (laid.mem_iff path).mp member
  exact ⟨location, laid.tidy.isPlain stands, spelled⟩

theorem LaysOut.eq_of_same {tree : FileTree} {files : List (Path × Text)} (laid : tree.LaysOut files)
    {left right : Path} (inLeft : left ∈ files.map Prod.fst) (inRight : right ∈ files.map Prod.fst)
    (same : left.same right = true) : left = right := by
  obtain ⟨first, plainFirst, rfl⟩ := laid.exists_location inLeft
  obtain ⟨second, plainSecond, rfl⟩ := laid.exists_location inRight
  rw [same_pathBelow plainFirst plainSecond same]

/-- The walk finds the paths of the list, all of them or those without a dot in front of a name. -/
theorem LaysOut.mem_paths_iff {tree : FileTree} {files : List (Path × Text)}
    (laid : tree.LaysOut files) {hidden : Bool} {path : Path} :
    path ∈ (tree.files hidden).map pathBelow ↔
      path ∈ files.map Prod.fst ∧ (hidden || !path.isDotted) = true := by
  rw [List.mem_map, laid.mem_iff]
  have visible {location : Location} {contents : FileContents}
      (stands : tree.at? location = some (file contents)) :
      (hidden || !(pathBelow location).isDotted) = true ↔
        hidden = true ∨ ∀ name ∈ location, isHiddenName name = false := by
    rw [isDotted_pathBelow (laid.tidy.isPlain stands)]
    simp
  constructor
  · rintro ⟨location, found, rfl⟩
    obtain ⟨⟨contents, stands⟩, shown⟩ := (mem_files_iff laid.tidy).mp found
    exact ⟨⟨location, contents, stands, rfl⟩, (visible stands).mpr shown⟩
  · rintro ⟨⟨location, contents, stands, rfl⟩, shown⟩
    exact ⟨location, (mem_files_iff laid.tidy).mpr ⟨⟨contents, stands⟩, (visible stands).mp shown⟩, rfl⟩

end FileTree

theorem PathFilter.ofPatterns_error {pattern : Text} {options : GlobOptions} {error : CompileError}
    (failed : ofPatterns pattern options = .error error) :
    ∃ fault, error = .input (.pattern fault) := by
  have read {pattern : Text} (unread : readPattern pattern = .error error) :
      ∃ fault, error = .input (.pattern fault) := by
    obtain ⟨fault, -, rfl⟩ := mapError_eq_error.mp unread
    exact ⟨fault, rfl⟩
  rcases bind_eq_error.mp failed with wanted | ⟨_, -, later⟩
  · exact read wanted
  · rcases bind_eq_error.mp later with unwanted | ⟨_, -, last⟩
    · obtain ⟨_, pattern, _, _, -, -, unread⟩ := mapM_eq_error_iff.mp unwanted
      exact read unread
    · cases last

/-- What the store lists of the files in a folder, the folder lists without the paths that are passed over
on the walk. -/
theorem Project.glob_folder {tree : FileTree} {root : Path} {entries : List (OsText × FileTree)}
    {files : List (Path × Text)} (found : tree.find root true = .ok (.folder entries))
    (laid : (FileTree.folder entries).LaysOut files) (pattern : Text) (options : GlobOptions) :
    Project.glob { root } tree pattern options =
      ((Store.ofList files).glob pattern options).map fun paths =>
        paths.filter fun path => options.includeHidden || !path.isDotted := by
  have walked : filesBelow { root } tree options.includeHidden = .ok _ := filesBelow_folder found _
  cases read : PathFilter.ofPatterns pattern options with
  | error error =>
    simp only [glob, Store.glob, read]
    rfl
  | ok filter =>
    have listed : Project.glob { root } tree pattern options =
        .ok (Path.sorted ((((FileTree.folder entries).files options.includeHidden).map
          FileTree.pathBelow).filter filter.accepts)) := by
      simp only [glob, read, walked, Except.mapError, Glob.anyAccepts, List.any_nil, Bool.not_false,
        Bool.and_true]
      rfl
    rw [listed, Store.glob, read]
    apply congrArg Except.ok
    rw [Store.map_fst_ofList]
    apply (Path.sorted_rises _).eq_of_mem_iff (((Path.sorted_rises _).filter _).filter _)
    intro path
    have visible : (options.includeHidden || !path.isDotted) = true →
        (options.includeHidden || !path.isHidden) = true := by
      simp only [Bool.or_eq_true, Bool.not_eq_true', ← Bool.not_eq_true]
      exact Or.imp_right (mt fun hidden => Path.isDotted_iff_isHidden_or.mpr (.inl hidden))
    rw [Path.mem_sorted, List.mem_filter, List.mem_filter, List.mem_filter, Path.mem_sorted,
      laid.mem_paths_iff, Bool.and_eq_true]
    · tauto
    · exact fun left inLeft right inRight => laid.eq_of_same inLeft inRight
    · intro left inLeft right inRight
      have leftIn := (laid.mem_paths_iff.mp (List.mem_filter.mp inLeft).1).1
      exact laid.eq_of_same leftIn (laid.mem_paths_iff.mp (List.mem_filter.mp inRight).1).1

/-- Files in a folder, to which a path leads, and the same files in a store: both fail alike, for a pattern
that cannot be read, and both list the same paths in the same order, unless names that start with a dot are
to be passed over and the store lists one that is no text. The walk leaves out exactly the paths with a
name that starts with a dot. -/
theorem Project.glob_eq_store_glob_iff {tree : FileTree} {root : Path}
    {entries : List (OsText × FileTree)} {files : List (Path × Text)}
    (found : tree.find root true = .ok (.folder entries))
    (laid : (FileTree.folder entries).LaysOut files) (pattern : Text) (options : GlobOptions) :
    let listed := Project.glob { root } tree pattern options
    let stored := (Store.ofList files).glob pattern options
    (∀ error, listed = .error error ↔ stored = .error error) ∧
    (∀ error, listed = .error error → ∃ fault, error = .input (.pattern fault)) ∧
    (∀ paths, stored = .ok paths →
      listed = .ok (paths.filter fun path => options.includeHidden || !path.isDotted) ∧
      (listed = stored ↔ options.includeHidden = true ∨ ∀ path ∈ paths, ¬path.HasDottedBytes)) ∧
    ∀ path, path ∈ ((FileTree.folder entries).files false).map FileTree.pathBelow ↔
      path ∈ ((FileTree.folder entries).files true).map FileTree.pathBelow ∧ path.isDotted = false := by
  intro listed stored
  have same : listed = stored.map fun paths =>
      paths.filter fun path => options.includeHidden || !path.isDotted :=
    Project.glob_folder found laid pattern options
  have failed (error : CompileError) : listed = .error error ↔ stored = .error error := by
    rw [same]
    exact map_eq_error
  refine ⟨failed, fun error fails => ?fault, fun paths stores => ?listed, fun path => ?walk⟩
  case fault =>
    have read := bind_eq_error.mp ((failed error).mp fails)
    rcases read with unread | ⟨_, -, done⟩
    · exact PathFilter.ofPatterns_error unread
    · cases done
  case listed =>
    have lists : listed = .ok (paths.filter fun path => options.includeHidden || !path.isDotted) := by
      rw [same, stores]
      rfl
    refine ⟨lists, ?_⟩
    rw [lists, stores, Except.ok.injEq, List.filter_eq_self]
    cases shown : options.includeHidden with
    | true => simp
    | false =>
      have visible : ∀ path ∈ paths, path.isHidden = false := Store.isHidden_of_mem_glob stores shown
      have dotted : ∀ path ∈ paths, path.isDotted = true ↔ path.HasDottedBytes := by
        intro path member
        rw [Path.isDotted_iff_isHidden_or, visible path member]
        exact or_iff_right (by decide)
      simp only [Bool.false_or, Bool.not_eq_true', ← Bool.not_eq_true, false_or, Bool.false_eq_true]
      exact forall₂_congr fun path member => not_congr (dotted path member)
  case walk =>
    simp only [laid.mem_paths_iff]
    simp

namespace FileTree

def broken : OsText := [point, 0xFF]

def drafts : List (OsText × FileTree) := [
  ("notes.md".toList, file (.text [])),
  (".old".toList, folder [("c.apib".toList, file .undecodable)]),
  ("docs".toList, folder [("a.apib".toList, file (.text []))]),
  (broken, file (.text []))]

def draftFiles : List (Path × Text) := [
  (⟨"docs/a.apib".toList⟩, []), (⟨broken⟩, []), (⟨".old/c.apib".toList⟩, []), (⟨"notes.md".toList⟩, [])]

theorem laysOut_drafts : (folder drafts).LaysOut draftFiles := by
  have leaf {name : OsText} (plain : (Component.name name).IsPlain) (contents : FileContents) :
      (folder [(name, file contents)]).IsTidy := by
    apply IsTidy.folder
    · exact List.forall_mem_singleton.mpr plain
    · exact List.nodup_singleton _
    · exact List.forall_mem_singleton.mpr (.file contents)
  apply LaysOut.of_mem_files
  · refine .folder ?_ (by decide) ?_
    · simp only [drafts, List.forall_mem_cons, List.not_mem_nil, false_implies, implies_true, and_true]
      refine ⟨?_, ?_, ?_, ?_⟩ <;> constructor <;> decide
    · simp only [drafts, List.forall_mem_cons, List.not_mem_nil, false_implies, implies_true, and_true]
      refine ⟨.file _, leaf ?_ _, leaf ?_ _, .file _⟩ <;> constructor <;> decide
  · have permuted : (draftFiles.map Prod.fst).Perm (((folder drafts).files true).map pathBelow) := by
      decide +kernel
    exact fun path => permuted.mem_iff

end FileTree

/-- The root is a link to the folder. The name that is no text is listed by the store only; a pattern that
it does not match makes no difference. -/
theorem Project.glob_eq_store_glob_iff_drafts :
    let tree : FileTree := .folder [("srv".toList, .folder [("in".toList, .folder FileTree.drafts)]),
      ("at".toList, .link ⟨"srv/in".toList⟩)]
    let listed (pattern : Text) := Project.glob { root := ⟨"/at".toList⟩ } tree pattern {}
    let stored (pattern : Text) := (Store.ofList FileTree.draftFiles).glob pattern {}
    tree.find ⟨"/at".toList⟩ true = .ok (.folder FileTree.drafts) ∧
      stored "*".toList = .ok [⟨FileTree.broken⟩, ⟨"notes.md".toList⟩] ∧
      listed "*".toList = .ok [⟨"notes.md".toList⟩] ∧
      (stored "**/*.apib".toList = .ok [⟨"docs/a.apib".toList⟩] ∧
        listed "**/*.apib".toList = stored "**/*.apib".toList) := by
  intro tree listed stored
  have found : tree.find ⟨"/at".toList⟩ true = .ok (.folder FileTree.drafts) := by cbv
  have both (pattern : Text) := glob_eq_store_glob_iff found FileTree.laysOut_drafts pattern {}
  have all : stored "*".toList = .ok [⟨FileTree.broken⟩, ⟨"notes.md".toList⟩] := by decide +kernel
  have nested : stored "**/*.apib".toList = .ok [⟨"docs/a.apib".toList⟩] := by decide +kernel
  refine ⟨found, all, ?_, nested, ?_⟩
  · exact ((both "*".toList).2.2.1 _ all).1.trans (congrArg Except.ok (by decide +kernel))
  · refine ((both "**/*.apib".toList).2.2.1 _ nested).2.mpr (.inr ?_)
    rw [List.forall_mem_singleton]
    rintro ⟨name, member, dotted, -⟩
    have text : Path.isDotted ⟨"docs/a.apib".toList⟩ = false := by decide +kernel
    have dots := Path.isDotted_iff.mpr ⟨name, member, dotted⟩
    exact absurd (text.symm.trans dots) (by decide)

end ApiBlueprint

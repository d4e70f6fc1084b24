import ApiBlueprint.Files.Project
import ApiBlueprint.Proofs.Include.Graph
import ApiBlueprint.Proofs.Include.Place
import ApiBlueprint.Proofs.Path.Below
import Mathlib

/-!
Which files the includes of a project read. The location of a link is below the root of the project unless
the link is absolute or climbs above the root an odd number of times. A document none of whose includes
does so is expanded alike in all trees that hold the same below the root.
-/

namespace ApiBlueprint

open Relation

namespace Transclusion

def depth (base : Option Path) : Nat := base.elim 0 fun folder => folder.descent.length

/-- A link to a location that is not below the root, seen from a folder that is. -/
def LeavesRoot (link : Text) (base : Option Path) : Prop :=
  (⟨link⟩ : Path).isAbsolute = true ∨ ((⟨link⟩ : Path).rise - depth base) % 2 = 1

instance (link : Text) (base : Option Path) : Decidable (LeavesRoot link base) :=
  inferInstanceAs (Decidable (_ ∨ _))

theorem locate_absolute {link : Text} {base : Option Path} (absolute : (⟨link⟩ : Path).isAbsolute = true) :
    locate link base = Path.normalize ⟨link⟩ := by
  cases base with
  | none => rfl
  | some folder => rw [locate, Path.join, if_pos absolute]

section Below

variable {base : Option Path} (below : ∀ folder ∈ base, folder.IsBelow) {link : Text}

include below

theorem isAbsolute_linked (relative : (⟨link⟩ : Path).isAbsolute = false) :
    (linked link base).isAbsolute = false := by
  cases base with
  | none => exact relative
  | some folder => exact Path.isAbsolute_join_relative (below folder rfl).relative relative

theorem rise_linked (relative : (⟨link⟩ : Path).isAbsolute = false) :
    (linked link base).rise = (⟨link⟩ : Path).rise - depth base := by
  cases base with
  | none => rfl
  | some folder => exact (below folder rfl).rise_join relative

theorem components_locate (relative : (⟨link⟩ : Path).isAbsolute = false) :
    (locate link base).components =
      Component.stacked (((⟨link⟩ : Path).rise - depth base) % 2) (linked link base).descent := by
  rw [locate_eq, Path.components_normalize_relative (isAbsolute_linked below relative),
    rise_linked below relative]

theorem isBelow_locate_iff : (locate link base).IsBelow ↔ ¬ LeavesRoot link base := by
  cases absolute : (⟨link⟩ : Path).isAbsolute with
  | true =>
    have outside : (locate link base).isAbsolute = true := by
      rw [locate_absolute absolute]
      exact Path.isAbsolute_normalize absolute
    exact iff_of_false (fun inside => by simp [inside.relative] at outside) (not_not.mpr (Or.inl absolute))
  | false =>
    rw [locate_eq, Path.isBelow_normalize_iff (isAbsolute_linked below absolute), rise_linked below absolute,
      LeavesRoot, absolute]
    simp

end Below

/-- A directive of a source leads to a document; links there are seen from its folder. -/
def Loads (loader : Loader) (source next : IncludeSource) : Prop :=
  ∃ link indent inclusion, source.Mentions link indent ∧ isRemote link = false ∧
    loader link source.base = .ok inclusion ∧ next = ⟨inclusion.location.parent?, inclusion.text⟩

/-- In a document that the source leads to, or in the source itself, a directive has that link, and it is
seen from that folder. -/
def Asks (loader : Loader) (start : IncludeSource) (link : Text) (base : Option Path) : Prop :=
  ∃ source indent, ReflTransGen (Loads loader) start source ∧ source.Mentions link indent ∧
    isRemote link = false ∧ source.base = base

theorem assemble_congr {replacement other : Text → Text → Except TransclusionFault Text}
    {pieces : List DocumentPiece}
    (agree : ∀ link indent, .directive link indent ∈ pieces → replacement link indent = other link indent) :
    assemble replacement pieces = assemble other pieces := by
  induction pieces with
  | nil => rfl
  | cons piece rest ih =>
    have later := ih fun link indent member => agree link indent (List.mem_cons_of_mem _ member)
    cases piece with
    | literal c => rw [assemble, assemble, later]
    | directive link indent => rw [assemble, assemble, later, agree link indent List.mem_cons_self]

section Agreeing

variable {loader other : Loader} {limit : Nat}

theorem load_congr {stack : List Path} {base : Option Path} {link : Text}
    (same : loader link base = other link base) :
    load ⟨loader, limit⟩ stack base link = load ⟨other, limit⟩ stack base link := by
  simp only [load, same]

theorem loader_of_load {stack : List Path} {base : Option Path} {link : Text} {inclusion : Inclusion}
    (loaded : load ⟨loader, limit⟩ stack base link = .ok inclusion) : loader link base = .ok inclusion := by
  unfold load at loaded
  split at loaded
  · contradiction
  · split at loaded
    · contradiction
    · rename_i found _
      exact Except.ok.inj loaded ▸ found

/-- By induction on the room. -/
theorem expand_congr {room : Nat} {stack : List Path} (start : IncludeSource)
    (agree : ∀ link base, Asks loader start link base → loader link base = other link base) :
    expand ⟨loader, limit⟩ room stack start.base start.text =
      expand ⟨other, limit⟩ room stack start.base start.text := by
  induction room generalizing start stack with
  | zero => rfl
  | succ room ih =>
    refine assemble_congr fun link indent mentions => ?_
    cases far : isRemote link with
    | true => rfl
    | false =>
      have same := agree link start.base ⟨start, indent, .refl, mentions, far, rfl⟩
      simp only [Bool.false_eq_true, if_false, ← load_congr same]
      cases loaded : load ⟨loader, limit⟩ stack start.base link with
      | error fault => rfl
      | ok inclusion =>
        let next : IncludeSource := ⟨inclusion.location.parent?, inclusion.text⟩
        have step : Loads loader start next :=
          ⟨link, indent, inclusion, mentions, far, loader_of_load loaded, rfl⟩
        have nested (stack : List Path) :
            expand ⟨loader, limit⟩ room stack next.base next.text =
              expand ⟨other, limit⟩ room stack next.base next.text := by
          refine ih next ?_
          rintro link base ⟨source, indent, path, asked⟩
          exact agree link base ⟨source, indent, .head step path, asked⟩
        exact congrArg (· >>= fun text => .ok (splice indent text)) (nested (stack ++ [inclusion.location]))

theorem transclude_congr (start : IncludeSource)
    (agree : ∀ link base, Asks loader start link base → loader link base = other link base) :
    transclude loader limit start.base start.text = transclude other limit start.base start.text := by
  rw [transclude, transclude, expand_congr start agree]

end Agreeing

section Chain

variable {loader : Loader} (start : IncludeSource)
  (kept : ∀ link base inclusion, loader link base = .ok inclusion → inclusion.location = locate link base)
  (begins : ∀ folder ∈ start.base, folder.IsBelow)

include kept begins

/-- By induction along the documents: each of them stands in a folder below the root. -/
theorem below_of_asks
    (stays : ∀ link base, Asks loader start link base → (∀ folder ∈ base, folder.IsBelow) →
      (locate link base).IsBelow)
    {link : Text} {base : Option Path} (asks : Asks loader start link base) :
    ∀ folder ∈ base, folder.IsBelow := by
  obtain ⟨source, _, path, -, -, rfl⟩ := asks
  induction path with
  | refl => exact begins
  | tail path step ih =>
    obtain ⟨link, indent, inclusion, mentions, near, loaded, rfl⟩ := step
    have inside := stays link _ ⟨_, indent, path, mentions, near, rfl⟩ ih
    rw [← kept _ _ _ loaded] at inside
    exact fun folder leads => inside.parent leads

theorem all_below_iff : (∀ link base, Asks loader start link base → (locate link base).IsBelow) ↔
    ∀ link base, Asks loader start link base → ¬ LeavesRoot link base := by
  constructor
  · intro inside link base asks
    have below := below_of_asks start kept begins (fun link base asks _ => inside link base asks) asks
    exact (isBelow_locate_iff below).mp (inside link base asks)
  · intro stays link base asks
    have below := below_of_asks start kept begins
      (fun link base asks below => (isBelow_locate_iff below).mpr (stays link base asks)) asks
    exact (isBelow_locate_iff below).mpr (stays link base asks)

end Chain

end Transclusion

namespace Project

open Transclusion

variable {project : Project} {tree other : FileTree} {link : Text} {base : Option Path}
  {inclusion : Inclusion}

theorem loader_eq_ok_iff : project.loader tree link base = .ok inclusion ↔
    inclusion.location = locate link base ∧
      tree.read (project.root.join (locate link base)) = .ok inclusion.text := by
  unfold loader
  rw [bind_eq_ok]
  constructor
  · rintro ⟨text, found, done⟩
    obtain rfl := pure_eq_ok.mp done
    exact ⟨rfl, mapError_eq_ok.mp found⟩
  · rintro ⟨placed, found⟩
    exact ⟨inclusion.text, mapError_eq_ok.mpr found, pure_eq_ok.mpr (by rw [← placed])⟩

theorem loader_congr (same : tree.read (project.root.join (locate link base)) =
    other.read (project.root.join (locate link base))) :
    project.loader tree link base = project.loader other link base := by
  simp only [loader, same]

/-- The text of a link is read at the root followed by its location. Seen from a folder below the root, that
is below the root exactly if the link is relative and climbs above the root an even number of times; by an
odd number it begins with one `..`, and for an absolute link the root counts for nothing. From a document
below the root all includes stay there exactly if no link that is come to leaves it; then the expansion is
the same in every tree in which the same is read below the root. -/
theorem reads_below_iff (project : Project) :
    (∀ base : Option Path, (∀ folder ∈ base, folder.IsBelow) → ∀ link : Text,
      (∀ tree inclusion, project.loader tree link base = .ok inclusion ↔
        inclusion.location = locate link base ∧
          tree.read (project.root.join (locate link base)) = .ok inclusion.text) ∧
      ((⟨link⟩ : Path).isAbsolute = true →
        project.root.join (locate link base) = Path.normalize ⟨link⟩) ∧
      ((⟨link⟩ : Path).isAbsolute = false → (locate link base).components =
        Component.stacked (((⟨link⟩ : Path).rise - depth base) % 2) (linked link base).descent) ∧
      ((locate link base).IsBelow ↔ ¬ LeavesRoot link base)) ∧
    ∀ (tree : FileTree) (document : Document), (∀ origin ∈ document.origin, origin.IsBelow) →
      let asks := Asks (project.loader tree) ⟨document.base, document.text⟩
      ((∀ link base, asks link base → (locate link base).IsBelow) ↔
        ∀ link base, asks link base → ¬ LeavesRoot link base) ∧
      ((∀ link base, asks link base → ¬ LeavesRoot link base) →
        ∀ other : FileTree, (∀ path : Path, path.IsBelow →
            tree.read (project.root.join path) = other.read (project.root.join path)) →
          ∀ limit, transclude (project.loader tree) limit document.base document.text =
            transclude (project.loader other) limit document.base document.text) := by
  constructor
  · intro base below link
    refine ⟨fun tree inclusion => loader_eq_ok_iff, fun absolute => ?_, components_locate below,
      isBelow_locate_iff below⟩
    have outside : (locate link base).isAbsolute = true := by
      rw [locate_absolute absolute]
      exact Path.isAbsolute_normalize absolute
    rw [Path.join, if_pos outside, locate_absolute absolute]
  · intro tree document placed asks
    have begins : ∀ folder ∈ document.base, folder.IsBelow := by
      intro folder leads
      obtain ⟨origin, known, above⟩ := Option.bind_eq_some_iff.mp leads
      exact (placed origin known).parent above
    have kept (link : Text) (base : Option Path) (inclusion : Inclusion)
        (loaded : project.loader tree link base = .ok inclusion) : inclusion.location = locate link base :=
      (loader_eq_ok_iff.mp loaded).1
    have inside := all_below_iff ⟨document.base, document.text⟩ kept begins
    refine ⟨inside, fun stays other agree limit => ?_⟩
    exact transclude_congr ⟨document.base, document.text⟩ fun link base asked =>
      loader_congr (agree _ (inside.mpr stays link base asked))

def guarded : FileTree :=
  .folder [("r".toList, .folder [("k".toList, .file (.text "in".toList))]), ("s".toList, .file (.text "out".toList))]

/-- What stands beside the root is nothing to a document that includes a file below it, but a link with one
`..` more leads there. -/
theorem reads_below_iff_guarded :
    let project : Project := { root := ⟨"/r".toList⟩ }
    let document : Document := ⟨":[](../k)".toList, some ⟨"a/x".toList⟩⟩
    let expanded (tree : FileTree) := transclude (project.loader tree) 16 document.base document.text
    (∀ origin ∈ document.origin, origin.IsBelow) ∧
      project.loader guarded "../k".toList document.base = .ok ⟨⟨"k".toList⟩, "in".toList⟩ ∧
      project.loader guarded "../../s".toList document.base = .ok ⟨⟨"../s".toList⟩, "out".toList⟩ ∧
      ¬ (locate "../../s".toList document.base).IsBelow ∧
      ∀ other : FileTree, (∀ path : Path, path.IsBelow →
          guarded.read (project.root.join path) = other.read (project.root.join path)) →
        expanded guarded = expanded other := by
  intro project document expanded
  let start : IncludeSource := ⟨document.base, document.text⟩
  let included : IncludeSource := ⟨some ⟨[]⟩, "in".toList⟩
  obtain ⟨step, chain⟩ := reads_below_iff project
  have placed : ∀ origin ∈ document.origin, origin.IsBelow := by decide
  have begins : ∀ folder ∈ document.base, folder.IsBelow := by decide
  obtain ⟨-, -, -, outside⟩ := step document.base begins "../../s".toList
  have near : project.loader guarded "../k".toList document.base = .ok ⟨⟨"k".toList⟩, "in".toList⟩ :=
    loader_eq_ok_iff.mpr ⟨by decide, by cbv⟩
  have far : project.loader guarded "../../s".toList document.base = .ok ⟨⟨"../s".toList⟩, "out".toList⟩ :=
    loader_eq_ok_iff.mpr ⟨by decide, by cbv⟩
  have single : Directive.pieces start.text = [.directive "../k".toList []] := by decide +kernel
  have plain : Directive.pieces included.text = [.literal 'i', .literal 'n'] := by decide +kernel
  have mentioned {source : IncludeSource} {link indent : Text} (known : source = start ∨ source = included)
      (mentions : source.Mentions link indent) : source = start ∧ link = "../k".toList := by
    unfold IncludeSource.Mentions at mentions
    rcases known with rfl | rfl
    · rw [single, List.mem_singleton] at mentions
      cases mentions
      exact ⟨rfl, rfl⟩
    · simp [plain] at mentions
  have known {source : IncludeSource} (path : ReflTransGen (Loads (project.loader guarded)) start source) :
      source = start ∨ source = included := by
    induction path with
    | refl => exact Or.inl rfl
    | tail path step ih =>
      obtain ⟨link, indent, inclusion, mentions, -, found, rfl⟩ := step
      obtain ⟨rfl, rfl⟩ := mentioned ih mentions
      obtain rfl := Except.ok.inj (near.symm.trans found)
      exact Or.inr rfl
  have stays (link : Text) (base : Option Path) (asks : Asks (project.loader guarded) start link base) :
      ¬ LeavesRoot link base := by
    obtain ⟨source, indent, path, mentions, -, rfl⟩ := asks
    obtain ⟨rfl, rfl⟩ := mentioned (known path) mentions
    decide
  obtain ⟨-, same⟩ := chain guarded document placed
  exact ⟨placed, near, far, fun inside => outside.mp inside (by decide),
    fun other agree => same stays other agree 16⟩

end Project
end ApiBlueprint

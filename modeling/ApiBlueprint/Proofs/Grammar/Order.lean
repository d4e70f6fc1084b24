import ApiBlueprint.Proofs.Grammar.Built
import ApiBlueprint.Proofs.Grammar.Covered

/-!
What is logged has its form, and its lines rise along the log. Only the resource and the action of an
endpoint have the same line.
-/

namespace ApiBlueprint

def IsLineNumber (source : Text) (number : Nat) : Prop :=
  1 ≤ number ∧ number ≤ (splitLines source).length

def Declares (source : Text) (number : Nat) (declaration : Declaration) : Prop :=
  ∃ line rest heading, line :: rest <:+ splitLines source ∧ line.number = number ∧
    Heading.detect? line rest.head? = some heading ∧
    Declaration.ofHeading heading.text = declaration

def declaredHeaders (source : Text) (number : Nat) : List Header :=
  match (splitLines source).drop (number - 1) with
  | [] => []
  | line :: rest => Payload.writtenHeaders line (Payload.content line rest)

section Lines

variable {source : Text} {line : Line} {rest : List Line}

theorem number_of_suffix {before : List Line} (whole : before ++ line :: rest = splitLines source) :
    line.number = before.length + 1 := by
  have numbers := splitLines_numbers source
  rw [← whole] at numbers
  have here := congrArg (fun numbers => numbers[before.length]?) numbers
  simp only [List.map_append, List.map_cons, List.length_append, List.length_cons] at here
  rw [List.getElem?_append_right (Nat.le_of_eq (List.length_map _)), List.length_map, Nat.sub_self,
    List.getElem?_range' (by omega)] at here
  have same := Option.some.inj here
  omega

theorem isLineNumber_of_suffix (suffix : line :: rest <:+ splitLines source) :
    IsLineNumber source line.number := by
  obtain ⟨before, whole⟩ := suffix
  have number := number_of_suffix whole
  have length := congrArg List.length whole
  rw [List.length_append, List.length_cons] at length
  constructor
  · omega
  · omega

theorem declaredHeaders_of_suffix (suffix : line :: rest <:+ splitLines source) :
    declaredHeaders source line.number = Payload.writtenHeaders line (Payload.content line rest) := by
  obtain ⟨before, whole⟩ := suffix
  have behind : (splitLines source).drop (line.number - 1) = line :: rest := by
    rw [← whole, number_of_suffix whole]
    exact List.drop_left
  rw [declaredHeaders, behind]

theorem isLine_of_mem_splitLines (member : line ∈ splitLines source) : Text.IsLine line.text := by
  have inTexts := List.mem_map_of_mem (f := Line.text) member
  rw [splitLines_texts] at inTexts
  obtain ⟨raw, inRaw, same⟩ := List.mem_map.mp inTexts
  obtain ⟨ending, -, whole⟩ := Line.exists_ending raw
  intro feed
  apply Text.not_mem_of_mem_splitOn inRaw
  rw [whole, same]
  exact List.mem_append_left ending feed

end Lines

namespace Entry

def line? : Entry → Option Nat
  | opens (.resource _ _ line) => some line
  | opens (.action _ _ _ line) => some line
  | payload _ (.ok found) => some found.line
  | _ => none

def IsWellFormed (source : Text) : Entry → Prop
  | opens (.group title) => ∀ text ∈ title, IsPhrase text
  | opens (.resource _ uriTemplate line) => IsTarget uriTemplate ∧ IsLineNumber source line
  | opens (.action _ _ uriTemplate line) =>
    (∀ uri ∈ uriTemplate, IsTarget uri) ∧ IsLineNumber source line
  | payload kind (.ok found) =>
    found.IsWellFormed (declaredHeaders source found.line) ∧ found.signature.payloadKind = kind ∧
      IsLineNumber source found.line
  | _ => True

theorem isWellFormed_of_quiet {source : Text} {entry : Entry} (noNode : entry.opening? = none)
    (noLine : entry.line? = none) : entry.IsWellFormed source := by
  cases entry with
  | opens opening => cases noNode
  | payload kind read =>
    cases read with
    | error failure => exact trivial
    | ok found => cases noLine
  | _ => exact trivial

/-- A resource and its action, which the same endpoint declares. -/
def AreEndpoint (source : Text) (earlier later : Entry) : Prop :=
  ∃ method uriTemplate line, earlier = .opens (.resource none uriTemplate line) ∧
    later = .opens (.action none method none line) ∧
    Declares source line (.endpoint method uriTemplate)

/-- How two entries of a log stand to each other. -/
structure Precedes (source : Text) (earlier later : Entry) : Prop where
  above : ∀ first ∈ earlier.line?, ∀ second ∈ later.line?,
    first < second ∨ AreEndpoint source earlier later
  unnamed : later = .opens (.group none) → earlier.opening? = none

end Entry

theorem Node.length_ofLog (opening : Option Opening) (chapter log : List Entry) :
    (ofLog opening chapter log).length = (log.filterMap Entry.opening?).length + 1 := by
  induction log generalizing opening chapter with
  | nil => rfl
  | cons entry log ih =>
    rw [ofLog, List.filterMap_cons]
    cases entry.opening? with
    | none => exact ih opening _
    | some next => exact congrArg (· + 1) (ih (some next) [])

namespace Reading

variable {source : Text} {state next : Reading} {line : Line} {rest lines : List Line}
  {log : List Entry} {taken : Nat}

theorem entries_cases (state : Reading) (line : Line) (rest : List Line) :
    (∃ heading, Heading.detect? line rest.head? = some heading ∧
      state.entries line rest = headingEntries state.blueprint heading line.number) ∨
    (∃ kind signature, state.entries line rest =
      [.payload kind (readPayload kind signature line (Payload.content line rest))]) ∨
    ∀ entry ∈ state.entries line rest, entry.opening? = none ∧ entry.line? = none := by
  have structured (tree : Blueprint) :
      (∃ heading, Heading.detect? line rest.head? = some heading ∧
        structureEntries tree line rest = headingEntries tree heading line.number) ∨
      (∃ kind signature, structureEntries tree line rest =
        [.payload kind (readPayload kind signature line (Payload.content line rest))]) ∨
      ∀ entry ∈ structureEntries tree line rest, entry.opening? = none ∧ entry.line? = none := by
    unfold structureEntries
    split
    · rename_i heading found
      exact Or.inl ⟨heading, found, rfl⟩
    · split
      · rename_i kind signature found
        exact Or.inr (Or.inl ⟨kind, signature, rfl⟩)
      · exact Or.inr (Or.inr (List.forall_mem_singleton.mpr ⟨rfl, rfl⟩))
  unfold entries
  split
  · exact Or.inr (Or.inr (List.forall_mem_singleton.mpr ⟨rfl, rfl⟩))
  · split
    · split
      · exact Or.inr (Or.inr (List.forall_mem_nil _))
      · split
        · exact Or.inr (Or.inr (List.forall_mem_singleton.mpr ⟨rfl, rfl⟩))
        · exact structured state.blueprint
    · exact structured state.blueprint

/-- What holds of the entries of one line, for the tree that was read before it. -/
structure AreOf (source : Text) (number : Nat) (tree : Blueprint) (entries : List Entry) : Prop where
  wellFormed : ∀ entry ∈ entries, entry.IsWellFormed source
  here : ∀ entry ∈ entries, ∀ line ∈ entry.line?, line = number
  ordered : entries.Pairwise (Entry.Precedes source)
  unnamed : .opens (.group none) ∈ entries → tree.groups = []

section Entries

variable {number : Nat} {tree : Blueprint} {entry : Entry}

theorem areOf_singleton (wellFormed : entry.IsWellFormed source)
    (here : ∀ line ∈ entry.line?, line = number) (named : entry ≠ .opens (.group none)) :
    AreOf source number tree [entry] where
  wellFormed := List.forall_mem_singleton.mpr wellFormed
  here := List.forall_mem_singleton.mpr here
  ordered := List.pairwise_singleton _ _
  unnamed := fun member => absurd (List.mem_singleton.mp member).symm named

/-- A group without a name comes first, and only into a tree without groups. -/
theorem areOf_behind_unnamed {entries : List Entry} (areOf : AreOf source number tree entries)
    (named : .opens (.group none) ∉ entries) :
    AreOf source number tree ((unnamedGroup tree).map .opens ++ entries) := by
  unfold unnamedGroup
  split
  · rename_i empty
    refine ⟨?_, ?_, ?_, fun _ => empty⟩
    · exact List.forall_mem_cons.mpr ⟨(fun text none => nomatch none), areOf.wellFormed⟩
    · exact List.forall_mem_cons.mpr ⟨(fun line none => nomatch none), areOf.here⟩
    · refine List.pairwise_cons.mpr ⟨?_, areOf.ordered⟩
      intro entry member
      constructor
      · exact fun line none => nomatch none
      · intro unnamed
        exact absurd (unnamed ▸ member) named
  · exact areOf

theorem headingEntries_areOf {heading : Heading} (suffix : line :: rest <:+ splitLines source)
    (found : Heading.detect? line rest.head? = some heading) (tree : Blueprint) :
    AreOf source line.number tree (headingEntries tree heading line.number) := by
  have wellFormed := Declaration.ofHeading_isWellFormed (Heading.detect_trimmed found)
  have isLine := isLineNumber_of_suffix suffix
  have here : ∀ number ∈ some line.number, number = line.number :=
    fun number same => (Option.some.inj same).symm
  unfold headingEntries
  cases declares : Declaration.ofHeading heading.text with
  | group name =>
    rw [declares] at wellFormed
    apply areOf_singleton
    · intro text same
      exact Option.some.inj same ▸ wellFormed
    · exact fun number none => nomatch none
    · exact fun same => nomatch same
  | action name method uriTemplate =>
    rw [declares] at wellFormed
    exact areOf_singleton ⟨wellFormed, isLine⟩ here (fun same => nomatch same)
  | resource name uriTemplate =>
    rw [declares] at wellFormed
    simp only [List.map_append]
    apply areOf_behind_unnamed
    · exact areOf_singleton ⟨wellFormed, isLine⟩ here (fun same => nomatch same)
    · simp
  | endpoint method uriTemplate =>
    rw [declares] at wellFormed
    simp only [List.map_append]
    apply areOf_behind_unnamed
    · have together : Entry.AreEndpoint source (.opens (.resource none uriTemplate line.number))
          (.opens (.action none method none line.number)) :=
        ⟨method, uriTemplate, line.number, rfl, rfl, line, rest, heading, suffix, rfl, found, declares⟩
      have ofAction : AreOf source line.number tree [.opens (.action none method none line.number)] :=
        areOf_singleton ⟨(fun uri none => nomatch none), isLine⟩ here (fun same => nomatch same)
      constructor
      · exact List.forall_mem_cons.mpr ⟨⟨wellFormed, isLine⟩, ofAction.wellFormed⟩
      · exact List.forall_mem_cons.mpr ⟨here, ofAction.here⟩
      · refine List.pairwise_pair.mpr ⟨?_, fun same => nomatch same⟩
        exact fun _ _ _ _ => Or.inr together
      · simp
    · simp
  | plain =>
    simp only
    split
    · exact areOf_singleton trivial (fun number none => nomatch none) (fun same => nomatch same)
    · exact areOf_singleton trivial (fun number none => nomatch none) (fun same => nomatch same)

theorem payload_areOf (suffix : line :: rest <:+ splitLines source) (tree : Blueprint)
    (kind : PayloadKind) (signature : Text) : AreOf source line.number tree
      [.payload kind (readPayload kind signature line (Payload.content line rest))] := by
  cases read : readPayload kind signature line (Payload.content line rest) with
  | error failure =>
    exact areOf_singleton trivial (fun number none => nomatch none) (fun same => nomatch same)
  | ok payload =>
    have oneLine : ∀ inside ∈ Payload.content line rest, Text.IsLine inside.text := by
      intro inside member
      have inRest := (List.takeWhile_prefix _).subset member
      exact isLine_of_mem_splitLines (suffix.subset (List.mem_cons_of_mem line inRest))
    obtain ⟨wellFormed, here, same⟩ := readPayload_isWellFormed oneLine read
    apply areOf_singleton
    · rw [← declaredHeaders_of_suffix suffix] at wellFormed
      rw [Entry.IsWellFormed, here]
      exact ⟨wellFormed, same, isLineNumber_of_suffix suffix⟩
    · intro number same
      exact (Option.some.inj same).symm.trans here
    · exact fun same => nomatch same

theorem entries_areOf (state : Reading) (suffix : line :: rest <:+ splitLines source) :
    AreOf source line.number state.blueprint (state.entries line rest) := by
  rcases entries_cases state line rest with ⟨heading, found, same⟩ | ⟨kind, signature, same⟩ | quiet
  · rw [same]
    exact headingEntries_areOf suffix found state.blueprint
  · rw [same]
    exact payload_areOf suffix state.blueprint kind signature
  · refine ⟨?_, ?_, List.pairwise_of_forall_mem_list ?_, ?_⟩
    · intro entry member
      exact Entry.isWellFormed_of_quiet (quiet entry member).1 (quiet entry member).2
    · intro entry member number numbered
      rw [(quiet entry member).2] at numbered
      cases numbered
    · intro earlier inEntries later member
      constructor
      · intro first numbered
        rw [(quiet earlier inEntries).2] at numbered
        cases numbered
      · exact fun _ => (quiet earlier inEntries).1
    · exact fun member => nomatch (quiet _ member).1

end Entries

/-- What holds of a log and the lines ahead. -/
structure Traces (source : Text) (lines : List Line) (log : List Entry) : Prop where
  suffix : lines <:+ splitLines source
  wellFormed : ∀ entry ∈ log, entry.IsWellFormed source
  behind : ∀ entry ∈ log, ∀ number ∈ entry.line?, ∀ line ∈ lines, number < line.number
  ordered : log.Pairwise (Entry.Precedes source)

theorem no_opening_of_no_groups (records : state.blueprint.Records log)
    (empty : state.blueprint.groups = []) : ∀ entry ∈ log, entry.opening? = none := by
  have nodes := congrArg List.length records.nodes
  rw [Node.length_ofLog, Blueprint.nodes, empty] at nodes
  have none : (log.filterMap Entry.opening?).length = 0 := (Nat.succ.inj nodes).symm
  exact List.filterMap_eq_nil_iff.mp (List.length_eq_zero_iff.mp none)

theorem Traces.step (traces : Traces source (line :: rest) log)
    (records : state.blueprint.Records log) (taken : Nat) :
    Traces source (rest.drop taken) (log ++ state.entries line rest) := by
  have areOf := entries_areOf state traces.suffix
  have rising := (splitLines_rising source).sublist traces.suffix.sublist
  obtain ⟨below, -⟩ := List.pairwise_cons.mp rising
  constructor
  · exact (List.drop_suffix taken rest).trans ((List.suffix_cons line rest).trans traces.suffix)
  · exact List.forall_mem_append.mpr ⟨traces.wellFormed, areOf.wellFormed⟩
  · intro entry member number numbered ahead inDrop
    have inRest := List.mem_of_mem_drop inDrop
    rcases List.mem_append.mp member with before | new
    · exact traces.behind entry before number numbered ahead (List.mem_cons_of_mem line inRest)
    · rw [areOf.here entry new number numbered]
      exact below ahead inRest
  · refine List.pairwise_append.mpr ⟨traces.ordered, areOf.ordered, ?_⟩
    intro earlier inLog later inEntries
    constructor
    · intro first firstLine second secondLine
      rw [areOf.here later inEntries second secondLine]
      exact Or.inl (traces.behind earlier inLog first firstLine line List.mem_cons_self)
    · intro unnamed
      have empty := areOf.unnamed (unnamed ▸ inEntries)
      exact no_opening_of_no_groups records empty earlier inLog

/-- By induction on the steps. -/
theorem Reached.traces (reached : Reached source state lines log) : Traces source lines log := by
  induction reached with
  | start =>
    exact ⟨List.suffix_rfl, List.forall_mem_nil _, List.forall_mem_nil _, List.Pairwise.nil⟩
  | step reached stepped ih => exact ih.step reached.holds.records _

end Reading
end ApiBlueprint

import ApiBlueprint.Proofs.Grammar.Built
import ApiBlueprint.Proofs.Grammar.Layout

/-!
The line of a response and the block below it, read back: the block is the body, whatever stands in it
and however deep it is indented.
-/

namespace ApiBlueprint

open Render

def Payload.responseLine (width status : Nat) : Text :=
  List.replicate width ' ' ++ "+ Response ".toList ++ Text.ofNat status

namespace Payload

section ResponseLine

variable {width status : Nat}

theorem responseLine_eq (width status : Nat) : responseLine width status =
    List.replicate width ' ' ++
      '+' :: ' ' :: (PayloadKind.response.keyword ++ ' ' :: Text.ofNat status) :=
  List.append_assoc _ _ _

theorem start_responseLine (width status : Nat) :
    ∃ rest, Text.trimStart (responseLine width status) = '+' :: rest := by
  rw [responseLine_eq, Text.trimStart, List.dropWhile_append_of_pos (space_spaces width)]
  exact ⟨_, rfl⟩

theorem indent_responseLine (width status number : Nat) :
    Line.indent ⟨responseLine width status, number⟩ = width := by
  rw [Line.indent, responseLine_eq, indentWidth_spaces]
  rfl

theorem responseLine_breaks (shallow : width ≤ 3) (status number : Nat) :
    Line.Breaks ⟨responseLine width status, number⟩ := by
  obtain ⟨rest, start⟩ := start_responseLine width status
  refine Line.breaks_of_start start ?_ (by decide)
  rw [indent_responseLine]
  exact shallow

theorem marked_spaces (shallow : width ≤ 3) {c : Char} (solid : Text.isSpace c = false) (rest : Text) :
    PayloadItem.marked? (List.replicate width ' ' ++ c :: rest) = PayloadItem.marked? (c :: rest) := by
  have spaces := space_spaces width
  have first : ((c :: rest).takeWhile Text.isSpace).length = 0 := by
    rw [List.takeWhile_cons_of_neg (by simp [solid]), List.length_nil]
  have count : ((List.replicate width ' ' ++ c :: rest).takeWhile Text.isSpace).length = width := by
    rw [List.takeWhile_append_of_pos spaces, List.length_append, first, List.length_replicate,
      Nat.add_zero]
  have start : Text.trimStart (List.replicate width ' ' ++ c :: rest) = Text.trimStart (c :: rest) :=
    List.dropWhile_append_of_pos spaces
  unfold PayloadItem.marked?
  rw [start, count, first, if_neg (Nat.not_lt.mpr shallow), if_neg (Nat.not_lt_zero 3)]

theorem keyword_responseLine (shallow : width ≤ 3) (status : Nat) :
    PayloadItem.keyword? (responseLine width status) = some (.response, ' ' :: Text.ofNat status) := by
  rw [responseLine_eq, PayloadItem.keyword?, marked_spaces shallow (by decide)]
  exact PayloadItem.keyword_item .response (Or.inr rfl)

theorem ofRest_status (least : 100 ≤ status) (most : status ≤ 599) :
    PayloadItem.ofRest .response (' ' :: Text.ofNat status) = .ok ⟨.response status, none⟩ := by
  let bare : Payload := { signature := .response status, line := 0 }
  have canonical : bare.IsCanonical :=
    ⟨rfl, ⟨least, most⟩, by simp [bare], by simp [bare], by simp [bare], by simp [bare], by simp [bare]⟩
  have read := PayloadItem.ofRest_item canonical
  have rest : spaced (some (Text.ofNat status)) ++ spaced none = ' ' :: Text.ofNat status :=
    List.append_nil _
  rwa [← rest]

theorem isRow_responseLine (least : 100 ≤ status) (most : status ≤ 599) :
    IsRow (responseLine width status) := by
  have spaces : IsRow (List.replicate width ' ') := IsRow.replicate width (by decide)
  have keyword : IsRow "+ Response ".toList := by decide
  have signature : (Signature.response status).IsCanonical := ⟨least, most⟩
  exact (spaces.append keyword).append (signature.isRow _ rfl)

end ResponseLine

section Build

variable {signature : Signature} {first : Line} {inside : List Line} {above below : List Text}

theorem build_quiet (quiet : ∀ line ∈ inner first inside, PayloadItem.section? line.text = none) :
    build ⟨signature, none⟩ first inside =
      .ok ⟨signature, none, [], [], dedentBlock (inner first inside), none, first.number⟩ := by
  have none : sections (inner first inside) = [] := by
    have all := sections_quiet [] quiet
    rwa [List.append_nil] at all
  unfold build
  simp only
  split
  · rfl
  · rename_i some
    exact absurd none some

theorem texts_inner (first : Line) (inside : List Line) :
    (inner first inside).map Line.text = (inside.map Line.text).map (Line.dedent (first.indent + 4)) := by
  rw [inner, List.map_map, List.map_map]
  rfl

theorem blank_dedented (blank : ∀ text ∈ above, Text.isBlank text = true) (width : Nat) :
    ∀ text ∈ above.map (Line.dedent width), Text.isBlank text = true := by
  intro text member
  obtain ⟨original, inside, rfl⟩ := List.mem_map.mp member
  rw [Line.isBlank_dedent]
  exact blank original inside

theorem build_blank (blank : ∀ text ∈ inside.map Line.text, Text.isBlank text = true) :
    build ⟨signature, none⟩ first inside = .ok { signature, line := first.number } := by
  have blankInner := blank_dedented blank (first.indent + 4)
  rw [← texts_inner] at blankInner
  rw [build_quiet, dedentBlock_blank rfl blankInner]
  intro line member
  exact section_blank (blankInner _ (List.mem_map_of_mem member))

theorem build_block {body : Text} (isBlock : IsBlock body) {deeper : Nat} (deep : 4 ≤ deeper)
    (blankAbove : ∀ text ∈ above, Text.isBlank text = true)
    (blankBelow : ∀ text ∈ below, Text.isBlank text = true)
    (texts : inside.map Line.text =
      above ++ ((body.splitOn '\n').map (indented (first.indent + 4 + deeper)) ++ below)) :
    build ⟨signature, none⟩ first inside =
      .ok { signature, body := some body, line := first.number } := by
  have blankAbove' := blank_dedented blankAbove (first.indent + 4)
  have blankBelow' := blank_dedented blankBelow (first.indent + 4)
  have rows : ((body.splitOn '\n').map (indented (first.indent + 4 + deeper))).map
      (Line.dedent (first.indent + 4)) = (body.splitOn '\n').map (indented deeper) := by
    rw [List.map_map]
    exact List.map_congr_left fun line _ => dedent_indented _ deeper line
  have same : (inner first inside).map Line.text = above.map (Line.dedent (first.indent + 4)) ++
      ((body.splitOn '\n').map (indented deeper) ++ below.map (Line.dedent (first.indent + 4))) := by
    rw [texts_inner, texts, List.map_append, List.map_append, rows]
  rw [build_quiet, dedentBlock_between isBlock blankAbove' blankBelow' same]
  intro line member
  have inTexts : line.text ∈ (inner first inside).map Line.text := List.mem_map_of_mem member
  rw [same] at inTexts
  rcases List.mem_append.mp inTexts with before | inTexts
  · exact section_blank (blankAbove' _ before)
  · rcases List.mem_append.mp inTexts with inBlock | behind
    · obtain ⟨row, -, written⟩ := List.mem_map.mp inBlock
      rw [← written]
      exact section_indented deep row
    · exact section_blank (blankBelow' _ behind)

end Build
end Payload

/-- The line is that of a response, and it comes in an action, outside of fences. -/
structure Reading.IsAtResponse (state : Reading) (width status : Nat) (item : Line) : Prop where
  shallow : width ≤ 3
  least : 100 ≤ status
  most : status ≤ 599
  written : item.text = Payload.responseLine width status
  inAction : state.scope = .action
  unfenced : state.fence = none

section Step

variable {width status : Nat} {item : Line} {state : Reading} {inside tail : List Line}

theorem Reading.entries_of_start {c : Char} {rest : Text} (start : Text.trimStart item.text = c :: rest)
    (plain : Fence.isMarker c = false) (noLetter : Text.isLetter c = false)
    (unfenced : state.fence = none) (lines : List Line) :
    state.entries item lines = structureEntries state.blueprint item lines := by
  have noFence := Fence.opening_none_of_start start plain
  have noEntry := Metadata.ofLine_none_of_start start noLetter
  have solid := Line.not_blank_of_start start
  obtain ⟨blueprint, scope, fence, inMetadata⟩ := state
  obtain rfl := unfenced
  cases inMetadata <;> simp [entries, Fence.advance, noFence, noEntry, solid]

theorem append_takeWhile_blank (inside tail : List Line) :
    inside ++ tail = (inside ++ tail.takeWhile Line.isBlank) ++ tail.dropWhile Line.isBlank := by
  rw [List.append_assoc, List.takeWhile_append_dropWhile]

theorem blank_of_mem {line : Line} (member : line ∈ tail.takeWhile Line.isBlank) :
    Text.isBlank line.text = true := by
  have blank : line.isBlank = true := List.mem_takeWhile_imp member
  exact blank

/-- Of the lines behind those that are deep enough, the blank ones belong to an item. -/
theorem Payload.content_blank (deep : ∀ line ∈ inside, Line.IsDeep (item.indent + 4) line.text)
    (ends : ∀ line ∈ (tail.dropWhile Line.isBlank).head?, ¬ Line.IsDeep (item.indent + 4) line.text) :
    content item (inside ++ tail) = inside ++ tail.takeWhile Line.isBlank := by
  rw [append_takeWhile_blank inside tail]
  exact content_between
    (List.forall_mem_append.mpr ⟨deep, fun line member => Or.inl (blank_of_mem member)⟩) ends

variable (isAt : state.IsAtResponse width status item)
  (ends : ∀ line ∈ (tail.dropWhile Line.isBlank).head?, ¬ Line.IsDeep (width + 4) line.text)

include isAt

theorem Reading.IsAtResponse.indent : item.indent = width := by
  rw [Line.indent, isAt.written]
  exact Payload.indent_responseLine width status 0

include ends

theorem Reading.IsAtResponse.step {payload : Payload}
    (deep : ∀ line ∈ inside, Line.IsDeep (width + 4) line.text)
    (built : Payload.build ⟨.response status, none⟩ item (inside ++ tail.takeWhile Line.isBlank) =
      .ok payload) :
    ∃ taken, state.step item (inside ++ tail) =
        .ok (({ state with inMetadata := false } : Reading).addPayload payload, taken) ∧
      (inside ++ tail).drop taken = tail.dropWhile Line.isBlank ∧
      state.entries item (inside ++ tail) = [.payload .response (.ok payload)] := by
  let late : Reading := { state with inMetadata := false }
  obtain ⟨rest, start⟩ := Payload.start_responseLine width status
  rw [← isAt.written] at start
  rw [← isAt.indent] at deep ends
  have content := Payload.content_blank deep ends
  have dropped : (inside ++ tail).drop (inside ++ tail.takeWhile Line.isBlank).length =
      tail.dropWhile Line.isBlank := by
    rw [append_takeWhile_blank inside tail]
    exact List.drop_left
  have keyword : PayloadItem.keyword? item.text = some (.response, ' ' :: Text.ofNat status) := by
    rw [isAt.written]
    exact Payload.keyword_responseLine isAt.shallow status
  have noHeading := Heading.detect_none_of_start start (by decide)
  have signed := Payload.ofRest_status isAt.least isAt.most
  generalize inside ++ tail.takeWhile Line.isBlank = taken at content dropped built
  have read : readPayload .response (' ' :: Text.ofNat status) item taken = .ok payload := by
    rw [readPayload, signed]
    exact bind_eq_ok.mpr ⟨_, rfl, built⟩
  have entered : late.enterPayload .response (' ' :: Text.ofNat status) item taken =
      .ok (late.addPayload payload) := by
    unfold enterPayload
    rw [signed]
    refine bind_eq_ok.mpr ⟨_, rfl, ?_⟩
    rw [if_pos isAt.inAction]
    exact bind_eq_ok.mpr ⟨payload, built, rfl⟩
  refine ⟨taken.length, ?_, dropped, ?_⟩
  · rw [step_of_start start (by decide) (by decide) isAt.unfenced, readStructure, noHeading, keyword]
    simp only [content]
    exact bind_eq_ok.mpr ⟨_, entered, rfl⟩
  · rw [entries_of_start start (by decide) (by decide) isAt.unfenced, structureEntries, noHeading, keyword]
    simp only [content, read]

variable {gap : Line} (empty : gap.text = [])

include empty

theorem Reading.IsAtResponse.step_block {block : List Line} {body : Text} (isBlock : IsBlock body)
    {deeper : Nat} (deep : 4 ≤ deeper)
    (rows : block.map Line.text = (body.splitOn '\n').map (indented (width + 4 + deeper))) :
    ∃ taken, state.step item (gap :: block ++ tail) =
        .ok (({ state with inMetadata := false } : Reading).addPayload
          { signature := .response status, body := some body, line := item.number }, taken) ∧
      (gap :: block ++ tail).drop taken = tail.dropWhile Line.isBlank ∧
      state.entries item (gap :: block ++ tail) = [.payload .response
        (.ok { signature := .response status, body := some body, line := item.number })] := by
  have inBlock : ∀ line ∈ gap :: block, Line.IsDeep (width + 4) line.text := by
    intro line member
    rcases List.mem_cons.mp member with rfl | below
    · exact Or.inl (empty ▸ rfl)
    · have inRows : line.text ∈ block.map Line.text := List.mem_map_of_mem below
      rw [rows] at inRows
      obtain ⟨row, -, written⟩ := List.mem_map.mp inRows
      rw [← written]
      exact isDeep_indented (Nat.le_add_right _ _) row
  have blankBelow : ∀ text ∈ (tail.takeWhile Line.isBlank).map Line.text, Text.isBlank text = true := by
    intro text member
    obtain ⟨line, inside, rfl⟩ := List.mem_map.mp member
    exact blank_of_mem inside
  have texts : (gap :: block ++ tail.takeWhile Line.isBlank).map Line.text =
      [[]] ++ ((body.splitOn '\n').map (indented (item.indent + 4 + deeper)) ++
        (tail.takeWhile Line.isBlank).map Line.text) := by
    rw [List.map_append, List.map_cons, empty, rows, isAt.indent]
    rfl
  exact isAt.step ends inBlock
    (Payload.build_block isBlock deep (List.forall_mem_singleton.mpr rfl) blankBelow texts)

theorem Reading.IsAtResponse.step_gap :
    ∃ taken, state.step item (gap :: tail) =
        .ok (({ state with inMetadata := false } : Reading).addPayload
          { signature := .response status, line := item.number }, taken) ∧
      (gap :: tail).drop taken = tail.dropWhile Line.isBlank := by
  have blank : ∀ text ∈ ([gap] ++ tail.takeWhile Line.isBlank).map Line.text, Text.isBlank text = true := by
    intro text member
    obtain ⟨line, inside, rfl⟩ := List.mem_map.mp member
    rcases List.mem_append.mp inside with first | below
    · rw [List.mem_singleton.mp first, empty]
      rfl
    · exact blank_of_mem below
  have deep : ∀ line ∈ [gap], Line.IsDeep (width + 4) line.text :=
    List.forall_mem_singleton.mpr (Or.inl (empty ▸ rfl))
  obtain ⟨taken, stepped, dropped, -⟩ := isAt.step ends deep (Payload.build_blank blank)
  exact ⟨taken, stepped, dropped⟩

end Step

end ApiBlueprint

import ApiBlueprint.Grammar.Reading
import ApiBlueprint.Proofs.Outcome
import Mathlib.Data.List.Basic

/-!
Lines that have other numbers. What is read from them is the same: numbers are handed on to payloads,
fences and errors, and nothing is decided by them.
-/

namespace ApiBlueprint

section Renumber

variable (place : Nat → Nat)

def Line.renumber (line : Line) : Line := { line with number := place line.number }
def Fence.renumber (fence : Fence) : Fence := { fence with openedAt := place fence.openedAt }
def GrammarError.renumber (error : GrammarError) : GrammarError := { error with line := place error.line }
def Payload.renumber (payload : Payload) : Payload := { payload with line := place payload.line }

def renumbered {α β : Type} (change : α → β) (outcome : Except GrammarError α) :
    Except GrammarError β :=
  (outcome.map change).mapError (GrammarError.renumber place)

end Renumber

section Outcomes

variable {place : Nat → Nat} {α β γ δ : Type} {change : α → β} {change' : γ → δ}

theorem renumbered_bind {first : Except GrammarError α} {next : α → Except GrammarError γ}
    {next' : β → Except GrammarError δ}
    (each : ∀ value, first = .ok value → next' (change value) = renumbered place change' (next value)) :
    (renumbered place change first >>= next') = renumbered place change' (first >>= next) := by
  cases first with
  | error error => rfl
  | ok value => exact each value rfl

theorem mapM_renumbered {read : α → Except GrammarError γ} {move : α → α}
    (each : ∀ item, read (move item) = renumbered place id (read item)) (items : List α) :
    (items.map move).mapM read = renumbered place id (items.mapM read) := by
  induction items with
  | nil => rfl
  | cons item items ih =>
    rw [List.map_cons, List.mapM_cons, List.mapM_cons, each, ih]
    apply renumbered_bind
    intro value _
    apply renumbered_bind
    intro values _
    rfl

end Outcomes

namespace Fence

variable (place : Nat → Nat)

theorem opening_renumber (line : Line) :
    opening? (line.renumber place) = (opening? line).map (renumber place) := by
  have indent : (line.renumber place).indent = line.indent := rfl
  have text : (line.renumber place).text = line.text := rfl
  unfold opening?
  rw [indent, text]
  split
  · rfl
  · split
    · rfl
    · simp only
      split <;> rfl

theorem advance_renumber (opened : Option Fence) (line : Line) :
    advance (opened.map (renumber place)) (line.renumber place) =
      ((advance opened line).1, (advance opened line).2.map (renumber place)) := by
  cases opened with
  | some fence =>
    have closes : (fence.renumber place).closes (line.renumber place) = fence.closes line := rfl
    simp only [advance, Option.map_some, closes]
    split <;> rfl
  | none =>
    simp only [advance, Option.map_none, opening_renumber]
    cases opening? line <;> rfl

end Fence

theorem Heading.detect_renumber (place : Nat → Nat) (line : Line) (next : Option Line) :
    detect? (line.renumber place) (next.map (Line.renumber place)) = detect? line next := by
  cases next <;> rfl

namespace Payload

variable (place : Nat → Nat)

theorem content_renumber (item : Line) (rest : List Line) :
    content (item.renumber place) (rest.map (Line.renumber place)) =
      (content item rest).map (Line.renumber place) :=
  List.takeWhile_map

theorem dedentBlock_renumber (block : List Line) :
    dedentBlock (block.map (Line.renumber place)) = dedentBlock block := by
  simp only [dedentBlock, List.filter_map, List.map_map]
  rfl

theorem preamble_renumber (block : List Line) :
    preamble (block.map (Line.renumber place)) = (preamble block).map (Line.renumber place) :=
  List.takeWhile_map

theorem sections_renumber (block : List Line) :
    sections (block.map (Line.renumber place)) =
      (sections block).map fun (kind, lines) => (kind, lines.map (Line.renumber place)) := by
  induction block with
  | nil => rfl
  | cons line rest ih =>
    have text : (line.renumber place).text = line.text := rfl
    simp only [List.map_cons, sections, text, ih, preamble_renumber]
    split <;> rfl

theorem headerOfLine_renumber (line : Line) :
    headerOfLine (line.renumber place) = renumbered place id (headerOfLine line) := by
  have text : (line.renumber place).text = line.text := rfl
  simp only [headerOfLine, text]
  split <;> rfl

theorem withSection_renumber (payload : Payload) (kind : Section) (block : List Line) :
    (payload.renumber place).withSection kind (block.map (Line.renumber place)) =
      renumbered place (renumber place) (payload.withSection kind block) := by
  cases kind with
  | headers =>
    simp only [withSection, List.filter_map]
    have headers := mapM_renumbered (headerOfLine_renumber place)
      (block.filter fun line => !line.isBlank)
    refine Eq.trans (congrArg (· >>= _) headers) ?_
    apply renumbered_bind
    intro value _
    rfl
  | body =>
    simp only [withSection, dedentBlock_renumber]
    rfl
  | schema =>
    simp only [withSection, dedentBlock_renumber]
    rfl

theorem foldlM_withSection_renumber (parts : List (Section × List Line)) (payload : Payload) :
    (parts.map fun (kind, lines) => (kind, lines.map (Line.renumber place))).foldlM
      (fun payload (kind, lines) => payload.withSection kind lines) (payload.renumber place) =
      renumbered place (renumber place)
        (parts.foldlM (fun payload (kind, lines) => payload.withSection kind lines) payload) := by
  induction parts generalizing payload with
  | nil => rfl
  | cons part parts ih =>
    rw [List.map_cons, List.foldlM_cons, List.foldlM_cons]
    simp only [withSection_renumber]
    apply renumbered_bind
    intro grown _
    exact ih grown

theorem withContentType_renumber (payload : Payload) :
    withContentType (payload.renumber place) = (withContentType payload).renumber place := by
  have media : (payload.renumber place).mediaType = payload.mediaType := rfl
  have typed : (payload.renumber place).header? "Content-Type".toList =
      payload.header? "Content-Type".toList := rfl
  unfold withContentType
  rw [media, typed]
  split
  · split <;> rfl
  · rfl

theorem build_renumber (item : PayloadItem) (first : Line) (content : List Line) :
    build item (first.renumber place) (content.map (Line.renumber place)) =
      renumbered place (renumber place) (build item first content) := by
  have indent : (first.renumber place).indent = first.indent := rfl
  let dedented (line : Line) : Line :=
    { line with text := Line.dedent (first.indent + 4) line.text }
  have block : (content.map (Line.renumber place)).map dedented =
      (content.map dedented).map (Line.renumber place) := by
    rw [List.map_map, List.map_map]
    rfl
  unfold build
  rw [indent, block]
  generalize content.map dedented = lines
  let bare : Payload := ⟨item.signature, item.mediaType, [], [], none, none, first.number⟩
  simp only [sections_renumber, preamble_renumber, dedentBlock_renumber]
  cases sections lines with
  | nil => exact congrArg Except.ok (withContentType_renumber place { bare with body := dedentBlock lines })
  | cons part parts =>
    refine Eq.trans (congrArg (· >>= _) (foldlM_withSection_renumber place (part :: parts) bare)) ?_
    apply renumbered_bind
    intro payload _
    have described := withContentType_renumber place
      { payload with description := (dedentBlock (preamble lines)).getD [] }
    exact congrArg Except.ok described

end Payload
end ApiBlueprint

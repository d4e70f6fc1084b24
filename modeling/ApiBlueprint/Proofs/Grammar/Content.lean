import ApiBlueprint.Proofs.Grammar.Covered
import ApiBlueprint.Proofs.Grammar.Item

/-!
The content of a payload, read back: which lines belong to it, and how they fall into sections.
-/

namespace ApiBlueprint

open Render

def numbered (start : Nat) : List Text → List Line
  | [] => []
  | text :: rest => ⟨text, start⟩ :: numbered (start + 1) rest

theorem numbered_append (start : Nat) (left right : List Text) :
    numbered start (left ++ right) = numbered start left ++ numbered (start + left.length) right := by
  induction left generalizing start with
  | nil => simp [numbered]
  | cons text left ih =>
    simp only [List.cons_append, numbered, ih, List.length_cons]
    rw [Nat.add_right_comm, Nat.add_assoc]

@[simp] theorem texts_numbered (start : Nat) (texts : List Text) :
    (numbered start texts).map Line.text = texts := by
  induction texts generalizing start with
  | nil => rfl
  | cons text texts ih => simp [numbered, ih]

@[simp] theorem length_numbered (start : Nat) (texts : List Text) :
    (numbered start texts).length = texts.length := by
  rw [← List.length_map Line.text, texts_numbered]

theorem mem_numbered {start : Nat} {texts : List Text} {line : Line}
    (member : line ∈ numbered start texts) : line.text ∈ texts := by
  rw [← texts_numbered start texts]
  exact List.mem_map_of_mem member

theorem map_numbered (start : Nat) (texts : List Text) (change : Text → Text) :
    (numbered start texts).map (fun line => { line with text := change line.text }) =
      numbered start (texts.map change) := by
  induction texts generalizing start with
  | nil => rfl
  | cons text texts ih => simp [numbered, ih]

/-- The first line, if there is one, cannot belong to a payload before it. -/
def Breaks (texts : List Text) : Prop :=
  ∀ text ∈ texts.head?, Text.isBlank text = false ∧ Line.indentWidth text = 0

theorem Breaks.append {left right : List Text} (first : Breaks left) (second : Breaks right) :
    Breaks (left ++ right) := by
  cases left with
  | nil => exact second
  | cons text left => exact first

theorem breaks_flatMap {α : Type} {render : α → List Text} {items : List α}
    (breaks : ∀ item ∈ items, Breaks (render item)) : Breaks (items.flatMap render) := by
  induction items with
  | nil => simp [Breaks]
  | cons item items ih =>
    rw [List.flatMap_cons]
    exact (breaks item List.mem_cons_self).append (ih fun other member =>
      breaks other (List.mem_cons_of_mem item member))

theorem indentWidth_spaces (count : Nat) (text : Text) :
    Line.indentWidth (List.replicate count ' ' ++ text) = count + Line.indentWidth text := by
  induction count with
  | zero => simp
  | succ count ih =>
    rw [List.replicate_succ, List.cons_append, Line.indentWidth, ih]
    omega

theorem space_spaces (count : Nat) : ∀ c ∈ List.replicate count ' ', Text.isSpace c = true := by
  intro c member
  rw [List.eq_of_mem_replicate member]
  rfl

theorem dedent_spaces (count : Nat) (text : Text) :
    Line.dedent count (List.replicate count ' ' ++ text) = text := by
  induction count with
  | zero => simp [Line.dedent]
  | succ count ih => rw [List.replicate_succ, List.cons_append, Line.dedent, ih]

theorem Line.dedent_suffix (width : Nat) (text : Text) : dedent width text <:+ text := by
  fun_induction dedent width text with
  | case1 text => exact List.suffix_rfl
  | case2 width rest ih => exact ih.trans (List.suffix_cons ' ' rest)
  | case3 width rest ih => exact ih.trans (List.suffix_cons '\t' rest)
  | case4 width text other => exact List.suffix_rfl

def Payload.contentLines (gap : Nat) (payload : Payload) : List Text :=
  List.replicate gap [] ++ payload.parts.flatMap (PayloadPart.lines gap)

theorem isDeep_indented {least width : Nat} (wide : least ≤ width) (line : Text) :
    Line.IsDeep least (indented width line) := by
  unfold indented
  split
  · exact Or.inl rfl
  · right
    rw [indentWidth_spaces]
    omega

theorem contentLines_isDeep {gap : Nat} {payload : Payload} {text : Text}
    (member : text ∈ payload.contentLines gap) : Line.IsDeep 4 text := by
  have blank {line : Text} (member : line ∈ List.replicate gap []) : Line.IsDeep 4 line := by
    rw [List.eq_of_mem_replicate member]
    exact Or.inl rfl
  rcases List.mem_append.mp member with before | inside
  · exact blank before
  · obtain ⟨part, -, member⟩ := List.mem_flatMap.mp inside
    simp only [PayloadPart.lines, padded, List.mem_append, List.mem_singleton, List.mem_map] at member
    rcases member with (rfl | before) | ⟨line, -, rfl⟩ | behind
    · exact isDeep_indented (by decide) _
    · exact blank before
    · exact isDeep_indented (by decide) _
    · exact blank behind

theorem content_numbered {gap start number : Nat} {payload : Payload} {item : Text} {rest : List Text}
    (flush : Line.indentWidth item = 0) (breaks : Breaks rest) :
    Payload.content ⟨item, number⟩ (numbered start (payload.contentLines gap ++ rest)) =
      numbered start (payload.contentLines gap) := by
  have width : Line.indent ⟨item, number⟩ = 0 := flush
  rw [numbered_append]
  apply Payload.content_between
  · intro line member
    rw [width]
    exact contentLines_isDeep (mem_numbered member)
  · intro line first
    cases rest with
    | nil => cases first
    | cons text rest =>
      obtain rfl := Option.some.inj first
      obtain ⟨solid, shallow⟩ := breaks text rfl
      simp [Line.IsDeep, width, solid, shallow]

def surrounded (gap : Nat) (lines : List Text) : List Text :=
  List.replicate gap [] ++ padded gap (lines.map (indented 8))

namespace PayloadPart

def kind : PayloadPart → Section
  | headers _ => .headers
  | body _ => .body
  | schema _ => .schema

def inner (gap : Nat) (part : PayloadPart) : List Text := surrounded gap part.content

def IsCanonical : PayloadPart → Prop
  | headers list => ∀ header ∈ list, header.IsCanonical
  | body text => IsBlock text
  | schema text => IsBlock text

def put (payload : Payload) : PayloadPart → Payload
  | headers list => { payload with headers := payload.headers ++ list }
  | body text => { payload with body := some text }
  | schema text => { payload with schema := some text }

end PayloadPart

theorem section_marker (part : PayloadPart) : PayloadItem.section? part.marker = some part.kind := by
  cases part <;> rfl

theorem section_blank {text : Text} (blank : Text.isBlank text = true) :
    PayloadItem.section? text = none := by
  have start : Text.trimStart text = [] := List.dropWhile_eq_nil_iff.mpr (List.all_eq_true.mp blank)
  have unmarked : PayloadItem.marked? text = none := by
    unfold PayloadItem.marked?
    rw [start]
    split <;> rfl
  rw [PayloadItem.section?, unmarked]
  rfl

/-- A marker stands behind at most three blanks. -/
theorem section_indented {width : Nat} (wide : 4 ≤ width) (line : Text) :
    PayloadItem.section? (indented width line) = none := by
  unfold indented
  split
  · rfl
  · have deep : 3 < ((List.replicate width ' ' ++ line).takeWhile Text.isSpace).length := by
      rw [List.takeWhile_append_of_pos (space_spaces width), List.length_append,
        List.length_replicate]
      omega
    simp only [PayloadItem.section?, PayloadItem.marked?, deep, if_true]
    rfl

theorem inner_quiet {gap : Nat} {part : PayloadPart} {text : Text} (member : text ∈ part.inner gap) :
    PayloadItem.section? text = none := by
  simp only [PayloadPart.inner, surrounded, padded, List.mem_append, List.mem_map] at member
  rcases member with before | ⟨line, -, rfl⟩ | behind
  · rw [List.eq_of_mem_replicate before]
    rfl
  · exact section_indented (by decide) line
  · rw [List.eq_of_mem_replicate behind]
    rfl

theorem dedent_indented (less width : Nat) (line : Text) :
    Line.dedent less (indented (less + width) line) = indented width line := by
  unfold indented
  split
  · cases less <;> rfl
  · rw [List.replicate_add, List.append_assoc, dedent_spaces]

theorem dedent_part (gap : Nat) (part : PayloadPart) :
    (part.lines gap).map (Line.dedent 4) = part.marker :: part.inner gap := by
  have blank : Line.dedent 4 [] = [] := rfl
  have marker : Line.dedent 4 (indented 4 part.marker) = part.marker := by
    rw [show 4 = 4 + 0 from rfl, dedent_indented 4 0]
    cases part <;> rfl
  have content : (part.content.map (indented 12)).map (Line.dedent 4) = part.content.map (indented 8) := by
    rw [List.map_map]
    exact List.map_congr_left fun line _ => dedent_indented 4 8 line
  simp only [PayloadPart.lines, PayloadPart.inner, surrounded, padded, List.map_append, List.map_cons, List.map_nil,
    List.map_replicate, blank, marker, content]
  rfl

def Payload.block (gap : Nat) (payload : Payload) : List Text :=
  List.replicate gap [] ++ payload.parts.flatMap fun part => part.marker :: part.inner gap

theorem dedent_contentLines (gap : Nat) (payload : Payload) :
    (payload.contentLines gap).map (Line.dedent 4) = payload.block gap := by
  unfold Payload.contentLines Payload.block
  rw [List.map_append, List.map_replicate, List.map_flatMap]
  simp only [dedent_part]
  rfl

namespace Payload

theorem preamble_quiet {quiet rest : List Line}
    (free : ∀ line ∈ quiet, PayloadItem.section? line.text = none)
    (marked : ∀ line ∈ rest.head?, (PayloadItem.section? line.text).isSome = true) :
    preamble (quiet ++ rest) = quiet := by
  unfold preamble
  rw [List.takeWhile_append_of_pos fun line member => by simp [free line member]]
  cases rest with
  | nil => simp
  | cons line rest =>
    have first : (PayloadItem.section? line.text).isSome = true := marked line rfl
    rw [List.takeWhile_cons_of_neg, List.append_nil]
    simpa [Option.isSome_iff_ne_none] using first

theorem sections_quiet {quiet : List Line} (rest : List Line)
    (free : ∀ line ∈ quiet, PayloadItem.section? line.text = none) :
    sections (quiet ++ rest) = sections rest := by
  induction quiet with
  | nil => rfl
  | cons line quiet ih =>
    have first := free line List.mem_cons_self
    rw [List.cons_append, sections, first]
    exact ih fun other member => free other (List.mem_cons_of_mem line member)

/-- The section that a part is read as. -/
def Holds (gap : Nat) (found : Section × List Line) (part : PayloadPart) : Prop :=
  found.1 = part.kind ∧ found.2.map Line.text = part.inner gap

theorem sections_parts (gap start : Nat) (parts : List PayloadPart) :
    List.Forall₂ (Holds gap)
      (sections (numbered start (parts.flatMap fun part => part.marker :: part.inner gap))) parts := by
  induction parts generalizing start with
  | nil => exact List.Forall₂.nil
  | cons part parts ih =>
    have free (from? : Nat) : ∀ line ∈ numbered from? (part.inner gap),
        PayloadItem.section? line.text = none := fun line member => inner_quiet (mem_numbered member)
    have marked (from? : Nat) : ∀ line ∈ (numbered from? (parts.flatMap fun part =>
        part.marker :: part.inner gap)).head?, (PayloadItem.section? line.text).isSome = true := by
      cases parts with
      | nil => simp [numbered]
      | cons next parts => simp [numbered, section_marker]
    simp only [List.flatMap_cons, List.cons_append, numbered, sections, section_marker]
    rw [numbered_append, preamble_quiet (free _) (marked _), sections_quiet _ (free _)]
    exact List.Forall₂.cons ⟨rfl, texts_numbered _ _⟩ (ih _)

end Payload

end ApiBlueprint

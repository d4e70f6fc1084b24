import ApiBlueprint.Proofs.Grammar.Parts

/-! The canonical text falls back into the lines that it was put together from. -/

namespace ApiBlueprint

open Render

structure IsRow (text : Text) : Prop where
  line : Text.IsLine text
  ending : text.getLast? ≠ some '\r'

instance (text : Text) : Decidable (IsRow text) :=
  decidable_of_iff (Text.IsLine text ∧ text.getLast? ≠ some '\r')
    ⟨fun row => ⟨row.1, row.2⟩, fun row => ⟨row.line, row.ending⟩⟩

theorem IsRow.nil : IsRow [] := by decide

theorem IsRow.append {left right : Text} (first : IsRow left) (second : IsRow right) :
    IsRow (left ++ right) := by
  refine ⟨fun member => ?_, ?_⟩
  · rcases List.mem_append.mp member with before | behind
    · exact first.line before
    · exact second.line behind
  · cases right with
    | nil =>
      rw [List.append_nil]
      exact first.ending
    | cons c right =>
      rw [List.getLast?_append_of_ne_nil left (by simp)]
      exact second.ending

theorem IsRow.replicate (count : Nat) {c : Char} (row : IsRow [c]) : IsRow (List.replicate count c) := by
  induction count with
  | zero => exact IsRow.nil
  | succ count ih => exact row.append ih

theorem isRow_solid {text : Text} (line : Text.IsLine text) (solid : Text.trimEnd text = text) :
    IsRow text := by
  refine ⟨line, fun last => ?_⟩
  obtain ⟨front, rfl⟩ := List.getLast?_eq_some_iff.mp last
  have space : Text.isSpace '\r' = false := Text.solid_of_trimEnd solid
  exact Bool.noConfusion space

theorem isRow_trimmed {text : Text} (line : Text.IsLine text) (trimmed : Text.IsTrimmed text) :
    IsRow text :=
  isRow_solid line (Text.isTrimmed_iff.mp trimmed).2

theorem isRow_spaced {text : Option Text} (row : ∀ inner ∈ text, IsRow inner) : IsRow (spaced text) := by
  cases text with
  | none => exact IsRow.nil
  | some inner => exact (show IsRow [' '] by decide).append (row inner rfl)

theorem isRow_colon {name value : Text} (first : IsRow name) (second : IsRow value) :
    IsRow (colon name value) := by
  have sign : IsRow [':', ' '] := by decide
  exact first.append (sign.append second)

theorem isRow_indented {line : Text} (width : Nat) (row : IsRow line) : IsRow (indented width line) := by
  unfold indented
  split
  · exact IsRow.nil
  · exact (IsRow.replicate width (by decide)).append row

theorem isRow_heading {text : Text} (depth : Nat) (row : IsRow text) : IsRow (heading depth text) := by
  have signs : IsRow (List.replicate depth '#') := IsRow.replicate depth (by decide)
  have space : IsRow [' '] := by decide
  exact signs.append (space.append row)

theorem Metadata.IsCanonical.isRow {entry : Metadata} (canonical : entry.IsCanonical) :
    IsRow (colon entry.key entry.value) := by
  have plain : ∀ c ∈ entry.key, c ≠ '\n' ∧ c ≠ '\r' := by
    intro c member
    rcases canonical.characters c member with letter | rfl | rfl
    · have solid := alphanumeric_solid letter
      constructor
      · rintro rfl
        exact Bool.noConfusion solid
      · rintro rfl
        exact Bool.noConfusion solid
    · decide
    · decide
  have key : IsRow entry.key := by
    refine ⟨fun member => (plain _ member).1 rfl, fun last => ?_⟩
    exact (plain _ (List.mem_of_getLast? last)).2 rfl
  exact isRow_colon key (isRow_trimmed canonical.line canonical.trimmed)

theorem Header.IsCanonical.isRow {header : Header} (canonical : header.IsCanonical) :
    IsRow (colon header.name header.value) :=
  isRow_colon (isRow_trimmed canonical.lineName canonical.trimmedName)
    (isRow_trimmed canonical.lineValue canonical.trimmedValue)

theorem IsBlock.isRow {text line : Text} (isBlock : IsBlock text) (member : line ∈ text.splitOn '\n') :
    IsRow line :=
  isRow_solid (Text.not_mem_of_mem_splitOn member) (isBlock.solid line member)

theorem IsMediaType.isRow {media : Text} (isMediaType : IsMediaType media) :
    IsRow (parentheses media) := by
  have row := isRow_trimmed isMediaType.line isMediaType.trimmed
  exact (show IsRow ['('] by decide).append (row.append (show IsRow [')'] by decide))

theorem Signature.IsCanonical.isRow {signature : Signature} (canonical : signature.IsCanonical) :
    ∀ text ∈ signature.subject, IsRow text := by
  intro text written
  cases signature with
  | request name =>
    have isHeadingText := (canonical text written).isHeadingText
    exact isRow_trimmed isHeadingText.line isHeadingText.trimmed
  | response status =>
    obtain rfl := Option.some.inj written
    obtain ⟨-, digits, -⟩ := PayloadItem.status_digits canonical.1 canonical.2
    rw [List.all_eq_true] at digits
    refine ⟨fun member => ?_, fun last => ?_⟩
    · have digit := digits _ member
      exact Bool.noConfusion digit
    · have digit := digits _ (List.mem_of_getLast? last)
      exact Bool.noConfusion digit

theorem Payload.IsCanonical.item_isRow {payload : Payload} (canonical : payload.IsCanonical) :
    IsRow payload.item := by
  have keyword : IsRow payload.signature.payloadKind.keyword := by
    cases payload.signature.payloadKind <;> decide
  have subject := isRow_spaced canonical.signature.isRow
  have media : IsRow (spaced (payload.mediaType.map parentheses)) := by
    refine isRow_spaced fun text written => ?_
    obtain ⟨media, found, rfl⟩ := Option.map_eq_some_iff.mp written
    exact (canonical.media media found).isRow
  have mark : IsRow ['+', ' '] := by decide
  exact mark.append (keyword.append (subject.append media))

theorem PayloadPart.marker_isRow : ∀ part : PayloadPart, IsRow part.marker
  | headers _ => show IsRow "+ Headers".toList by decide
  | body _ => show IsRow "+ Body".toList by decide
  | schema _ => show IsRow "+ Schema".toList by decide

theorem PayloadPart.IsCanonical.isRow {part : PayloadPart} (canonical : part.IsCanonical) :
    ∀ line ∈ part.content, IsRow line := by
  intro line member
  cases part with
  | headers list =>
    obtain ⟨header, written, rfl⟩ := List.mem_map.mp member
    exact (canonical header written).isRow
  | body text => exact IsBlock.isRow canonical member
  | schema text => exact IsBlock.isRow canonical member

section Rows

variable {gap : Nat} {lines : List Text} {line : Text}

theorem isRow_padded (rows : ∀ line ∈ lines, IsRow line) : ∀ line ∈ padded gap lines, IsRow line := by
  intro line member
  rcases List.mem_append.mp member with inside | behind
  · exact rows line inside
  · rw [List.eq_of_mem_replicate behind]
    exact IsRow.nil

theorem isRow_declared {depth : Nat} {text : Text} (isHeadingText : IsHeadingText text) :
    ∀ line ∈ padded gap [heading depth text], IsRow line := by
  refine isRow_padded fun line member => ?_
  rw [List.mem_singleton.mp member]
  exact isRow_heading depth (isRow_trimmed isHeadingText.line isHeadingText.trimmed)

theorem PayloadPart.lines_isRow {part : PayloadPart} (canonical : part.IsCanonical) :
    ∀ line ∈ part.lines gap, IsRow line := by
  intro line member
  rcases List.mem_append.mp member with before | inside
  · refine isRow_padded (fun line member => ?_) line before
    rw [List.mem_singleton.mp member]
    exact isRow_indented 4 (marker_isRow part)
  · refine isRow_padded (fun line member => ?_) line inside
    obtain ⟨plain, written, rfl⟩ := List.mem_map.mp member
    exact isRow_indented 12 (canonical.isRow plain written)

theorem Payload.lines_isRow {payload : Payload} (canonical : payload.IsCanonical)
    (member : line ∈ payload.lines gap) : IsRow line := by
  rcases List.mem_append.mp member with before | inside
  · refine isRow_padded (fun line member => ?_) line before
    rw [List.mem_singleton.mp member]
    exact canonical.item_isRow
  · obtain ⟨part, written, member⟩ := List.mem_flatMap.mp inside
    exact PayloadPart.lines_isRow (Payload.parts_canonical canonical part written) line member

theorem Action.lines_isRow {action : Action} (canonical : action.IsCanonical)
    (member : line ∈ action.lines gap) : IsRow line := by
  rcases List.mem_append.mp member with before | inside
  · exact isRow_declared canonical.isHeadingText line before
  · obtain ⟨payload, written, member⟩ := List.mem_flatMap.mp inside
    rcases List.mem_append.mp written with request | response
    · exact Payload.lines_isRow (canonical.requests payload request).1 member
    · exact Payload.lines_isRow (canonical.responses payload response).1 member

theorem Resource.lines_isRow {resource : Resource} (canonical : resource.IsCanonical)
    (member : line ∈ resource.lines gap) : IsRow line := by
  rcases List.mem_append.mp member with before | inside
  · exact isRow_declared canonical.isHeadingText line before
  · obtain ⟨action, written, member⟩ := List.mem_flatMap.mp inside
    exact Action.lines_isRow (canonical.actions action written) member

theorem Group.lines_isRow {group : Group} (canonical : group.IsCanonical)
    (member : line ∈ group.lines gap) : IsRow line := by
  rcases List.mem_append.mp member with before | inside
  · cases named : group.name with
    | none => simp [named] at before
    | some name =>
      rw [named] at before
      exact isRow_declared (canonical.name name named).group_isHeadingText line before
  · obtain ⟨resource, written, member⟩ := List.mem_flatMap.mp inside
    exact Resource.lines_isRow (canonical.resources resource written) member

theorem Blueprint.lines_isRow {blueprint : Blueprint} (canonical : blueprint.IsCanonical)
    (member : line ∈ blueprint.lines gap) : IsRow line := by
  rcases List.mem_append.mp member with entries | inside
  · refine isRow_padded (fun line member => ?_) line entries
    obtain ⟨entry, written, rfl⟩ := List.mem_map.mp member
    exact (canonical.metadata entry written).isRow
  · rcases List.mem_append.mp inside with before | behind
    · cases named : blueprint.name with
      | none => simp [named] at before
      | some name =>
        rw [named] at before
        exact isRow_declared (canonical.name name named).isHeadingText line before
    · obtain ⟨group, written, member⟩ := List.mem_flatMap.mp behind
      exact Group.lines_isRow (canonical.groups group written) member

end Rows

theorem dropReturn_row {text : Text} (row : IsRow text) : Line.dropReturn text = text := if_neg row.ending

theorem dropReturn_rows {texts : List Text} (rows : ∀ text ∈ texts, IsRow text) :
    texts.map Line.dropReturn = texts := by
  rw [List.map_congr_left fun text member => dropReturn_row (rows text member)]
  exact List.map_id' texts

theorem numbered_zipIdx (start : Nat) (texts : List Text) :
    (texts.zipIdx start).map (fun (text, number) => Line.mk (Line.dropReturn text) number) =
      numbered start (texts.map Line.dropReturn) := by
  induction texts generalizing start with
  | nil => rfl
  | cons text texts ih => simp only [List.zipIdx_cons, List.map_cons, ih, numbered]

theorem splitLines_lines {texts : List Text} (some : texts ≠ []) (lines : ∀ text ∈ texts, Text.IsLine text) :
    splitLines (Text.joinWith ['\n'] texts) = numbered 1 (texts.map Line.dropReturn) := by
  have parts : (Text.joinWith ['\n'] texts).splitOn '\n' = texts :=
    List.splitOn_intercalate '\n' lines some
  rw [splitLines, parts]
  exact numbered_zipIdx 1 texts

theorem splitLines_joinWith {texts : List Text} (some : texts ≠ []) (rows : ∀ text ∈ texts, IsRow text) :
    splitLines (Text.joinWith ['\n'] texts) = numbered 1 texts := by
  rw [splitLines_lines some fun text member => (rows text member).line, dropReturn_rows rows]

/-- A blueprint without lines is read from one line that is blank. -/
theorem splitLines_render {gap : Nat} {blueprint : Blueprint} (canonical : blueprint.IsCanonical) :
    splitLines (blueprint.render gap) = numbered 1 (blueprint.lines gap) ∨
      blueprint.lines gap = [] ∧ splitLines (blueprint.render gap) = numbered 1 [[]] := by
  by_cases none : blueprint.lines gap = []
  · right
    rw [Blueprint.render, none]
    exact ⟨rfl, rfl⟩
  · exact Or.inl (splitLines_joinWith none fun text member => Blueprint.lines_isRow canonical member)

end ApiBlueprint

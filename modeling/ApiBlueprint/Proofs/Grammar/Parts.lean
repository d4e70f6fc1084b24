import ApiBlueprint.Proofs.Grammar.Content
import ApiBlueprint.Proofs.Outcome
import ApiBlueprint.Proofs.Text.Lines

/-! What the sections of a payload hold, read back: blocks of text and headers. -/

namespace ApiBlueprint

open Render

namespace Payload

theorem dedentBlock_eq (block : List Line) {texts : List Text} (same : block.map Line.text = texts) :
    dedentBlock block =
      match ((texts.filter fun text => !Text.isBlank text).map Line.indentWidth).min? with
      | none => none
      | some common =>
        let lines := texts.map fun text => Text.trimEnd (Line.dedent common text)
        let trimmed := ((lines.dropWhile List.isEmpty).reverse.dropWhile List.isEmpty).reverse
        some (Text.joinWith ['\n'] trimmed) := by
  subst same
  simp only [dedentBlock, List.filter_map, List.map_map]
  rfl

theorem replicate_blank (gap : Nat) : ∀ text ∈ List.replicate gap ([] : Text), Text.isBlank text = true := by
  intro text member
  rw [List.eq_of_mem_replicate member]
  rfl

theorem filter_blank {texts : List Text} (blank : ∀ text ∈ texts, Text.isBlank text = true) :
    texts.filter (fun text => !Text.isBlank text) = [] := by
  rw [List.filter_eq_nil_iff]
  intro text member
  simp [blank text member]

theorem dedentBlock_blank {block : List Line} {texts : List Text} (same : block.map Line.text = texts)
    (blank : ∀ text ∈ texts, Text.isBlank text = true) : dedentBlock block = none := by
  rw [dedentBlock_eq block same, filter_blank blank]
  rfl

theorem indented_solid {line : Text} (width : Nat) (solid : Text.isBlank line = false) :
    Text.isBlank (indented width line) = false ∧
      Line.indentWidth (indented width line) = width + Line.indentWidth line := by
  have some : line.isEmpty = false := by
    cases line with
    | nil => simp [Text.isBlank] at solid
    | cons c line => rfl
  unfold indented
  rw [some]
  refine ⟨?_, indentWidth_spaces width line⟩
  unfold Text.isBlank at solid ⊢
  simp only [Bool.false_eq_true, if_false, List.all_append, solid, Bool.and_false]

theorem indentWidth_indented {width : Nat} {line : Text} (solid : Text.isBlank (indented width line) = false) :
    Line.indentWidth (indented width line) = width + Line.indentWidth line := by
  unfold indented at solid ⊢
  split at solid
  · exact Bool.noConfusion solid
  · rename_i some
    rw [if_neg some, indentWidth_spaces]

section Between

variable {above below : List Text} {width : Nat} {text : Text}

theorem trim_empty_lines {lines : List Text} (emptyAbove : ∀ line ∈ above, line = [])
    (emptyBelow : ∀ line ∈ below, line = []) (first : ∀ line ∈ lines.head?, line ≠ [])
    (last : ∀ line ∈ lines.getLast?, line ≠ []) :
    (((above ++ (lines ++ below)).dropWhile List.isEmpty).reverse.dropWhile List.isEmpty).reverse =
      lines := by
  have empty {lines : List Text} (all : ∀ line ∈ lines, line = []) : ∀ line ∈ lines, line.isEmpty = true :=
    fun line member => List.isEmpty_iff.mpr (all line member)
  have keep {lines : List Text} (first : ∀ line ∈ lines.head?, line ≠ []) :
      lines.dropWhile List.isEmpty = lines := by
    cases lines with
    | nil => rfl
    | cons line lines => exact List.dropWhile_cons_of_neg (by simpa using first line rfl)
  rw [List.dropWhile_append_of_pos (empty emptyAbove)]
  cases lines with
  | nil => rw [List.nil_append, List.dropWhile_eq_nil_iff.mpr (empty emptyBelow)]; rfl
  | cons line lines =>
    have front : ((line :: lines) ++ below).dropWhile List.isEmpty = (line :: lines) ++ below :=
      keep first
    have behind : ∀ line ∈ below.reverse, line.isEmpty = true :=
      fun line member => empty emptyBelow line (List.mem_reverse.mp member)
    rw [front, List.reverse_append, List.dropWhile_append_of_pos behind, keep (by rwa [List.head?_reverse]),
      List.reverse_reverse]

theorem common_indent (isBlock : IsBlock text) (blankAbove : ∀ line ∈ above, Text.isBlank line = true)
    (blankBelow : ∀ line ∈ below, Text.isBlank line = true) :
    (((above ++ ((text.splitOn '\n').map (indented width) ++ below)).filter
      fun text => !Text.isBlank text).map Line.indentWidth).min? = some width := by
  rw [List.filter_append, List.filter_append, filter_blank blankAbove, filter_blank blankBelow,
    List.append_nil, List.nil_append, List.min?_eq_some_iff]
  constructor
  · obtain ⟨line, member, solid, flush⟩ := isBlock.flush
    obtain ⟨stays, deep⟩ := indented_solid width solid
    refine List.mem_map.mpr ⟨indented width line, List.mem_filter.mpr ⟨?_, by simp [stays]⟩, ?_⟩
    · exact List.mem_map_of_mem member
    · rw [deep, flush]
      rfl
  · intro deep member
    obtain ⟨line, inFilter, rfl⟩ := List.mem_map.mp member
    obtain ⟨inside, solid⟩ := List.mem_filter.mp inFilter
    obtain ⟨plain, -, rfl⟩ := List.mem_map.mp inside
    rw [indentWidth_indented (by simpa using solid)]
    exact Nat.le_add_right _ _

theorem dedent_blank (blank : Text.isBlank text = true) (width : Nat) :
    Text.trimEnd (Line.dedent width text) = [] := by
  have white : ∀ c ∈ text, Text.isSpace c = true := List.all_eq_true.mp blank
  exact Text.trimEnd_of_blank fun c member => white c ((Line.dedent_suffix width text).subset member)

theorem dedent_rows (isBlock : IsBlock text) :
    ((text.splitOn '\n').map (indented width)).map (fun text => Text.trimEnd (Line.dedent width text)) =
      text.splitOn '\n' := by
  rw [List.map_map]
  refine (List.map_congr_left fun line member => ?_).trans (List.map_id _)
  have plain : indented 0 line = line := by
    unfold indented
    split
    · rename_i empty
      exact (List.isEmpty_iff.mp empty).symm
    · rfl
  have dedented := dedent_indented width 0 line
  rw [plain, Nat.add_zero] at dedented
  rw [Function.comp_apply, dedented]
  exact isBlock.solid line member

/-- A block that is indented as a whole is read back, whatever the indentation and the blank lines around. -/
theorem dedentBlock_between {block : List Line} (isBlock : IsBlock text)
    (blankAbove : ∀ line ∈ above, Text.isBlank line = true)
    (blankBelow : ∀ line ∈ below, Text.isBlank line = true)
    (same : block.map Line.text = above ++ ((text.splitOn '\n').map (indented width) ++ below)) :
    dedentBlock block = some text := by
  have emptied {lines : List Text} (blank : ∀ line ∈ lines, Text.isBlank line = true) :
      ∀ line ∈ lines.map fun text => Text.trimEnd (Line.dedent width text), line = [] := by
    intro line member
    obtain ⟨original, inside, rfl⟩ := List.mem_map.mp member
    exact dedent_blank (blank original inside) width
  rw [dedentBlock_eq block same, common_indent isBlock blankAbove blankBelow]
  simp only [List.map_append, dedent_rows isBlock]
  rw [trim_empty_lines (emptied blankAbove) (emptied blankBelow)]
  · exact congrArg some (Text.joinWith_splitOn text)
  · rintro line member rfl
    exact Bool.noConfusion (isBlock.first [] member)
  · rintro line member rfl
    exact Bool.noConfusion (isBlock.last [] member)

end Between

theorem dedentBlock_block {block : List Line} {gap : Nat} {text : Text} (isBlock : IsBlock text)
    (same : block.map Line.text = surrounded gap (text.splitOn '\n')) :
    dedentBlock block = some text :=
  dedentBlock_between isBlock (replicate_blank gap) (replicate_blank gap) same

theorem colon_solid {header : Header} (canonical : header.IsCanonical) :
    Text.isBlank (colon header.name header.value) = false := by
  have solid := canonical.trimmedName.not_blank canonical.nonempty
  unfold Text.isBlank at solid ⊢
  simp only [colon, List.all_append, solid, Bool.false_and]

theorem exists_name_cons {header : Header} (canonical : header.IsCanonical) :
    ∃ c rest, header.name = c :: rest ∧ Text.isSpace c = false := by
  obtain ⟨c, rest, name⟩ := List.exists_cons_of_ne_nil canonical.nonempty
  have trimmed := canonical.trimmedName
  rw [name] at trimmed
  exact ⟨c, rest, name, trimmed.head_solid⟩

theorem sign_trimmed {header : Header} (canonical : header.IsCanonical) :
    Text.IsTrimmed (header.name ++ [':']) := by
  obtain ⟨c, rest, name, solid⟩ := exists_name_cons canonical
  exact @Text.isTrimmed_of_ends c ':' _ (rest ++ [':']) (by rw [name]; rfl) ⟨header.name, rfl⟩ solid
    (by decide)

theorem colon_trimmed {header : Header} (canonical : header.IsCanonical) (some : header.value ≠ []) :
    Text.IsTrimmed (colon header.name header.value) := by
  obtain ⟨c, rest, name, first⟩ := exists_name_cons canonical
  obtain ⟨front, last, value⟩ := (List.eq_nil_or_concat' header.value).resolve_left some
  have solid : Text.isSpace last = false := by
    have trimmed := canonical.trimmedValue
    rw [value] at trimmed
    exact trimmed.last_solid
  have ends : colon header.name header.value = header.name ++ ':' :: ' ' :: front ++ [last] := by
    rw [colon, value]
    simp
  exact @Text.isTrimmed_of_ends c last _ (rest ++ ':' :: ' ' :: header.value) (by rw [colon, name]; rfl)
    ⟨_, ends⟩ first solid

theorem trim_colon {header : Header} (canonical : header.IsCanonical) :
    ∃ behind, Text.trim (indented 8 (colon header.name header.value)) = header.name ++ ':' :: behind ∧
      Text.trim behind = header.value := by
  have spaces : ∀ c ∈ List.replicate 8 ' ', Text.isSpace c = true := by decide
  have text : indented 8 (colon header.name header.value) =
      List.replicate 8 ' ' ++ colon header.name header.value := by
    simp [indented, colon]
  by_cases empty : header.value = []
  · have padded := @Text.trim_pad (List.replicate 8 ' ') (header.name ++ [':']) [' '] spaces (by decide)
    rw [sign_trimmed canonical] at padded
    refine ⟨[], ?_, by rw [empty]; rfl⟩
    rw [text, empty, ← padded]
    simp [colon]
  · have padded := @Text.trim_pad (List.replicate 8 ' ') (colon header.name header.value) [] spaces
      (by simp)
    have value := @Text.trim_pad [' '] header.value [] (by decide) (by simp)
    rw [colon_trimmed canonical empty, List.append_nil] at padded
    rw [List.append_nil, canonical.trimmedValue] at value
    refine ⟨' ' :: header.value, ?_, value⟩
    rw [text, padded]
    rfl

theorem headerOfLine_colon {header : Header} {line : Line} (canonical : header.IsCanonical)
    (same : line.text = indented 8 (colon header.name header.value)) :
    headerOfLine line = .ok header := by
  obtain ⟨behind, text, value⟩ := trim_colon canonical
  have split : Text.splitFirst (· = ':') (header.name ++ ':' :: behind) =
      some (header.name, behind) := by
    refine Text.splitFirst_append (fun c member => ?_) (by decide)
    have other : c ≠ ':' := fun colon => canonical.colonFree (colon ▸ member)
    simp [other]
  have name : Text.trim header.name = header.name := canonical.trimmedName
  simp only [headerOfLine, same, text, split, name, value]

theorem mapM_headerOfLine {headers : List Header} {lines : List Line}
    (canonical : ∀ header ∈ headers, header.IsCanonical)
    (same : lines.map Line.text =
      headers.map fun header => indented 8 (colon header.name header.value)) :
    lines.mapM headerOfLine = .ok headers := by
  induction headers generalizing lines with
  | nil =>
    obtain rfl : lines = [] := by simpa using same
    rfl
  | cons header headers ih =>
    cases lines with
    | nil => simp at same
    | cons line lines =>
      obtain ⟨first, rest⟩ := List.cons.inj same
      have read := headerOfLine_colon (canonical header List.mem_cons_self) first
      have more := ih (fun other member => canonical other (List.mem_cons_of_mem header member)) rest
      rw [List.mapM_cons, read]
      simp only [bind, Except.bind, more, pure, Except.pure]

theorem solid_lines {gap : Nat} {lines : List Text} {block : List Line}
    (solid : ∀ line ∈ lines, Text.isBlank line = false)
    (same : block.map Line.text = surrounded gap lines) :
    (block.filter fun line => !line.isBlank).map Line.text = lines.map (indented 8) := by
  have swap : (block.filter fun line => !line.isBlank).map Line.text =
      (block.map Line.text).filter fun text => !Text.isBlank text := by
    rw [List.filter_map]
    rfl
  have inside : (lines.map (indented 8)).filter (fun text => !Text.isBlank text) =
      lines.map (indented 8) := by
    rw [List.filter_eq_self]
    intro text member
    obtain ⟨line, written, rfl⟩ := List.mem_map.mp member
    simp [(indented_solid 8 (solid line written)).1]
  rw [swap, same, surrounded, padded, List.filter_append, List.filter_append,
    filter_blank (replicate_blank gap), inside]
  simp

theorem withSection_part {gap : Nat} {part : PayloadPart} {block : List Line} (payload : Payload)
    (canonical : part.IsCanonical) (same : block.map Line.text = part.inner gap) :
    payload.withSection part.kind block = .ok (part.put payload) := by
  cases part with
  | headers list =>
    have solid : ∀ line ∈ list.map fun header => colon header.name header.value,
        Text.isBlank line = false := by
      intro line member
      obtain ⟨header, written, rfl⟩ := List.mem_map.mp member
      exact colon_solid (canonical header written)
    have lines := solid_lines solid same
    rw [List.map_map] at lines
    simp only [withSection, PayloadPart.kind, mapM_headerOfLine canonical lines]
    rfl
  | body text => simp only [withSection, PayloadPart.kind, dedentBlock_block canonical same]; rfl
  | schema text => simp only [withSection, PayloadPart.kind, dedentBlock_block canonical same]; rfl

theorem foldlM_parts {gap : Nat} {found : List (Section × List Line)} {parts : List PayloadPart}
    (payload : Payload) (canonical : ∀ part ∈ parts, part.IsCanonical)
    (holds : List.Forall₂ (Holds gap) found parts) :
    found.foldlM (fun payload (kind, lines) => payload.withSection kind lines) payload =
      .ok (parts.foldl (fun payload part => part.put payload) payload) := by
  induction holds generalizing payload with
  | nil => rfl
  | @cons first part found parts same holds ih =>
    obtain ⟨kind, lines⟩ := first
    obtain ⟨rfl, texts⟩ := same
    have step := withSection_part payload (canonical part List.mem_cons_self) texts
    rw [List.foldlM_cons]
    refine bind_eq_ok.mpr ⟨_, step, ?_⟩
    exact ih _ fun other member => canonical other (List.mem_cons_of_mem part member)

theorem parts_canonical {payload : Payload} (canonical : payload.IsCanonical) :
    ∀ part ∈ payload.parts, part.IsCanonical := by
  intro part member
  simp only [parts, List.mem_append, Option.mem_toList,
    Option.map_eq_some_iff] at member
  rcases member with inHeaders | ⟨text, found, rfl⟩ | ⟨text, found, rfl⟩
  · split at inHeaders
    · simp at inHeaders
    · obtain rfl := List.mem_singleton.mp inHeaders
      exact canonical.headers
  · exact canonical.body text found
  · exact canonical.schema text found

theorem put_parts {payload : Payload} (undescribed : payload.description = []) (number : Nat) :
    payload.parts.foldl (fun payload part => part.put payload)
        ⟨payload.signature, payload.mediaType, [], [], none, none, number⟩ =
      { payload with line := number } := by
  obtain ⟨signature, mediaType, description, headers, body, schema, line⟩ := payload
  obtain rfl := undescribed
  cases headers <;> cases body <;> cases schema <;> rfl

theorem withContentType_typed {payload : Payload}
    (typed : payload.mediaType.isSome = true → (payload.header? "Content-Type".toList).isSome = true) :
    payload.withContentType = payload := by
  unfold withContentType
  split
  · rename_i media found
    rw [if_pos (typed (by simp [found]))]
  · rfl

theorem blank_quiet (gap start : Nat) : ∀ line ∈ numbered start (List.replicate gap []),
    PayloadItem.section? line.text = none := by
  intro line member
  rw [List.eq_of_mem_replicate (mem_numbered member)]
  rfl

theorem sections_block (gap start : Nat) (payload : Payload) :
    List.Forall₂ (Holds gap) (sections (numbered start (payload.block gap))) payload.parts := by
  rw [block, numbered_append, sections_quiet _ (blank_quiet gap start)]
  exact sections_parts gap _ payload.parts

theorem preamble_block (gap start : Nat) (payload : Payload) :
    (preamble (numbered start (payload.block gap))).map Line.text = List.replicate gap [] := by
  rw [block, numbered_append, preamble_quiet (blank_quiet gap start), texts_numbered]
  cases payload.parts with
  | nil => simp [numbered]
  | cons part parts => simp [numbered, section_marker]

theorem build_canonical {gap start number : Nat} {payload : Payload} {item : Text}
    (canonical : payload.IsCanonical) (flush : Line.indentWidth item = 0) :
    Payload.build ⟨payload.signature, payload.mediaType⟩ ⟨item, number⟩
        (numbered start (payload.contentLines gap)) =
      .ok { payload with line := number } := by
  have width : Line.indent ⟨item, number⟩ = 0 := flush
  have whole : withContentType { payload with line := number } = { payload with line := number } :=
    withContentType_typed canonical.typed
  have holds := sections_block gap start payload
  have read := foldlM_parts ⟨payload.signature, payload.mediaType, [], [], none, none, number⟩
    (parts_canonical canonical) holds
  rw [put_parts canonical.undescribed] at read
  unfold build
  simp only [width, map_numbered, Nat.zero_add, dedent_contentLines]
  cases found : sections (numbered start (payload.block gap)) with
  | nil =>
    rw [found] at holds read
    obtain none : payload.parts = [] := List.forall₂_nil_left_iff.mp holds
    have blank : (numbered start (payload.block gap)).map Line.text = List.replicate gap [] := by
      simp [block, none]
    have same := Except.ok.inj read
    simp only [dedentBlock_blank blank (replicate_blank gap), same]
    exact congrArg Except.ok whole
  | cons first rest =>
    rw [found] at read
    have undescribed : (dedentBlock (preamble (numbered start (payload.block gap)))).getD [] =
        payload.description := by
      rw [dedentBlock_blank (preamble_block gap start payload) (replicate_blank gap),
          canonical.undescribed]
      rfl
    refine bind_eq_ok.mpr ⟨_, read, ?_⟩
    simp only [undescribed]
    exact congrArg Except.ok whole

end Payload

end ApiBlueprint

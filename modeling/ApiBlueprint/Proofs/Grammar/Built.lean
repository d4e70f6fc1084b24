import ApiBlueprint.Proofs.Grammar.Parts
import ApiBlueprint.Proofs.Grammar.Placement
import ApiBlueprint.Proofs.Grammar.Wording
import ApiBlueprint.Proofs.Text.Lines

/-!
What is built from an item and its content, whatever the content is: the blocks have no blank ends,
the headers are those of the header sections, and a media type comes with a Content-Type header.
-/

namespace ApiBlueprint

namespace Line

theorem indentWidth_flush {text : Text} (noSpace : ∀ rest, text ≠ ' ' :: rest)
    (noTab : ∀ rest, text ≠ '\t' :: rest) : indentWidth text = 0 := by
  cases text with
  | nil => rfl
  | cons c rest =>
    exact indentWidth_other (fun space => noSpace rest (space ▸ rfl)) (fun tab => noTab rest (tab ▸ rfl)) rest

theorem indentWidth_dedent {width : Nat} {text : Text} (shallow : indentWidth text ≤ width) :
    indentWidth (dedent width text) = 0 := by
  fun_induction dedent width text with
  | case1 text => exact Nat.le_zero.mp shallow
  | case2 width rest ih =>
    rw [indentWidth] at shallow
    exact ih (by omega)
  | case3 width rest ih =>
    rw [indentWidth] at shallow
    exact ih (by omega)
  | case4 width text wide noSpace noTab =>
    obtain ⟨less, rfl⟩ := Nat.exists_eq_succ_of_ne_zero wide
    exact indentWidth_flush (noSpace less · rfl) (noTab less · rfl)

theorem indentWidth_le {text longer : Text} (begins : text <+: longer) :
    indentWidth text ≤ indentWidth longer := by
  obtain ⟨rest, rfl⟩ := begins
  induction text with
  | nil => exact Nat.zero_le _
  | cons c text ih =>
    by_cases space : c = ' '
    · rw [space, List.cons_append, indentWidth, indentWidth]
      omega
    · by_cases tab : c = '\t'
      · rw [tab, List.cons_append, indentWidth, indentWidth]
        omega
      · rw [indentWidth_other space tab]
        exact Nat.zero_le _

end Line

namespace Text

theorem not_blank_of_trimEnd {text : Text} (solid : trimEnd text = text) (nonempty : text ≠ []) :
    isBlank text = false := by
  obtain ⟨front, last, rfl⟩ := (List.eq_nil_or_concat' text).resolve_left nonempty
  rw [isBlank, List.all_eq_false]
  exact ⟨last, by simp, by simp [solid_of_trimEnd solid]⟩

end Text

theorem Line.isBlank_dedent (width : Nat) (text : Text) :
    Text.isBlank (dedent width text) = Text.isBlank text := by
  rw [← Text.isBlank_trimStart, Text.trimStart_dedent, Text.isBlank_trimStart]

section Stripped

def stripped (lines : List Text) : List Text :=
  ((lines.dropWhile List.isEmpty).reverse.dropWhile List.isEmpty).reverse

variable {lines : List Text} {line : Text}

theorem stripped_eq (lines : List Text) :
    stripped lines = (lines.dropWhile List.isEmpty).rdropWhile List.isEmpty := rfl

theorem mem_of_mem_stripped (member : line ∈ stripped lines) : line ∈ lines :=
  (List.dropWhile_suffix _).subset ((List.rdropWhile_prefix _ _).subset member)

theorem mem_stripped (member : line ∈ lines) (some : line ≠ []) : line ∈ stripped lines := by
  have kept {lines : List Text} (member : line ∈ lines) : line ∈ lines.dropWhile List.isEmpty := by
    rw [← List.takeWhile_append_dropWhile (p := List.isEmpty) (l := lines)] at member
    rcases List.mem_append.mp member with before | behind
    · exact absurd (List.isEmpty_iff.mp (List.mem_takeWhile_imp before)) some
    · exact behind
  exact List.mem_reverse.mpr (kept (List.mem_reverse.mpr (kept member)))

theorem first_stripped (first : line ∈ (stripped lines).head?) : line ≠ [] := by
  obtain ⟨rest, equal⟩ := List.head?_eq_some_iff.mp first
  have begins : stripped lines <+: lines.dropWhile List.isEmpty := List.rdropWhile_prefix _ _
  rw [equal] at begins
  obtain ⟨behind, whole⟩ := begins
  have notEmpty := List.head?_dropWhile_not List.isEmpty lines
  rw [← whole] at notEmpty
  simpa using notEmpty

theorem last_stripped (last : line ∈ (stripped lines).getLast?) : line ≠ [] := by
  have nonempty : stripped lines ≠ [] := by
    intro none
    rw [none] at last
    cases last
  have notEmpty := List.rdropWhile_last_not List.isEmpty (lines.dropWhile List.isEmpty) nonempty
  rw [Option.mem_def, List.getLast?_eq_some_getLast nonempty, Option.some_inj] at last
  rw [← last]
  simpa [stripped_eq] using notEmpty

end Stripped

/-- Lines of which one is not blank and not indented, without white space at their ends, are a block
once the empty ones at both ends are gone. -/
theorem isBlock_stripped {lines : List Text} {deepest : Text} (oneLine : ∀ line ∈ lines, Text.IsLine line)
    (ended : ∀ line ∈ lines, Text.trimEnd line = line) (member : deepest ∈ lines)
    (solid : Text.isBlank deepest = false) (flush : Line.indentWidth deepest = 0) :
    IsBlock (Text.joinWith ['\n'] (stripped lines)) := by
  have nonempty : deepest ≠ [] := by
    intro empty
    rw [empty] at solid
    cases solid
  have kept : deepest ∈ stripped lines := mem_stripped member nonempty
  have split : (Text.joinWith ['\n'] (stripped lines)).splitOn '\n' = stripped lines := by
    rw [Text.splitOn_joinWith (List.ne_nil_of_mem kept)]
    apply Text.flatMap_splitOn
    intro line member
    exact oneLine line (mem_of_mem_stripped member)
  rw [isBlock_iff, split]
  refine ⟨?_, ?_, ⟨deepest, kept, solid, flush⟩, ?_⟩
  · intro line first
    have inLines := mem_of_mem_stripped (List.mem_of_head? first)
    exact Text.not_blank_of_trimEnd (ended line inLines) (first_stripped first)
  · intro line last
    have inLines := mem_of_mem_stripped (List.mem_of_getLast? last)
    exact Text.not_blank_of_trimEnd (ended line inLines) (last_stripped last)
  · intro line inStripped
    exact ended line (mem_of_mem_stripped inStripped)

namespace Payload

/-- The least indented line that is not blank stays, without indentation. -/
theorem isBlock_of_dedentBlock {block : List Line} {text : Text}
    (oneLine : ∀ line ∈ block, Text.IsLine line.text) (found : dedentBlock block = some text) :
    IsBlock text := by
  unfold dedentBlock at found
  split at found
  · cases found
  · rename_i common least
    obtain ⟨member, -⟩ := List.min?_eq_some_iff.mp least
    obtain ⟨deepest, inFilter, width⟩ := List.mem_map.mp member
    obtain ⟨inBlock, solid⟩ := List.mem_filter.mp inFilter
    have solid : Text.isBlank deepest.text = false := by simpa [Line.isBlank] using solid
    rw [← Option.some.inj found]
    refine isBlock_stripped ?_ ?_ (List.mem_map_of_mem inBlock) ?_ ?_
    · intro line member
      obtain ⟨original, inBlock, rfl⟩ := List.mem_map.mp member
      intro feed
      apply oneLine original inBlock
      exact (Line.dedent_suffix _ _).subset ((List.rdropWhile_prefix Text.isSpace _).subset feed)
    · intro line member
      obtain ⟨original, -, rfl⟩ := List.mem_map.mp member
      exact List.rdropWhile_idempotent Text.isSpace _
    · rw [Text.isBlank_trimEnd, Line.isBlank_dedent]
      exact solid
    · rw [← width]
      apply Nat.le_zero.mp
      calc
        Line.indentWidth (Text.trimEnd (Line.dedent deepest.indent deepest.text)) ≤
            Line.indentWidth (Line.dedent deepest.indent deepest.text) :=
          Line.indentWidth_le (List.rdropWhile_prefix Text.isSpace _)
        _ = 0 := Line.indentWidth_dedent (Nat.le_refl _)

def inner (first : Line) (content : List Line) : List Line :=
  content.map fun line => { line with text := Line.dedent (first.indent + 4) line.text }

def sectionHeaders : Section × List Line → List Header
  | (.headers, lines) =>
    (lines.filter fun line => !line.isBlank).filterMap fun line => (headerOfLine line).toOption
  | _ => []

def writtenHeaders (first : Line) (content : List Line) : List Header :=
  (sections (inner first content)).flatMap sectionHeaders

theorem mem_of_mem_sections {block : List Line} {part : Section × List Line}
    (member : part ∈ sections block) : ∀ line ∈ part.2, line ∈ block := by
  induction block with
  | nil => cases member
  | cons first rest ih =>
    intro line inPart
    apply List.mem_cons_of_mem
    rw [sections] at member
    split at member
    · rcases List.mem_cons.mp member with rfl | later
      · exact (List.takeWhile_prefix _).subset inPart
      · exact ih later line inPart
    · exact ih member line inPart

/-- The payload has grown by some headers, and its blocks are blocks. -/
structure Extends (payload grown : Payload) (more : List Header) : Prop where
  mediaType : grown.mediaType = payload.mediaType
  line : grown.line = payload.line
  headers : grown.headers = payload.headers ++ more
  body : ∀ text ∈ grown.body, text ∈ payload.body ∨ IsBlock text
  schema : ∀ text ∈ grown.schema, text ∈ payload.schema ∨ IsBlock text

theorem Extends.refl (payload : Payload) : Extends payload payload [] :=
  ⟨rfl, rfl, (List.append_nil _).symm, fun _ => Or.inl, fun _ => Or.inl⟩

theorem Extends.trans {first second third : Payload} {some more : List Header}
    (before : Extends first second some) (behind : Extends second third more) :
    Extends first third (some ++ more) where
  mediaType := behind.mediaType.trans before.mediaType
  line := behind.line.trans before.line
  headers := by rw [behind.headers, before.headers, List.append_assoc]
  body := by
    intro text member
    rcases behind.body text member with earlier | isBlock
    · exact before.body text earlier
    · exact Or.inr isBlock
  schema := by
    intro text member
    rcases behind.schema text member with earlier | isBlock
    · exact before.schema text earlier
    · exact Or.inr isBlock

theorem extends_withSection {payload grown : Payload} {kind : Section} {block : List Line}
    (oneLine : ∀ line ∈ block, Text.IsLine line.text) (put : payload.withSection kind block = .ok grown) :
    Extends payload grown (sectionHeaders (kind, block)) := by
  cases kind with
  | headers =>
    obtain ⟨headers, read, same⟩ := bind_eq_ok.mp put
    obtain rfl := pure_eq_ok.mp same
    have written := filterMap_toOption read
    exact ⟨rfl, rfl, by rw [sectionHeaders, written], fun _ => Or.inl, fun _ => Or.inl⟩
  | body =>
    obtain rfl := Except.ok.inj put
    exact ⟨rfl, rfl, (List.append_nil _).symm,
      fun text found => Or.inr (isBlock_of_dedentBlock oneLine found), fun _ => Or.inl⟩
  | schema =>
    obtain rfl := Except.ok.inj put
    exact ⟨rfl, rfl, (List.append_nil _).symm, fun _ => Or.inl,
      fun text found => Or.inr (isBlock_of_dedentBlock oneLine found)⟩

/-- By induction on the sections. -/
theorem extends_foldlM {parts : List (Section × List Line)} {payload grown : Payload}
    (oneLine : ∀ part ∈ parts, ∀ line ∈ part.2, Text.IsLine line.text)
    (put : parts.foldlM (fun payload (kind, lines) => payload.withSection kind lines) payload =
      .ok grown) : Extends payload grown (parts.flatMap sectionHeaders) := by
  induction parts generalizing payload with
  | nil =>
    obtain rfl := pure_eq_ok.mp put
    exact Extends.refl payload
  | cons part parts ih =>
    obtain ⟨inPart, inParts⟩ := List.forall_mem_cons.mp oneLine
    rw [List.foldlM_cons] at put
    obtain ⟨middle, first, later⟩ := bind_eq_ok.mp put
    rw [List.flatMap_cons]
    exact (extends_withSection inPart first).trans (ih inParts later)

/-- What holds of a payload with the headers that are written for it. -/
structure IsWellFormed (written : List Header) (payload : Payload) : Prop where
  signature : payload.signature.IsWellFormed
  media : ∀ media ∈ payload.mediaType, IsPhrase media
  typed : ∀ media ∈ payload.mediaType, (payload.header? "Content-Type".toList).isSome = true
  added : ∀ media ∈ payload.mediaType,
    (∀ header ∈ written, Text.sameLetters header.name "Content-Type".toList = false) →
      payload.headers = ⟨"Content-Type".toList, media⟩ :: written
  body : ∀ text ∈ payload.body, IsBlock text
  schema : ∀ text ∈ payload.schema, IsBlock text

theorem header_eq_none_iff {payload : Payload} {name : Text} :
    payload.header? name = none ↔
      ∀ header ∈ payload.headers, Text.sameLetters header.name name = false := by
  simp [header?]

theorem withContentType_isWellFormed {payload : Payload} {written : List Header}
    (signature : payload.signature.IsWellFormed) (media : ∀ media ∈ payload.mediaType, IsPhrase media)
    (headers : payload.headers = written) (body : ∀ text ∈ payload.body, IsBlock text)
    (schema : ∀ text ∈ payload.schema, IsBlock text) :
    payload.withContentType.IsWellFormed written := by
  subst headers
  unfold withContentType
  split
  · rename_i name some
    split
    · rename_i typed
      refine ⟨signature, media, fun _ _ => typed, ?_, body, schema⟩
      intro name' named absent
      rw [header_eq_none_iff.mpr absent] at typed
      cases typed
    · refine ⟨signature, media, ?_, ?_, body, schema⟩
      · intro name' named
        rfl
      · intro name' named absent
        rw [show name' = name from Option.some.inj (named.symm.trans some)]
  · rename_i none
    have untyped {media : Text} (named : media ∈ payload.mediaType) : False := by
      rw [none] at named
      cases named
    exact ⟨signature, media, fun _ named => (untyped named).elim, fun _ named => (untyped named).elim,
      body, schema⟩

theorem build_isWellFormed {item : PayloadItem} {first : Line} {content : List Line} {payload : Payload}
    (signature : item.signature.IsWellFormed) (media : ∀ media ∈ item.mediaType, IsPhrase media)
    (oneLine : ∀ line ∈ content, Text.IsLine line.text) (built : build item first content = .ok payload) :
    payload.IsWellFormed (writtenHeaders first content) ∧ payload.line = first.number := by
  have oneLineInner : ∀ line ∈ inner first content, Text.IsLine line.text := by
    intro line member
    obtain ⟨original, inContent, rfl⟩ := List.mem_map.mp member
    exact fun feed => oneLine original inContent ((Line.dedent_suffix _ _).subset feed)
  refine ⟨?_, line_build built⟩
  unfold build at built
  simp only at built
  split at built
  · rename_i none
    obtain rfl := pure_eq_ok.mp built
    refine withContentType_isWellFormed signature media ?_ ?_ ?_
    · rw [writtenHeaders, inner, none]
      rfl
    · intro text found
      exact isBlock_of_dedentBlock oneLineInner found
    · exact fun text found => nomatch found
  · obtain ⟨grown, put, same⟩ := bind_eq_ok.mp built
    obtain rfl := pure_eq_ok.mp same
    have extended := extends_foldlM
      (fun part member line inPart => oneLineInner line (mem_of_mem_sections member line inPart)) put
    refine withContentType_isWellFormed ?_ ?_ extended.headers ?_ ?_
    · rw [show grown.signature = item.signature from congrArg Prod.fst (origin_foldlM put)]
      exact signature
    · rw [extended.mediaType]
      exact media
    · intro text found
      exact (extended.body text found).resolve_left (fun none => nomatch none)
    · intro text found
      exact (extended.schema text found).resolve_left (fun none => nomatch none)

end Payload

theorem Reading.readPayload_isWellFormed {kind : PayloadKind} {signature : Text} {line : Line}
    {content : List Line} {payload : Payload} (oneLine : ∀ line ∈ content, Text.IsLine line.text)
    (read : readPayload kind signature line content = .ok payload) :
    payload.IsWellFormed (Payload.writtenHeaders line content) ∧ payload.line = line.number ∧
      payload.signature.payloadKind = kind := by
  obtain ⟨item, found, built⟩ := bind_eq_ok.mp read
  have ofRest := mapError_eq_ok.mp found
  obtain ⟨wellFormed, media⟩ := PayloadItem.ofRest_isWellFormed ofRest
  obtain ⟨whole, here⟩ := Payload.build_isWellFormed wellFormed media oneLine built
  refine ⟨whole, here, ?_⟩
  rw [Payload.signature_build built]
  exact PayloadItem.kind_of_ofRest ofRest

end ApiBlueprint

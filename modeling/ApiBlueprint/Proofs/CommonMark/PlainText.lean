import ApiBlueprint.CommonMark.PlainText
import ApiBlueprint.Proofs.Text.Words

/-!
Texts that Markdown leaves as they are: words of letters, digits, slashes and braces, perhaps with one
pair of brackets at the end. The brackets stay because nothing defines a label.
-/

namespace ApiBlueprint.CommonMark

/-- The characters that are no markup, wherever they stand. -/
def isCalm (c : Char) : Bool := Text.isAlphanumeric c || c = ' ' || c = '/' || c = '{' || c = '}'

def bracketed (front : Text) (inner : Option Text) : Text :=
  front ++ inner.elim [] fun inner => '[' :: (inner ++ [']'])

theorem calm_ne {c d : Char} (calm : isCalm c = true) (loud : isCalm d = false) : c ≠ d := by
  rintro rfl
  simp [calm] at loud

theorem mem_bracketed {front : Text} {inner : Option Text} {c : Char}
    (calm : ∀ c ∈ front, isCalm c = true) (calmInner : ∀ text ∈ inner, ∀ c ∈ text, isCalm c = true)
    (member : c ∈ bracketed front inner) : isCalm c = true ∨ c = '[' ∨ c = ']' := by
  rcases List.mem_append.mp member with before | behind
  · exact Or.inl (calm c before)
  · cases inner with
    | none => simp at behind
    | some inner =>
      simp only [Option.elim_some, List.mem_cons, List.mem_append, List.not_mem_nil, or_false] at behind
      rcases behind with rfl | inside | rfl
      · exact Or.inr (Or.inl rfl)
      · exact Or.inl (calmInner inner rfl c inside)
      · exact Or.inr (Or.inr rfl)

theorem read_calm (source : Source) (start : Nat) {text : Text} (rest : Text)
    (calm : ∀ c ∈ text, isCalm c = true) :
    TokenLine.read source start (text ++ rest) = TokenLine.read source start rest := by
  induction text with
  | nil => rfl
  | cons c text ih =>
    have quiet : isCalm c = true := calm c List.mem_cons_self
    have other {d : Char} (loud : isCalm d = false) : c ≠ d := calm_ne quiet loud
    rw [List.cons_append, TokenLine.read.eq_def]
    simp only [other (d := '\n') (by decide), other (d := '\r') (by decide),
      other (d := '\\') (by decide), other (d := '*') (by decide), other (d := '_') (by decide),
      other (d := '\x60') (by decide), other (d := '<') (by decide), other (d := '[') (by decide),
      other (d := ']') (by decide), other (d := '!') (by decide), other (d := '&') (by decide),
      decide_false, Bool.or_self, Bool.false_and, Bool.false_eq_true, if_false]
    exact ih fun d member => calm d (List.mem_cons_of_mem c member)

theorem read_open (source : Source) (start : Nat) (rest : Text) :
    let position := source.positionOf ('[' :: rest)
    TokenLine.read source start ('[' :: rest) =
      (TokenLine.read source (position + 1) rest).prepend
        (Token.ofText start position ++ [{ start := position, stop := position + 1, body := .linkOpen }]) := by
  intro position
  rw [TokenLine.read.eq_def]
  simp [position]

theorem read_close (source : Source) (start : Nat) (rest : Text) :
    let position := source.positionOf (']' :: rest)
    TokenLine.read source start (']' :: rest) =
      (TokenLine.read source (position + 1) rest).prepend
        (Token.ofText start position ++
          [{ start := position, stop := position + 1, body := .bracketClose }]) := by
  intro position
  rw [TokenLine.read.eq_def]
  simp [position]

def bracketedTokens (front : Text) (inner : Option Text) : List Token :=
  let opened := front.length
  Token.ofText 0 opened ++ inner.elim [] fun inner =>
    let closed := opened + 1 + inner.length
    { start := opened, stop := opened + 1, body := .linkOpen } ::
      (Token.ofText (opened + 1) closed ++
        [{ start := closed, stop := closed + 1, body := .bracketClose }])

theorem read_nil (source : Source) (start : Nat) :
    TokenLine.read source start [] = { tokens := Token.ofText start source.size } := by
  rw [TokenLine.read.eq_def]

theorem read_bracketed {front : Text} {inner : Option Text} (calm : ∀ c ∈ front, isCalm c = true)
    (calmInner : ∀ text ∈ inner, ∀ c ∈ text, isCalm c = true) :
    TokenLine.read { text := bracketed front inner } 0 (bracketed front inner) =
      { tokens := bracketedTokens front inner } := by
  cases inner with
  | none =>
    simp only [bracketed, bracketedTokens, Option.elim_none]
    rw [read_calm _ 0 [] calm, read_nil]
    simp
  | some inner =>
    have quiet := calmInner inner rfl
    simp only [bracketed, bracketedTokens, Option.elim_some]
    have opened : Source.positionOf { text := front ++ '[' :: (inner ++ [']']) }
        ('[' :: (inner ++ [']'])) = front.length := by
      simp [Source.positionOf]
    have closed : Source.positionOf { text := front ++ '[' :: (inner ++ [']']) } [']'] =
        front.length + 1 + inner.length := by
      simp [Source.positionOf]
      omega
    have ended : Token.ofText (front.length + 1 + inner.length + 1)
        (front ++ '[' :: (inner ++ [']'])).length = [] := by
      simp [Token.ofText]
      omega
    rw [read_calm _ 0 _ calm, read_open, opened, read_calm _ _ _ quiet, read_close, closed, read_nil,
      ended]
    simp [TokenLine.prepend]

theorem afterLabelSpace_calm (marks : Text → Option Text) (ends fuel : Nat) {inner : Text}
    (calm : ∀ c ∈ inner, isCalm c = true) :
    Link.afterLabelSpace? marks ends (fuel + 1) (inner ++ [']']) =
      some (inner.dropWhile isBlank ++ [']']) := by
  have behind : skipBlank (inner ++ [']']) = inner.dropWhile isBlank ++ [']'] := by
    unfold skipBlank
    rw [List.dropWhile_append]
    split
    · rename_i empty
      rw [show inner.dropWhile isBlank = [] by simpa using empty]
      rfl
    · rfl
  rw [Link.afterLabelSpace?, behind]
  cases left : inner.dropWhile isBlank with
  | nil => simp
  | cons c rest =>
    have quiet : isCalm c = true := by
      apply calm c
      apply (List.dropWhile_suffix isBlank).subset
      simp [left]
    simp [calm_ne quiet (d := '\n') (by decide), calm_ne quiet (d := '\r') (by decide)]

theorem labelBody_calm {marks : Text → Option Text} {length fuel : Nat} {inner label after : Text}
    (calm : ∀ c ∈ inner, isCalm c = true)
    (found : Link.labelBody? marks length fuel (inner ++ [']']) = some (label, after)) :
    after = [] := by
  induction fuel generalizing length inner label with
  | zero => simp [Link.labelBody?] at found
  | succ fuel ih =>
    cases inner with
    | nil =>
      simp only [List.nil_append, Link.labelBody?] at found
      split at found
      · simp at found
      · exact (Prod.mk.inj (Option.some.inj found)).2.symm
    | cons c inner =>
      have quiet : isCalm c = true := calm c List.mem_cons_self
      have rest : ∀ d ∈ inner, isCalm d = true := fun d member => calm d (List.mem_cons_of_mem c member)
      simp only [List.cons_append, Link.labelBody?, calm_ne quiet (d := ']') (by decide),
        calm_ne quiet (d := '\\') (by decide), if_false] at found
      split at found
      · simp at found
      · split at found
        · rw [← List.cons_append, afterLabelSpace_calm marks 0 _ calm] at found
          simp only [Option.bind_eq_bind, Option.bind_some, Option.bind_eq_some_iff, Option.pure_def,
            Option.some.injEq, Prod.mk.injEq, Prod.exists] at found
          obtain ⟨label, after, found, -, rfl⟩ := found
          exact ih (fun d member => calm d ((List.dropWhile_suffix isBlank).subset member)) found
        · simp only [Option.bind_eq_bind, Option.bind_eq_some_iff, Option.pure_def,
            Option.some.injEq, Prod.mk.injEq, Prod.exists] at found
          obtain ⟨label, after, found, -, rfl⟩ := found
          exact ih rest found

theorem definition_bracketed {front : Text} {inner : Option Text} (calm : ∀ c ∈ front, isCalm c = true)
    (calmInner : ∀ text ∈ inner, ∀ c ∈ text, isCalm c = true) :
    Definition.read? [] (bracketed front inner) = none := by
  have noRest (label after : Text) (found : Link.label? (Definition.labelMarks [])
      (bracketed front inner) = some (label, after)) : after = [] := by
    cases front with
    | cons c front =>
      have quiet : c ≠ '[' := calm_ne (calm c List.mem_cons_self) (by decide)
      simp only [bracketed, List.cons_append] at found
      rw [Link.label?.eq_def] at found
      split at found
      · rename_i same
        exact absurd (List.cons.inj same).1 quiet
      · simp at found
    | nil =>
      cases inner with
      | none => simp [bracketed, Link.label?] at found
      | some inner =>
        simp only [bracketed, Option.elim_some, List.nil_append, Link.label?, Option.bind_eq_bind,
          Option.bind_eq_some_iff, Prod.exists] at found
        obtain ⟨body, rest, found, finish⟩ := found
        have none : rest = [] := labelBody_calm (calmInner inner rfl) found
        split at finish
        · simp at finish
        · rw [← none]
          exact (Prod.mk.inj (Option.some.inj finish)).2.symm
  unfold Definition.read?
  cases found : Link.label? (Definition.labelMarks []) (bracketed front inner) with
  | none => rfl
  | some result =>
    obtain ⟨label, after⟩ := result
    obtain rfl := noRest label after found
    rfl

/-- The characters with which no line starts that is more than text. -/
def startsText (c : Char) : Bool := (isCalm c && c ≠ ' ') || c = '['

theorem startsText_ne {c d : Char} (starts : startsText c = true) (loud : startsText d = false) :
    c ≠ d := by
  rintro rfl
  simp [starts] at loud

section Line

variable {c : Char} {rest : Text}

theorem skip_text (starts : startsText c = true) (count : Nat) :
    Cursor.skip { rest := c :: rest } (count + 1) = (count + 1, { rest := c :: rest }) := by
  have noSpace : c ≠ ' ' := startsText_ne starts (by decide)
  have noTab : c ≠ '\t' := startsText_ne starts (by decide)
  simp only [Cursor.skip, Nat.le_zero, Nat.add_one_ne_zero, if_false, Nat.sub_zero]
  rw [Cursor.take.eq_def]
  split
  · simp_all
  · simp_all
  · rfl

theorem blankLine_text (starts : startsText c = true) : afterBlankLine? (c :: rest) = none := by
  have noSpace : isBlank c = false := by
    simp [isBlank, startsText_ne starts (d := ' ') (by decide),
      startsText_ne starts (d := '\t') (by decide), startsText_ne starts (d := '\x0b') (by decide),
      startsText_ne starts (d := '\x0c') (by decide)]
  have noEnd : c ≠ '\n' ∧ c ≠ '\r' :=
    ⟨startsText_ne starts (by decide), startsText_ne starts (by decide)⟩
  simp only [afterBlankLine?, skipBlank, List.dropWhile_cons, noSpace]
  rw [afterLineEnd?.eq_def]
  split <;> simp_all

theorem itemMarker_text (starts : startsText c = true)
    (plain : ∀ d ∈ c :: rest, d ≠ '.' ∧ d ≠ ')') : itemMarker? (c :: rest) = none := by
  have noBullet : ¬ ((c = '-' || c = '+' || c = '*') = true) := by
    simp [startsText_ne starts (d := '-') (by decide), startsText_ne starts (d := '+') (by decide),
      startsText_ne starts (d := '*') (by decide)]
  simp only [itemMarker?]
  rw [if_neg noBullet]
  split
  · rename_i mark behind equal
    have member : mark ∈ c :: rest := by
      apply List.drop_subset
      rw [equal]
      exact List.mem_cons_self
    simp [(plain mark member).1, (plain mark member).2]
  · rfl

theorem openContainers_text (starts : startsText c = true)
    (plain : ∀ d ∈ c :: rest, d ≠ '.' ∧ d ≠ ')') (source : Source) (lineStart fuel : Nat)
    (state : Outline) :
    Outline.openContainers source lineStart fuel state { rest := c :: rest } =
      (state, { rest := c :: rest }, false) := by
  cases fuel with
  | zero => rfl
  | succ fuel =>
    have noItem : Container.afterItem? { rest := c :: rest } = none := by
      simp only [Container.afterItem?, skip_text starts, itemMarker_text starts plain]
    have noQuote : Container.afterQuote? { rest := c :: rest } = none := by
      simp only [Container.afterQuote?, skip_text starts]
      split
      · rename_i equal
        exact absurd (List.cons.inj equal).1 (startsText_ne starts (by decide))
      · rfl
    simp only [Outline.openContainers, noItem, noQuote]

theorem readLeaf_text (starts : startsText c = true) {source : Source} {tokens : List Token}
    (position : source.positionOf (c :: rest) = 0)
    (noDefinition : Definition.read? [] (c :: rest) = none)
    (tokenized : TokenLine.read source 0 (c :: rest) = { tokens }) :
    Outline.readLeaf source {} { rest := c :: rest } =
      ({ blocks := [.leaf .paragraph 0 source.size tokens] }, []) := by
  have noRule : afterRule? (c :: rest) = none := by
    simp [afterRule?, startsText_ne starts (d := '*') (by decide),
      startsText_ne starts (d := '-') (by decide), startsText_ne starts (d := '_') (by decide)]
  have noHeading : headingDepth? (c :: rest) = none := by
    simp [headingDepth?, startsText_ne starts (d := '#') (by decide)]
  have noFence : fence? (c :: rest) = none := by
    simp [fence?, startsText_ne starts (d := '~') (by decide),
      startsText_ne starts (d := '\x60') (by decide)]
  have noHtml : c ≠ '<' := startsText_ne starts (by decide)
  have paragraph : Outline.readParagraph source [] (c :: rest).length.succ [] (c :: rest) =
      (.paragraph, tokens, []) := by
    simp [Outline.readParagraph, position, tokenized, Container.enter, Cursor.skip, Cursor.take,
      afterUnderline?, Cursor.skipAll, Cursor.atLineEnd]
  have ended : source.positionOf [] = source.size := by simp [Source.positionOf]
  unfold Outline.readLeaf
  simp only [skip_text starts, Outline.containers, List.reverse_nil, List.map_nil, noRule, noHeading,
    noDefinition, noFence, paragraph, position, ended]
  simp [noHtml, Outline.add]

end Line

theorem ofText_bracketed {front : Text} {inner : Option Text} (calm : ∀ c ∈ front, isCalm c = true)
    (calmInner : ∀ text ∈ inner, ∀ c ∈ text, isCalm c = true)
    (starts : (bracketed front inner).head?.any startsText = true) :
    Outline.ofText (bracketed front inner) =
      { blocks := [.leaf .paragraph 0 (bracketed front inner).length (bracketedTokens front inner)] } := by
  have noDefinition := definition_bracketed calm calmInner
  have tokenized := read_bracketed calm calmInner
  have plain : ∀ d ∈ bracketed front inner, d ≠ '.' ∧ d ≠ ')' := by
    intro d member
    rcases mem_bracketed calm calmInner member with quiet | rfl | rfl
    · exact ⟨calm_ne quiet (by decide), calm_ne quiet (by decide)⟩
    · decide
    · decide
  cases equal : bracketed front inner with
  | nil => simp [equal] at starts
  | cons c rest =>
    rw [equal] at noDefinition tokenized plain starts
    have first : startsText c = true := by simpa using starts
    have position : Source.positionOf { text := c :: rest } (c :: rest) = 0 := by
      simp [Source.positionOf]
    have leaf := readLeaf_text first position noDefinition tokenized
    have block : Outline.readBlock { text := c :: rest } {} (c :: rest) =
        ({ blocks := [.leaf .paragraph 0 (c :: rest).length (bracketedTokens front inner)] }, []) := by
      simp only [Outline.readBlock, Outline.containers, List.reverse_nil, List.map_nil, Container.enter,
        List.length_nil, Nat.sub_zero, Outline.leaveMany, openContainers_text first plain,
        blankLine_text first]
      exact leaf
    rw [Outline.ofText, Nat.succ_eq_add_one, Outline.readBlocks, block]
    · rfl
    · simp

theorem resolve_plain (texts : List Text) : Emphasis.resolve (texts.map .plain) = texts.flatten := by
  have pushed (state : Emphasis) : (texts.map EmphasisPiece.plain).foldl Emphasis.step state =
      { state with pieces := (texts.map EmphasisPiece.plain).reverse ++ state.pieces } := by
    induction texts generalizing state with
    | nil => rfl
    | cons text texts ih =>
      rw [List.map_cons, List.foldl_cons, ih]
      simp [Emphasis.step]
  unfold Emphasis.resolve
  rw [pushed]
  simp [List.flatMap, Function.comp_def, Emphasis.literal]

theorem textOf_plain (texts : List Text) :
    Inline.textOf (texts.map Inline.plain) = texts.reverse.flatten := by
  have plain : (texts.map Inline.plain).reverse.map Inline.asEmphasis =
      texts.reverse.map EmphasisPiece.plain := by
    simp [Inline.plain, Inline.asEmphasis, Function.comp_def]
  rw [Inline.textOf, plain, resolve_plain]

theorem read_ofText (context : InlineContext) (start stop : Nat) : ∃ texts : List Text,
    (∀ (pieces : List InlinePiece) (tokens : List Token),
      Inline.read context pieces (Token.ofText start stop ++ tokens) =
        Inline.read context (texts.map Inline.plain ++ pieces) tokens) ∧
      texts.reverse.flatten = context.source.slice start stop := by
  unfold Token.ofText
  split
  · refine ⟨[context.source.slice start stop], fun pieces tokens => ?_, by simp⟩
    rw [List.singleton_append, Inline.read]
    rfl
  · rename_i empty
    refine ⟨[], fun _ _ => rfl, ?_⟩
    simp [Source.slice, Nat.sub_eq_zero_of_le (Nat.le_of_not_lt empty)]

theorem splitBracket_plain (texts : List Text) (bracket : Bracket) (below : List InlinePiece) :
    Inline.splitBracket (texts.map Inline.plain ++ .bracket bracket :: below) =
      some (texts.map Inline.plain, bracket, below) := by
  induction texts with
  | nil => rfl
  | cons text texts ih =>
    simp only [List.map_cons, List.cons_append, Inline.plain, Inline.splitBracket] at ih ⊢
    rw [ih]
    rfl

/-- Without labels, a closing bracket at the end of the text stays with its opening one. -/
theorem closeBracket_plain {context : InlineContext} (unlabelled : context.labels = [])
    (texts : List Text) (bracket : Bracket) (below : List InlinePiece) :
    Inline.closeBracket context (texts.map Inline.plain ++ .bracket bracket :: below) context.stop [] =
      (Inline.plain [']'] :: texts.map Inline.plain ++ Inline.plain bracket.text :: below, []) := by
  have noLink : Inline.afterLink? context bracket.label context.stop [] = none := by
    have noInline : Inline.afterInline? context context.stop [] = none := by
      simp [Inline.afterInline?, InlineContext.textFrom, Source.slice, Link.afterInline?]
    unfold Inline.afterLink?
    rw [noInline]
    simp only [unlabelled, List.contains_nil, Bool.false_eq_true, if_false]
    split <;> rfl
  simp only [Inline.closeBracket, splitBracket_plain, noLink, ite_self]

theorem toText_calm (front : Text) :
    Inline.toText ⟨{ text := front }, [], [], front.length⟩ (Token.ofText 0 front.length) = front := by
  obtain ⟨texts, read, flat⟩ := read_ofText ⟨{ text := front }, [], [], front.length⟩ 0 front.length
  have first : texts.reverse.flatten = front := by
    rw [flat]
    simp [Source.slice]
  have whole := read [] []
  rw [List.append_nil] at whole
  rw [Inline.toText, whole, Inline.read, List.append_nil, textOf_plain, first]

theorem read_brackets {context : InlineContext} {start : Nat} {inner : Text} (below : List Text)
    (unlabelled : context.labels = []) (stops : start + 1 + inner.length + 1 = context.stop)
    (holds : context.source.slice (start + 1) (start + 1 + inner.length) = inner) :
    ∃ texts : List Text,
      Inline.read context (below.map Inline.plain)
        ({ start, stop := start + 1, body := .linkOpen } ::
          (Token.ofText (start + 1) (start + 1 + inner.length) ++
            [{ start := start + 1 + inner.length, stop := start + 1 + inner.length + 1,
               body := .bracketClose }])) =
        (texts ++ below).map Inline.plain ∧
      texts.reverse.flatten = '[' :: (inner ++ [']']) := by
  let bracket : Bracket := { image := false, label := start + 1 - 1 }
  obtain ⟨inside, read, flat⟩ := read_ofText context (start + 1) (start + 1 + inner.length)
  have close : Inline.closeBracket context
      (inside.map Inline.plain ++ .bracket bracket :: below.map Inline.plain)
      (start + 1 + inner.length + 1) [] =
      (([']'] :: inside ++ ['['] :: below).map Inline.plain, []) := by
    rw [stops, closeBracket_plain unlabelled]
    simp [bracket, Bracket.text]
  refine ⟨[']'] :: inside ++ [['[']], ?_, ?_⟩
  · rw [Inline.read]
    change Inline.read context (.bracket bracket :: below.map Inline.plain) _ = _
    rw [read, Inline.read]
    change Inline.read context (Inline.closeBracket context _ _ []).1
      (Inline.closeBracket context _ _ []).2 = _
    rw [close, Inline.read]
    simp
  · rw [holds] at flat
    simp [flat]

theorem toText_bracketed (front : Text) (inner : Option Text) :
    Inline.toText ⟨{ text := bracketed front inner }, [], [], (bracketed front inner).length⟩
      (bracketedTokens front inner) = bracketed front inner := by
  cases inner with
  | none => simpa [bracketed, bracketedTokens] using toText_calm front
  | some inner =>
    let context : InlineContext :=
      ⟨{ text := bracketed front (some inner) }, [], [], (bracketed front (some inner)).length⟩
    have stops : front.length + 1 + inner.length + 1 = context.stop := by
      simp [context, bracketed]
      omega
    have holds : context.source.slice (front.length + 1) (front.length + 1 + inner.length) = inner := by
      simp [context, bracketed, Source.slice, ← List.drop_drop]
    obtain ⟨before, read, flat⟩ := read_ofText context 0 front.length
    obtain ⟨brackets, readBrackets, flatBrackets⟩ := read_brackets before rfl stops holds
    have first : before.reverse.flatten = front := by
      rw [flat]
      simp [context, bracketed, Source.slice]
    simp only [Inline.toText, bracketedTokens, Option.elim_some]
    change Inline.textOf (Inline.read context [] _) = _
    rw [read, List.append_nil, readBrackets, textOf_plain, List.reverse_append, List.flatten_append,
      first, flatBrackets]
    simp [bracketed]

theorem starts_bracketed {front : Text} {inner : Option Text} (calm : ∀ c ∈ front, isCalm c = true)
    (squeezed : Text.IsSqueezed (bracketed front inner)) (nonempty : bracketed front inner ≠ []) :
    (bracketed front inner).head?.any startsText = true := by
  have trimmed := squeezed.trimmed
  cases front with
  | nil =>
    cases inner with
    | none => exact absurd rfl nonempty
    | some inner => rfl
  | cons c front =>
    have quiet : isCalm c = true := calm c List.mem_cons_self
    have solid : Text.isSpace c = false := trimmed.head_solid
    have noSpace : c ≠ ' ' := by
      rintro rfl
      exact absurd solid (by decide)
    simp [bracketed, startsText, quiet, noSpace]

theorem plainText_bracketed {front : Text} {inner : Option Text} (calm : ∀ c ∈ front, isCalm c = true)
    (calmInner : ∀ text ∈ inner, ∀ c ∈ text, isCalm c = true)
    (squeezed : Text.IsSqueezed (bracketed front inner)) (nonempty : bracketed front inner ≠ []) :
    plainText (bracketed front inner) = bracketed front inner := by
  have starts := starts_bracketed calm squeezed nonempty
  unfold plainText
  rw [ofText_bracketed calm calmInner starts]
  simp only [List.reverse_singleton, Block.textOf, Block.text, List.append_nil]
  rw [toText_bracketed]
  exact squeezed

end ApiBlueprint.CommonMark

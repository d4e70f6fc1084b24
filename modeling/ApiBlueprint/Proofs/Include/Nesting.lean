import ApiBlueprint.Include.Table
import ApiBlueprint.Proofs.Include.Lines
import ApiBlueprint.Proofs.Include.Splice

/-!
Indentation of nested documents. Indenting twice is indenting by both, and what trims the end of an
expansion does not see the indentation; so a document that a chain of directives leads to stands
behind the indentations of all of them.
-/

namespace ApiBlueprint

namespace Transclusion

def IsMargin (indent : Text) : Prop := ∀ c ∈ indent, Text.isSpace c = true ∧ c ≠ '\n'

instance (indent : Text) : Decidable (IsMargin indent) := Text.decidableForall indent

theorem IsMargin.one_line {indent : Text} (margin : IsMargin indent) : '\n' ∉ indent :=
  fun member => (margin '\n' member).2 rfl

theorem isMargin_of_piece {text link indent : Text} {front rest : List DocumentPiece}
    (found : Directive.pieces text = front ++ .directive link indent :: rest) : IsMargin indent := by
  have member : .directive link indent ∈ Directive.pieces text := by
    rw [found]
    simp
  exact Directive.indent_forall (fun _ space other => ⟨space, other⟩) (by simp) member

/-- The text has the lines of `text`, the later ones behind the indentation if they are not blank. -/
structure IsIndented (indent text out : Text) : Prop where
  length : (out.splitOn '\n').length = (text.splitOn '\n').length
  first : (out.splitOn '\n')[0]? = (text.splitOn '\n')[0]?
  later : ∀ index, (out.splitOn '\n')[index + 1]? = (text.splitOn '\n')[index + 1]?.map (indentLine indent)

theorem indentLine_indentLine (outer inner line : Text) :
    indentLine outer (indentLine inner line) = indentLine (outer ++ inner) line := by
  cases blank : Text.isBlank line with
  | true => rw [indentLine_blank blank, indentLine_blank blank, indentLine_blank blank]
  | false =>
    have written : Text.isBlank (inner ++ line) = false := by
      rw [Text.isBlank_append, blank, Bool.and_false]
    rw [indentLine_written blank, indentLine_written blank, indentLine_written written, List.append_assoc]

theorem isIndented {indent : Text} (oneLine : '\n' ∉ indent) (text : Text) :
    IsIndented indent text (indentFollowingLines indent text) := by
  obtain ⟨first, rest, lines⟩ := Text.exists_first_line text
  have indented := splitOn_indentFollowingLines oneLine lines
  constructor
  · rw [indented, lines, List.length_cons, List.length_cons, List.length_map]
  · rw [indented, lines]
    rfl
  · intro index
    rw [indented, lines, List.getElem?_cons_succ, List.getElem?_cons_succ, List.getElem?_map]

theorem indentFollowingLines_twice (outer : Text) {inner : Text} (oneLine : '\n' ∉ inner) (text : Text) :
    indentFollowingLines outer (indentFollowingLines inner text) =
      indentFollowingLines (outer ++ inner) text := by
  obtain ⟨first, rest, lines⟩ := Text.exists_first_line text
  have each : (rest.map (indentLine inner)).map (indentLine outer) = rest.map (indentLine (outer ++ inner)) := by
    rw [List.map_map]
    exact List.map_congr_left fun line _ => indentLine_indentLine outer inner line
  rw [indentFollowingLines_eq (splitOn_indentFollowingLines oneLine lines), indentFollowingLines_eq lines,
    each]

theorem indentFollowingLines_concat (indent text : Text) {c : Char} (space : Text.isSpace c = true) :
    indentFollowingLines indent (text ++ [c]) = indentFollowingLines indent text ++ [c] := by
  obtain ⟨first, rest, lines⟩ := Text.exists_first_line text
  by_cases feed : c = '\n'
  · have longer : (text ++ [c]).splitOn '\n' = first :: (rest ++ [[]]) := by
      rw [feed, Text.splitOn_line, lines]
      rfl
    have blank : indentLine indent [] = [] := indentLine_blank rfl
    rw [indentFollowingLines_eq longer, indentFollowingLines_eq lines, List.map_append, List.map_singleton,
      blank, ← List.cons_append, Text.joinWith_append (List.cons_ne_nil _ _) (List.cons_ne_nil _ _),
      Text.joinWith_singleton, feed]
    rfl
  · have single : [c].splitOn '\n' = [[c]] := Text.splitOn_one_line (by simpa using Ne.symm feed)
    rcases List.eq_nil_or_concat' rest with rfl | ⟨front, last, rfl⟩
    · have alone : text.splitOn '\n' = [] ++ [first] := lines
      have longer : (text ++ [c]).splitOn '\n' = [first ++ [c]] := Text.splitOn_append alone single
      rw [indentFollowingLines_eq longer, indentFollowingLines_eq lines, List.map_nil,
        Text.joinWith_singleton, Text.joinWith_singleton]
    · have parts : text.splitOn '\n' = (first :: front) ++ [last] := lines
      have longer : (text ++ [c]).splitOn '\n' = first :: (front ++ [last ++ [c]]) :=
        Text.splitOn_append parts single
      have kept : indentLine indent (last ++ [c]) = indentLine indent last ++ [c] := by
        have same : Text.isBlank (last ++ [c]) = Text.isBlank last := by
          simp [Text.isBlank, space]
        unfold indentLine
        rw [same]
        split
        · rfl
        · exact (List.append_assoc indent last [c]).symm
      have some : first :: front.map (indentLine indent) ≠ [] := List.cons_ne_nil _ _
      rw [indentFollowingLines_eq longer, indentFollowingLines_eq lines, List.map_append, List.map_append,
        List.map_singleton, List.map_singleton, kept, ← List.cons_append, ← List.cons_append,
        Text.joinWith_append some (List.cons_ne_nil _ _), Text.joinWith_append some (List.cons_ne_nil _ _),
        Text.joinWith_singleton, Text.joinWith_singleton, List.append_assoc, List.append_assoc]

theorem getLast?_indentFollowingLines (indent text : Text) :
    (indentFollowingLines indent text).getLast? = text.getLast? := by
  obtain ⟨first, rest, lines⟩ := Text.exists_first_line text
  have whole : text = Text.joinWith ['\n'] (first :: rest) := by
    rw [← lines, Text.joinWith_splitOn]
  rw [indentFollowingLines_eq lines]
  conv_rhs => rw [whole]
  rcases List.eq_nil_or_concat' rest with rfl | ⟨front, last, rfl⟩
  · rfl
  · have kept : ((['\n'] : Text) ++ indentLine indent last).getLast? = (['\n'] ++ last).getLast? := by
      cases blank : Text.isBlank last with
      | true => rw [indentLine_blank blank]
      | false =>
        have some : last ≠ [] := by
          rintro rfl
          cases blank
        rw [indentLine_written blank, List.getLast?_append_of_ne_nil _ some, ← List.append_assoc,
          List.getLast?_append_of_ne_nil _ some]
    have more (line : Text) : ['\n'] ++ line ≠ [] := List.cons_ne_nil '\n' line
    rw [List.map_append, List.map_singleton, ← List.cons_append, ← List.cons_append,
      Text.joinWith_append (List.cons_ne_nil _ _) (List.cons_ne_nil _ _),
      Text.joinWith_append (List.cons_ne_nil _ _) (List.cons_ne_nil _ _), Text.joinWith_singleton,
      Text.joinWith_singleton, List.getLast?_append_of_ne_nil _ (more _),
      List.getLast?_append_of_ne_nil _ (more _), kept]

theorem dropLast_indentFollowingLines (indent text : Text) {c : Char} (space : Text.isSpace c = true) :
    dropLast c (indentFollowingLines indent text) = indentFollowingLines indent (dropLast c text) := by
  by_cases ends : text.getLast? = some c
  · obtain ⟨front, rfl⟩ := List.getLast?_eq_some_iff.mp ends
    rw [indentFollowingLines_concat indent front space]
    simp [dropLast]
  · have same : (indentFollowingLines indent text).getLast? ≠ some c := by
      rwa [getLast?_indentFollowingLines]
    rw [dropLast, dropLast, if_neg ends, if_neg same]

theorem trimTrailingNewline_indentFollowingLines (indent text : Text) :
    trimTrailingNewline (indentFollowingLines indent text) =
      indentFollowingLines indent (trimTrailingNewline text) := by
  unfold trimTrailingNewline
  rw [dropLast_indentFollowingLines indent text (by decide),
    dropLast_indentFollowingLines indent _ (by decide)]

/-- The lines of `nested` stand among those of `out` from the line `start` on, the later ones behind
the indentation if they are not blank. White space at the end of `nested` may be gone. -/
structure Carries (indent : Text) (start : Nat) (nested out : Text) : Prop where
  within : ∀ index later line behind, index < later →
    (nested.splitOn '\n')[index + 1]? = some line → (nested.splitOn '\n')[later + 1]? = some behind →
      Text.isBlank behind = false → (out.splitOn '\n')[start + index + 1]? = some (indentLine indent line)
  written : ∀ index line, (nested.splitOn '\n')[index + 1]? = some line → Text.isBlank line = false →
    ∃ ending, (out.splitOn '\n')[start + index + 1]? = some (indent ++ (Text.trimEnd line ++ ending))

/-- Indentations of texts within texts add up, the outer one first. -/
theorem Carries.trans {inner outer nested middle out : Text} {start offset : Nat}
    (below : Carries inner offset nested middle) (above : Carries outer start middle out) :
    Carries (outer ++ inner) (start + offset) nested out where
  within := by
    intro index later line behind earlier found foundLater written
    have middleLine := below.within index later line behind earlier found foundLater written
    obtain ⟨ending, middleBehind⟩ := below.written later behind foundLater written
    have stays : Text.isBlank (inner ++ (Text.trimEnd behind ++ ending)) = false := by
      rw [Text.isBlank_append, Text.isBlank_append, Text.isBlank_trimEnd, written, Bool.false_and,
        Bool.and_false]
    have placed := above.within (offset + index) (offset + later) _ _ (by omega) middleLine middleBehind stays
    rwa [indentLine_indentLine, ← Nat.add_assoc] at placed
  written := by
    intro index line found written
    obtain ⟨ending, middleLine⟩ := below.written index line found written
    have stays : Text.isBlank (inner ++ (Text.trimEnd line ++ ending)) = false := by
      rw [Text.isBlank_append, Text.isBlank_append, Text.isBlank_trimEnd, written, Bool.false_and,
        Bool.and_false]
    obtain ⟨rest, placed⟩ := above.written (offset + index) _ middleLine stays
    obtain ⟨kept, trimmed⟩ := Text.exists_trimEnd_append written inner ending
    refine ⟨kept ++ rest, ?_⟩
    rw [trimmed, ← Nat.add_assoc] at placed
    simpa using placed

/-- The lines of two texts agree down to the last one of the first, which goes on in the second
unless it is blank. -/
theorem Carries.of_common {nested out last : Text} {common tail : List Text}
    (lines : nested.splitOn '\n' = common ++ [last]) (outLines : out.splitOn '\n' = common ++ tail)
    (goesOn : Text.isBlank last = false → ∃ ending rest, tail = (Text.trimEnd last ++ ending) :: rest) :
    Carries [] 0 nested out where
  within := by
    intro index later line behind earlier found foundLater written
    rw [lines] at found foundLater
    have inside : index + 1 < common.length := by
      have bound := (List.getElem?_eq_some_iff.mp foundLater).1
      rw [List.length_append, List.length_singleton] at bound
      omega
    have same : indentLine [] line = line := ite_self line
    rw [List.getElem?_append_left inside] at found
    rw [outLines, same, Nat.zero_add, List.getElem?_append_left inside, found]
  written := by
    intro index line found written
    rw [lines] at found
    rw [outLines, Nat.zero_add]
    by_cases inside : index + 1 < common.length
    · obtain ⟨ending, same⟩ := Text.exists_trimEnd line
      rw [List.getElem?_append_left inside] at found
      exact ⟨ending, by rw [List.getElem?_append_left inside, found, List.nil_append, ← same]⟩
    · rw [List.getElem?_append_right (by omega), List.getElem?_singleton] at found
      split at found
      · rename_i first
        obtain rfl := Option.some.inj found
        obtain ⟨ending, rest, rfl⟩ := goesOn written
        exact ⟨ending, by rw [List.getElem?_append_right (by omega), first]; rfl⟩
      · cases found

theorem Carries.refl (text : Text) : Carries [] 0 text text := by
  obtain ⟨common, last, lines⟩ := Text.exists_last_line text
  obtain ⟨ending, same⟩ := Text.exists_trimEnd last
  exact .of_common lines lines fun _ => ⟨ending, [], by rw [← same]⟩

theorem Carries.append (text behind : Text) : Carries [] 0 text (text ++ behind) := by
  obtain ⟨common, last, lines⟩ := Text.exists_last_line text
  obtain ⟨first, rest, more⟩ := Text.exists_first_line behind
  obtain ⟨ending, same⟩ := Text.exists_trimEnd last
  refine .of_common lines (Text.splitOn_append lines more) fun _ => ⟨ending ++ first, rest, ?_⟩
  rw [← List.append_assoc, ← same]

theorem Carries.behind (before text : Text) : Carries [] (before.count '\n') text (before ++ text) := by
  obtain ⟨above, last, parts⟩ := Text.exists_last_line before
  obtain ⟨first, rest, lines⟩ := Text.exists_first_line text
  have count : before.count '\n' = above.length := by
    have length := Text.length_splitOn before
    rw [parts, List.length_append, List.length_singleton] at length
    omega
  have moved (index : Nat) : ((before ++ text).splitOn '\n')[before.count '\n' + index + 1]? =
      (text.splitOn '\n')[index + 1]? := by
    rw [Text.splitOn_append parts lines, lines, count, List.getElem?_append_right (by omega)]
    have place : above.length + index + 1 - above.length = index + 1 := by omega
    rw [place, List.getElem?_cons_succ, List.getElem?_cons_succ]
  have same := Carries.refl text
  constructor
  · intro index later line behind earlier found foundLater written
    rw [moved, ← Nat.zero_add index]
    exact same.within index later line behind earlier found foundLater written
  · intro index line found written
    rw [moved, ← Nat.zero_add index]
    exact same.written index line found written

theorem Carries.dropLast {c : Char} (space : Text.isSpace c = true) (text : Text) :
    Carries [] 0 text (dropLast c text) := by
  unfold Transclusion.dropLast
  split
  · rename_i ends
    obtain ⟨front, rfl⟩ := List.getLast?_eq_some_iff.mp ends
    rw [List.dropLast_concat]
    by_cases feed : c = '\n'
    · have lines : (front ++ [c]).splitOn '\n' = front.splitOn '\n' ++ [[]] := by
        rw [feed, Text.splitOn_line]
        rfl
      refine .of_common lines (List.append_nil _).symm ?_
      intro written
      cases written
    · have single : [c].splitOn '\n' = [[c]] := Text.splitOn_one_line (by simpa using Ne.symm feed)
      obtain ⟨common, last, lines⟩ := Text.exists_last_line front
      obtain ⟨ending, same⟩ := Text.exists_trimEnd last
      refine .of_common (Text.splitOn_append lines single) lines fun _ => ⟨ending, [], ?_⟩
      rw [Text.trimEnd_append (by simpa using space), ← same]
  · exact .refl text

theorem Carries.trimTrailingNewline (text : Text) : Carries [] 0 text (trimTrailingNewline text) :=
  (Carries.dropLast (c := '\n') (by decide) text).trans (Carries.dropLast (c := '\r') (by decide) _)

theorem Carries.indentFollowingLines {indent : Text} (oneLine : '\n' ∉ indent) (text : Text) :
    Carries indent 0 text (indentFollowingLines indent text) where
  within := by
    intro index later line behind earlier found foundLater written
    rw [Nat.zero_add, (isIndented oneLine text).later, found, Option.map_some]
  written := by
    intro index line found written
    obtain ⟨ending, same⟩ := Text.exists_trimEnd line
    refine ⟨ending, ?_⟩
    rw [Nat.zero_add, (isIndented oneLine text).later, found, Option.map_some,
      indentLine_written written, ← same]

/-- A document within others: `room` more may be nested in it, and `stack` holds the locations of the
documents that lead to it. -/
structure Site where
  room : Nat
  stack : List Path
  base : Option Path
  text : Text
  deriving DecidableEq, Repr

def Site.expand (context : Context) (site : Site) : Except TransclusionFault Text :=
  Transclusion.expand context site.room site.stack site.base site.text

def Site.within (site : Site) (room : Nat) (inclusion : Inclusion) : Site :=
  ⟨room, site.stack ++ [inclusion.location], inclusion.location.parent?, inclusion.text⟩

def Site.replacement (context : Context) (site : Site) (link indent : Text) : Except TransclusionFault Text :=
  if isRemote link then .error (.remote link)
  else
    match site.room with
    | 0 => .error (.tooDeep context.maxDepth link)
    | room + 1 => do
      let inclusion ← load context site.stack site.base link
      let nested ← (site.within room inclusion).expand context
      return splice indent nested

/-- How many lines a part of an expansion fills above what stands behind it. -/
def linesAbove : Except TransclusionFault Text → Nat
  | .ok before => before.count '\n'
  | .error _ => 0

/-- A chain of directives leads from a document to one within it, each directive standing in the document
that the one before it links to. Their indentations are `indents`, the outermost first, and the expansion
of the document within begins on the line `start` of the whole expansion. -/
inductive Nests (context : Context) : Site → List Text → Nat → Site → Prop where
  | here (site : Site) : Nests context site [] 0 site
  | directive {site target : Site} {room start : Nat} {front rest : List DocumentPiece} {link indent : Text}
      {inclusion : Inclusion} {indents : List Text} (enough : site.room = room + 1)
      (found : Directive.pieces site.text = front ++ .directive link indent :: rest)
      (loaded : load context site.stack site.base link = .ok inclusion)
      (nests : Nests context (site.within room inclusion) indents start target) :
      Nests context site (indent :: indents)
        (linesAbove (assemble (site.replacement context) front) + start) target

section Chain

variable {context : Context} {site target : Site}

theorem Site.expand_eq (context : Context) (site : Site) :
    site.expand context = assemble (site.replacement context) (Directive.pieces site.text) := by
  obtain ⟨room, stack, base, text⟩ := site
  cases room <;> rfl

theorem Site.replacement_eq {room : Nat} {inclusion : Inclusion} {link indent out : Text}
    (enough : site.room = room + 1) (loaded : load context site.stack site.base link = .ok inclusion)
    (replaced : site.replacement context link indent = .ok out) :
    ∃ inner, (site.within room inclusion).expand context = .ok inner ∧ out = splice indent inner := by
  unfold Site.replacement at replaced
  rw [enough] at replaced
  split at replaced
  · cases replaced
  · obtain ⟨found, same, more⟩ := bind_eq_ok.mp replaced
    obtain rfl := Except.ok.inj (loaded.symm.trans same)
    obtain ⟨inner, expanded, same⟩ := bind_eq_ok.mp more
    exact ⟨inner, expanded, (pure_eq_ok.mp same).symm⟩

theorem Nests.isMargin {indents : List Text} {start : Nat} (nests : Nests context site indents start target) :
    ∀ indent ∈ indents, IsMargin indent := by
  induction nests with
  | here site => simp
  | directive enough found loaded nests ih => exact List.forall_mem_cons.mpr ⟨isMargin_of_piece found, ih⟩

/-- By induction on the chain: what a directive brings in is trimmed, indented and put between what
stands before and behind the directive. -/
theorem Nests.carries {indents : List Text} {start : Nat} {out : Text}
    (nests : Nests context site indents start target) (expanded : site.expand context = .ok out) :
    ∃ nested, target.expand context = .ok nested ∧ Carries indents.flatten start nested out := by
  induction nests generalizing out with
  | here site => exact ⟨out, expanded, .refl out⟩
  | directive enough found loaded nests ih =>
    rw [Site.expand_eq, found] at expanded
    obtain ⟨before, tail, assembled, assembledTail, rfl⟩ := assemble_append_eq_ok.mp expanded
    obtain ⟨insert, replaced, more⟩ := bind_eq_ok.mp assembledTail
    obtain ⟨behind, -, same⟩ := bind_eq_ok.mp more
    obtain rfl := pure_eq_ok.mp same
    obtain ⟨inner, innerExpanded, rfl⟩ := Site.replacement_eq enough loaded replaced
    obtain ⟨nested, nestedExpanded, below⟩ := ih innerExpanded
    have oneLine := (isMargin_of_piece found).one_line
    have spliced := (below.trans (.trimTrailingNewline inner)).trans (.indentFollowingLines oneLine _)
    have placed := (spliced.trans (.append _ behind)).trans (.behind before _)
    refine ⟨nested, nestedExpanded, ?_⟩
    rw [assembled]
    simpa [splice, linesAbove] using placed

end Chain

/-- Indentations add up. Indenting by one and then by another is indenting by the second before the first;
the lines stay as many as they are, and of the lines behind the first one those that are not blank get the
indentation; the end is trimmed as without it. So a document that a chain of directives includes stands
behind the indentations of all of them. -/
theorem indentations_add_up :
    (∀ outer inner text, IsMargin outer → IsMargin inner →
      indentFollowingLines outer (indentFollowingLines inner text) =
        indentFollowingLines (outer ++ inner) text) ∧
    (∀ indent text, IsMargin indent → IsIndented indent text (indentFollowingLines indent text) ∧
      trimTrailingNewline (indentFollowingLines indent text) =
        indentFollowingLines indent (trimTrailingNewline text)) ∧
    ∀ context site indents start target out, Nests context site indents start target →
      site.expand context = .ok out → (∀ indent ∈ indents, IsMargin indent) ∧
        ∃ nested, target.expand context = .ok nested ∧ Carries indents.flatten start nested out := by
  refine ⟨?_, ?_, ?_⟩
  · intro outer inner text _ margin
    exact indentFollowingLines_twice outer margin.one_line text
  · intro indent text margin
    exact ⟨isIndented margin.one_line text, trimTrailingNewline_indentFollowingLines indent text⟩
  · intro context site indents start target out nests expanded
    exact ⟨nests.isMargin, nests.carries expanded⟩

/-- A document with a blank line, included behind a tab by one that is included behind two spaces. -/
theorem indentations_add_up_listed :
    let table : IncludeTable :=
      ⟨[(⟨"a".toList⟩, "- item\n\t:[](b)".toList), (⟨"b".toList⟩, "x\n\ny\r\n".toList)]⟩
    let context : Context := ⟨table.loader, 2⟩
    let site : Site := ⟨2, [], none, "top\n  :[](a)\nend".toList⟩
    let target : Site := ⟨0, [⟨"a".toList⟩, ⟨"b".toList⟩], some ⟨[]⟩, "x\n\ny\r\n".toList⟩
    let out := "top\n  - item\n  \tx\n\n  \ty\nend".toList
    IsMargin "  ".toList ∧ IsMargin "\t".toList ∧
      Nests context site ["  ".toList, "\t".toList] 2 target ∧ site.expand context = .ok out ∧
      indentFollowingLines "  ".toList (indentFollowingLines "\t".toList out) =
        indentFollowingLines "  \t".toList out ∧
      ∃ nested, target.expand context = .ok nested ∧ Carries "  \t".toList 2 nested out := by
  intro table context site target out
  have spaces : IsMargin "  ".toList := by decide
  have tab : IsMargin "\t".toList := by decide
  have expanded : site.expand context = .ok out := by decide +kernel
  have nests : Nests context site ["  ".toList, "\t".toList] 2 target := by
    have outer : Directive.pieces "top\n  :[](a)\nend".toList =
        "top\n  ".toList.map .literal ++ .directive ['a'] "  ".toList :: "\nend".toList.map .literal := by
      decide +kernel
    have inner : Directive.pieces "- item\n\t:[](b)".toList =
        "- item\n\t".toList.map .literal ++ [.directive ['b'] "\t".toList] := by
      decide +kernel
    let included : Inclusion := ⟨⟨"a".toList⟩, "- item\n\t:[](b)".toList⟩
    have loadedOuter : load context [] none ['a'] = .ok included := by decide +kernel
    have loadedInner : load context [⟨"a".toList⟩] (some ⟨[]⟩) ['b'] = .ok ⟨⟨"b".toList⟩, target.text⟩ := by
      decide +kernel
    have below := @Nests.directive context (site.within 1 included) target 0 0 _ [] ['b'] "\t".toList _ [] rfl
      inner loadedInner (.here target)
    exact @Nests.directive context site target 1 1 _ _ ['a'] "  ".toList _ _ rfl outer loadedOuter below
  exact ⟨spaces, tab, nests, expanded, indentations_add_up.1 _ _ out spaces tab,
    (indentations_add_up.2.2 context site _ 2 target out nests expanded).2⟩

end Transclusion
end ApiBlueprint

import ApiBlueprint.Proofs.Grammar.Covered
import ApiBlueprint.Proofs.Include.Lines
import ApiBlueprint.Proofs.Include.Splice
import ApiBlueprint.Proofs.Include.Success

/-!
A document that is included inside a payload stays there: the lines that are spliced in belong to the
item that the include belongs to.
-/

namespace ApiBlueprint

open Transclusion

theorem has_directive_ending (text : Text) {ending : Text} (isEnding : Line.IsEnding ending) :
    HasDirective (text ++ ending) ↔ HasDirective text := by
  rcases isEnding with rfl | rfl
  · rw [List.append_nil]
  · exact has_directive_concat (by decide)

theorem has_directive_dropReturn {raw : Text} :
    HasDirective (Line.dropReturn raw) ↔ HasDirective raw := by
  obtain ⟨ending, isEnding, same⟩ := Line.exists_ending raw
  have whole := has_directive_ending (Line.dropReturn raw) isEnding
  rw [← same] at whole
  exact whole.symm

/-- A line in the content of a payload item that has a directive behind spaces and tabs, and nothing
else. No other directive stands on the lines from the item on. -/
structure PayloadInclude (source : Text) where
  above : List Line
  item : Line
  between : List Line
  line : Line
  below : List Line
  indent : Text
  directive : Text
  lines : splitLines source = above ++ item :: (between ++ line :: below)
  isItem : item.IsItem
  inside : ∀ other ∈ between, Payload.isContent item.indent other = true
  written : line.text = indent ++ directive
  isDirective : IsDirective directive
  blank : ∀ c ∈ indent, c = ' ' ∨ c = '\t'
  deep : item.indent + 4 ≤ Line.indentWidth indent
  plain : ∀ other ∈ item :: between, ¬ HasDirective other.text

namespace PayloadInclude

variable {source : Text}

def BringsIn (place : PayloadInclude source) (context : Context) (base : Option Path) (nested : Text) :
    Prop :=
  ∃ label link less inclusion,
    place.directive = ':' :: '[' :: (label ++ ']' :: '(' :: (link ++ [')'])) ∧
      context.maxDepth = less + 1 ∧ load context [] base link = .ok inclusion ∧
      expand context less [inclusion.location] inclusion.location.parent? inclusion.text = .ok nested

/-- In the text `out`, where `nested` is brought in, the payload still has what it had up to the
include, and has all lines that are spliced in. -/
structure IsKept (place : PayloadInclude source) (context : Context) (base : Option Path)
    (nested out : Text) (above : List Line) (item : Line) (rest : List Line) : Prop where
  lines : splitLines out = above ++ item :: rest
  expanded : ∃ before,
    ((source.splitOn '\n').take place.above.length).mapM (expand context context.maxDepth [] base) =
      .ok before ∧
    above.map Line.text = (before.flatMap fun text => text.splitOn '\n').map Line.dropReturn
  same : item.text = place.item.text
  covered : ∃ ending, Line.IsEnding ending ∧
    place.between.map Line.text ++
        ((place.indent ++ splice place.indent nested ++ ending).splitOn '\n').map Line.dropReturn <+:
      (Payload.content item rest).map Line.text
  /-- A reading comes to none of these lines, unless a fence is open since before the item. -/
  unread : ∀ state line after log, Reading.Reached out state (line :: after) log →
    line ∈ Payload.content item rest →
      ∃ fence, state.fence = some fence ∧ fence.openedAt < item.number

theorem exists_raw (place : PayloadInclude source) : ∃ above item between ending below,
    source.splitOn '\n' =
        above ++ item :: (between ++ (place.indent ++ (place.directive ++ ending)) :: below) ∧
      above.length = place.above.length ∧ Line.dropReturn item = place.item.text ∧
      between.map Line.dropReturn = place.between.map Line.text ∧ Line.IsEnding ending := by
  have texts := splitLines_texts source
  rw [place.lines, List.map_append, List.map_cons, List.map_append, List.map_cons] at texts
  obtain ⟨above, tail, whole, sameAbove, texts⟩ := List.map_eq_append_iff.mp texts.symm
  obtain ⟨item, tail, rfl, sameItem, texts⟩ := List.map_eq_cons_iff.mp texts
  obtain ⟨between, tail, rfl, sameBetween, texts⟩ := List.map_eq_append_iff.mp texts
  obtain ⟨raw, below, rfl, sameLine, -⟩ := List.map_eq_cons_iff.mp texts
  obtain ⟨ending, isEnding, parts⟩ := Line.exists_ending raw
  refine ⟨above, item, between, ending, below, ?_, ?_, sameItem, sameBetween, isEnding⟩
  · rw [whole, parts, sameLine, place.written, List.append_assoc]
  · simpa using congrArg List.length sameAbove

/-- The lines of the transcluded text, where those from the item to the include are as they were. -/
theorem exists_spliced (place : PayloadInclude source) {context : Context} {base : Option Path} {out : Text}
    (expanded : expand context context.maxDepth [] base source = .ok out) :
    ∃ nested before item between ending below, place.BringsIn context base nested ∧
      Line.IsEnding ending ∧
      ((source.splitOn '\n').take place.above.length).mapM (expand context context.maxDepth [] base) =
        .ok before ∧
      Line.dropReturn item = place.item.text ∧
      between.map Line.dropReturn = place.between.map Line.text ∧
      out.splitOn '\n' = (before.flatMap fun text => text.splitOn '\n') ++ item :: (between ++
        ((place.indent ++ splice place.indent nested ++ ending).splitOn '\n' ++ below)) := by
  obtain ⟨above, item, between, ending, below, raws, length, sameItem, sameBetween, isEnding⟩ :=
    place.exists_raw
  have oneLine : ∀ line ∈ source.splitOn '\n', '\n' ∉ line := fun line member =>
    Text.not_mem_of_mem_splitOn member
  obtain ⟨outs, mapped, lines⟩ := exists_expanded_lines expanded
  rw [raws] at oneLine mapped
  obtain ⟨plainItem, plainBetween⟩ := List.forall_mem_cons.mp place.plain
  have keptItem : ¬ HasDirective item := by
    rw [← has_directive_dropReturn, sameItem]
    exact plainItem
  have keptBetween : ∀ raw ∈ between, ¬ HasDirective raw := by
    have bare : ∀ text ∈ between.map Line.dropReturn, ¬ HasDirective text := by
      rw [sameBetween, List.forall_mem_map]
      exact plainBetween
    rw [List.forall_mem_map] at bare
    exact fun raw member => has_directive_dropReturn.not.mp (bare raw member)
  have bareEnding : ¬ HasDirective ending :=
    (has_directive_ending [] isEnding).not.mpr not_has_directive_nil
  obtain ⟨before, fromItem, mappedAbove, mappedTail, rfl⟩ := mapM_append_eq_ok.mp mapped
  obtain ⟨ownItem, fromBetween, mappedItem, mappedContent, rfl⟩ := mapM_cons_eq_ok.mp mappedTail
  obtain ⟨ownBetween, fromLine, mappedBetween, mappedEnd, rfl⟩ := mapM_append_eq_ok.mp mappedContent
  obtain ⟨spliced, behind, mappedLine, -, rfl⟩ := mapM_cons_eq_ok.mp mappedEnd
  obtain rfl := Except.ok.inj ((expand_plain keptItem).symm.trans mappedItem)
  obtain rfl := Except.ok.inj
    ((mapM_self fun raw member => expand_plain (keptBetween raw member)).symm.trans mappedBetween)
  obtain ⟨label, link, less, inclusion, nested, written, room, loaded, inner, rfl⟩ :=
    expand_directive place.blank place.isDirective bareEnding mappedLine
  refine ⟨nested, before, item, between, ending, behind.flatMap fun text => text.splitOn '\n',
    ⟨label, link, less, inclusion, written, room, loaded, inner⟩, isEnding, ?_, sameItem,
    sameBetween, ?_⟩
  · rw [raws, ← length, List.take_left]
    exact mappedAbove
  · rw [List.forall_mem_append, List.forall_mem_cons, List.forall_mem_append] at oneLine
    obtain ⟨-, oneItem, oneBetween, -⟩ := oneLine
    rw [lines, List.flatMap_append, List.flatMap_cons, List.flatMap_append, List.flatMap_cons,
      Text.splitOn_one_line oneItem, Text.flatMap_splitOn oneBetween, List.singleton_append,
      List.append_assoc]

/-- Every line between the item and the include, and every line that is spliced in, is deep enough to
belong to the item. -/
theorem content_deep (place : PayloadInclude source) {ending : Text} (isEnding : Line.IsEnding ending)
    (nested : Text) : ∀ text ∈ place.between.map Line.text ++
      ((place.indent ++ splice place.indent nested ++ ending).splitOn '\n').map Line.dropReturn,
      Line.IsDeep (place.item.indent + 4) text := by
  rw [List.forall_mem_append, List.forall_mem_map, List.forall_mem_map]
  constructor
  · intro line member
    exact Payload.isContent_iff.mp (place.inside line member)
  · intro raw member
    rw [Line.isDeep_dropReturn]
    exact (splice_indented_ending place.blank isEnding nested raw member).imp_right place.deep.trans

end PayloadInclude

/-- A document that is included inside a payload stays inside it. Each line of what is spliced in is
blank or as deep as the directive; so it belongs to the payload item, as all lines above it in the
content do, and no reading comes to it outside of fences. -/
theorem transclude_keeps_in_payload {source out : Text} {loader : Loader} {maxDepth : Nat}
    {base : Option Path} (place : PayloadInclude source)
    (transcluded : transclude loader maxDepth base source = .ok out) :
    ∃ nested, place.BringsIn ⟨loader, maxDepth⟩ base nested ∧
      (∀ line ∈ (place.indent ++ splice place.indent nested).splitOn '\n',
        Line.IsDeep (Line.indentWidth place.indent) line) ∧
      ∃ above item rest, place.IsKept ⟨loader, maxDepth⟩ base nested out above item rest := by
  obtain ⟨-, expanded, -⟩ := transclude_eq_ok_iff.mp transcluded
  obtain ⟨nested, before, item, between, ending, below, bringsIn, isEnding, mapped, sameItem,
    sameBetween, lines⟩ := place.exists_spliced expanded
  refine ⟨nested, bringsIn, splice_indented place.blank nested, ?_⟩
  have texts := splitLines_texts out
  rw [lines, List.map_append, List.map_cons, List.map_append, List.map_append, sameItem,
    sameBetween, ← List.append_assoc (place.between.map Line.text)] at texts
  obtain ⟨aboveLines, tail, whole, textsAbove, texts⟩ := List.map_eq_append_iff.mp texts
  obtain ⟨itemLine, tail, rfl, textItem, texts⟩ := List.map_eq_cons_iff.mp texts
  obtain ⟨covered, rest, rfl, textsCovered, -⟩ := List.map_eq_append_iff.mp texts
  have isItem : itemLine.IsItem := by
    unfold Line.IsItem
    rw [textItem]
    exact place.isItem
  have indent : itemLine.indent = place.item.indent := congrArg Line.indentWidth textItem
  have inside : ∀ line ∈ covered, Payload.isContent itemLine.indent line = true := by
    intro line member
    rw [indent, Payload.isContent_iff]
    exact place.content_deep isEnding nested _ (textsCovered ▸ List.mem_map_of_mem member)
  have content : Payload.content itemLine (covered ++ rest) =
      covered ++ Payload.content itemLine rest := List.takeWhile_append_of_pos inside
  refine ⟨aboveLines, itemLine, covered ++ rest, whole, ⟨before, mapped, textsAbove⟩, textItem,
    ⟨ending, isEnding, ?_⟩, ?_⟩
  · rw [content, List.map_append, textsCovered]
    exact List.prefix_append _ _
  · intro state line after log reached member
    exact reached.fenced_in_content whole isItem member

def Blueprint.pour : Text :=
  "### Pour [GET]\n+ Response 200\n\n\t\t:[hot](cup)\r\nlast".toList

def Blueprint.pourInclude : PayloadInclude pour where
  above := [⟨"### Pour [GET]".toList, 1⟩]
  item := ⟨"+ Response 200".toList, 2⟩
  between := [⟨[], 3⟩]
  line := ⟨"\t\t:[hot](cup)".toList, 4⟩
  below := [⟨"last".toList, 5⟩]
  indent := "\t\t".toList
  directive := ":[hot](cup)".toList
  lines := by decide +kernel
  isItem := by decide +kernel
  inside := by decide
  written := rfl
  isDirective := ⟨"hot".toList, "cup".toList, rfl, by simp, by simp, by simp; decide⟩
  blank := by decide
  deep := by decide
  plain := by
    have noColon : ∀ c ∈ "+ Response 200".toList, c ≠ ':' := by decide
    have plainItem : ¬ HasDirective ("+ Response 200".toList ++ []) := fun has =>
      not_has_directive_nil ((has_directive_append_left noColon).mp has)
    exact List.forall_mem_cons.mpr
      ⟨plainItem, List.forall_mem_singleton.mpr not_has_directive_nil⟩

/-- The document has a heading and an item, which would end the payload further to the left. -/
theorem transclude_keeps_in_payload_pour :
    let table : IncludeTable := ⟨[(⟨"cup".toList⟩, "# Cup\n\n+ Request\n".toList)]⟩
    let out := "### Pour [GET]\n+ Response 200\n\n\t\t# Cup\n\n\t\t+ Request\r\nlast".toList
    transclude table.loader 1 none Blueprint.pour = .ok out ∧
      ∃ nested, Blueprint.pourInclude.BringsIn ⟨table.loader, 1⟩ none nested ∧
        ∃ above item rest,
          Blueprint.pourInclude.IsKept ⟨table.loader, 1⟩ none nested out above item rest := by
  intro table out
  have transcluded : transclude table.loader 1 none Blueprint.pour = .ok out := by decide +kernel
  obtain ⟨nested, bringsIn, -, kept⟩ := transclude_keeps_in_payload Blueprint.pourInclude transcluded
  exact ⟨transcluded, nested, bringsIn, kept⟩

end ApiBlueprint

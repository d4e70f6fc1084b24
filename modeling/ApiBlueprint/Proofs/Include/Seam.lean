import ApiBlueprint.Proofs.Include.Pattern
import ApiBlueprint.Proofs.Include.Splice
import ApiBlueprint.Proofs.Include.Success

/-!
Directives that an expansion leaves behind. The documents are searched one by one and their
expansions are not searched again, so a directive stays exactly where a seam comes to lie inside
one: its beginning ends one stretch of text, and its rest begins the next.
-/

namespace ApiBlueprint

/-- A seam of the cut has a part of a directive right before it and the rest right behind it. -/
def Cut.SplitsDirective (cut : Cut) : Prop :=
  ∃ left right start rest, cut.stretches = left ++ right ∧ start ≠ [] ∧ rest ≠ [] ∧
    IsDirective (start ++ rest) ∧ start <:+ left.flatten ∧ rest <+: right.flatten

theorem has_directive_flatten {stretches : List Text} (has : HasDirective stretches.flatten) :
    (∃ stretch ∈ stretches, HasDirective stretch) ∨
      ∃ left right start rest, stretches = left ++ right ∧ start ≠ [] ∧ rest ≠ [] ∧
        IsDirective (start ++ rest) ∧ start <:+ left.flatten ∧ rest <+: right.flatten := by
  induction stretches with
  | nil => exact absurd has not_has_directive_nil
  | cons stretch more ih =>
    obtain ⟨directive, isDirective, inside⟩ := has
    rw [List.flatten_cons] at inside
    rcases List.infix_append_iff_ne_nil.mp inside with
      here | later | ⟨start, rest, begun, open?, rfl, before, behind⟩
    · exact Or.inl ⟨stretch, List.mem_cons_self, directive, isDirective, here⟩
    · rcases ih ⟨directive, isDirective, later⟩ with
        ⟨other, member, has⟩ | ⟨left, right, start, rest, rfl, begun, open?, isDirective, before, behind⟩
      · exact Or.inl ⟨other, List.mem_cons_of_mem stretch member, has⟩
      · refine Or.inr ⟨stretch :: left, right, start, rest, rfl, begun, open?, isDirective, ?_, behind⟩
        exact List.IsSuffix.trans before ⟨stretch, by simp⟩
    · exact Or.inr ⟨[stretch], more, start, rest, rfl, begun, open?, isDirective, by simpa using before,
        behind⟩

theorem Cut.has_directive_iff (cut : Cut) :
    HasDirective cut.text ↔ (∃ stretch ∈ cut.stretches, HasDirective stretch) ∨ cut.SplitsDirective := by
  rw [← cut.flatten_stretches]
  constructor
  · exact has_directive_flatten
  · rintro (⟨stretch, member, has⟩ | ⟨left, right, start, rest, equal, -, -, isDirective, before, behind⟩)
    · exact has.mono (List.infix_of_mem_flatten member)
    · obtain ⟨front, before⟩ := before
      obtain ⟨back, behind⟩ := behind
      refine ⟨start ++ rest, isDirective, front, back, ?_⟩
      rw [equal, List.flatten_append, ← before, ← behind]
      simp

namespace Transclusion

theorem has_directive_dropLast {c : Char} {text : Text} (other : c ≠ ')') :
    HasDirective (dropLast c text) ↔ HasDirective text := by
  unfold dropLast
  split
  · rename_i last
    obtain ⟨front, rfl⟩ := List.getLast?_eq_some_iff.mp last
    rw [List.dropLast_concat, has_directive_concat other]
  · rfl

theorem has_directive_indent {indent text : Text} (blank : ∀ c ∈ indent, Text.isSpace c = true) :
    HasDirective (indentFollowingLines indent text) ↔ HasDirective text := by
  have other (line : Text) : HasDirective (indentLine indent line) ↔ HasDirective line := by
    unfold indentLine
    split
    · rfl
    · refine has_directive_append_left fun c member => ?_
      rintro rfl
      exact absurd (blank ':' member) (by decide)
  obtain ⟨first, rest, lines⟩ := Text.exists_first_line text
  have whole : HasDirective text ↔ ∃ line ∈ first :: rest, HasDirective line := by
    rw [← lines, ← has_directive_lines, Text.joinWith_splitOn]
  rw [whole, indentFollowingLines_eq lines, has_directive_lines]
  simp only [List.mem_cons, exists_eq_or_imp, List.mem_map]
  refine or_congr_right ⟨?_, ?_⟩
  · rintro ⟨_, ⟨line, member, rfl⟩, has⟩
    exact ⟨line, member, (other line).mp has⟩
  · rintro ⟨line, member, has⟩
    exact ⟨_, ⟨line, member, rfl⟩, (other line).mpr has⟩

theorem has_directive_splice {indent nested : Text} (blank : ∀ c ∈ indent, Text.isSpace c = true) :
    HasDirective (splice indent nested) ↔ HasDirective nested := by
  unfold splice trimTrailingNewline
  rw [has_directive_indent blank, has_directive_dropLast (by decide), has_directive_dropLast (by decide)]

end Transclusion

namespace IncludeTable

open Transclusion

variable {table : IncludeTable}

theorem gaps_of_literal {cut : Cut} {c : Char} {rest first : Text} {more : List Text}
    (free : ∀ gap ∈ cut.gaps, ¬ HasDirective gap) (gaps : cut.gaps = first :: more)
    (isPrefix : first <+: rest)
    (unbegun : ∀ directive, IsDirective directive → ¬ directive <+: c :: rest) :
    (∀ gap ∈ (cut.delay c).gaps, ¬ HasDirective gap) ∧
      ∃ first more, (cut.delay c).gaps = first :: more ∧ first <+: c :: rest := by
  obtain ⟨first', more', gaps', delayed⟩ := cut.gaps_delay c
  obtain ⟨rfl, rfl⟩ := List.cons.inj (gaps.symm.trans gaps')
  have longer : c :: first <+: c :: rest := List.cons_prefix_cons.mpr ⟨rfl, isPrefix⟩
  rw [delayed]
  refine ⟨fun gap member => ?_, c :: first, more, rfl, longer⟩
  rcases List.mem_cons.mp member with rfl | later
  · rw [has_directive_cons_iff fun directive isDirective here =>
      unbegun directive isDirective (here.trans longer)]
    exact free first (by simp [gaps])
  · exact free gap (by simp [gaps, later])

/-- What the search leaves of a text holds no directive by itself. -/
theorem gaps_of_expandsTo {base : Option Path} {indent : Option Text} {text : Text} {cut : Cut}
    (expands : table.ExpandsTo base (Directive.piecesFrom indent text) cut) :
    (∀ gap ∈ cut.gaps, ¬ HasDirective gap) ∧ ∃ first more, cut.gaps = first :: more ∧ first <+: text := by
  induction indent, text using Directive.piecesFrom.induct generalizing cut with
  | case1 indent =>
    rw [Directive.piecesFrom] at expands
    cases expands
    refine ⟨fun gap member => ?_, [], [], rfl, List.nil_prefix⟩
    obtain rfl : gap = [] := by simpa [Cut.gaps] using member
    exact not_has_directive_nil
  | case2 indent rest link after found ih =>
    rw [Directive.pieces_linked found] at expands
    cases expands with
    | directive entry nested expands =>
      rw [Cut.gaps_push]
      refine ⟨fun gap member => ?_, [], _, rfl, List.nil_prefix⟩
      rcases List.mem_cons.mp member with rfl | later
      · exact not_has_directive_nil
      · exact (ih expands).1 gap later
  | case3 indent rest missing ih =>
    rw [Directive.pieces_unlinked missing] at expands
    cases expands with
    | literal expands =>
      obtain ⟨free, first, more, gaps, isPrefix⟩ := ih expands
      refine gaps_of_literal free gaps isPrefix fun directive isDirective => ?_
      exact Directive.not_prefix_of_link_none missing isDirective
  | case4 indent c rest other ih =>
    rw [Directive.pieces_other other] at expands
    cases expands with
    | literal expands =>
      obtain ⟨free, first, more, gaps, isPrefix⟩ := ih expands
      refine gaps_of_literal free gaps isPrefix fun directive isDirective => ?_
      exact Directive.not_prefix_of_other other isDirective

theorem mem_inserts_iff {base : Option Path} {pieces : List DocumentPiece} {cut : Cut} {insert : Text}
    (expands : table.ExpandsTo base pieces cut) :
    insert ∈ cut.inserts ↔ ∃ link indent included inner, .directive link indent ∈ pieces ∧
      table.source? (locate link base) = some included ∧ table.Substitutes included inner ∧
        insert = splice indent inner.text := by
  induction expands with
  | nil => simp [Cut.inserts]
  | literal rest ih =>
    rw [Cut.inserts_delay, ih]
    simp
  | @directive base link indent pieces cut included inner found nested rest ihNested ihRest =>
    rw [Cut.inserts_push, List.mem_cons, ihRest]
    constructor
    · rintro (rfl | ⟨other, space, document, text, member, entry, substitutes, rfl⟩)
      · exact ⟨link, indent, included, inner, List.mem_cons_self, found, nested, rfl⟩
      · exact ⟨other, space, document, text, List.mem_cons_of_mem _ member, entry, substitutes, rfl⟩
    · rintro ⟨other, space, document, text, member, entry, substitutes, rfl⟩
      rcases List.mem_cons.mp member with same | later
      · obtain ⟨rfl, rfl⟩ := DocumentPiece.directive.inj same
        obtain rfl := Option.some.inj (found.symm.trans entry)
        rw [expandsTo_unique nested substitutes]
        exact Or.inl rfl
      · exact Or.inr ⟨other, space, document, text, later, entry, substitutes, rfl⟩

/-- A directive in a substituted text comes with a document included there, or lies on a seam. -/
theorem Substitutes.has_directive_iff {source : IncludeSource} {cut : Cut}
    (substitutes : table.Substitutes source cut) :
    HasDirective cut.text ↔ cut.SplitsDirective ∨
      ∃ first included inner, source.LeadsTo first ∧ table.source? first = some included ∧
        table.Substitutes included inner ∧ HasDirective inner.text := by
  rw [cut.has_directive_iff, or_comm]
  refine or_congr_right ⟨?_, ?_⟩
  · rintro ⟨stretch, member, has⟩
    rcases Cut.mem_stretches_iff.mp member with isGap | isInsert
    · exact absurd has ((gaps_of_expandsTo substitutes).1 stretch isGap)
    · obtain ⟨link, indent, included, inner, mentions, found, nested, rfl⟩ :=
        (mem_inserts_iff substitutes).mp isInsert
      have blank := Directive.indent_blank mentions
      exact ⟨_, included, inner, ⟨link, indent, mentions, rfl⟩, found, nested,
        (has_directive_splice blank).mp has⟩
  · rintro ⟨_, included, inner, ⟨link, indent, mentions, rfl⟩, found, nested, has⟩
    have blank := Directive.indent_blank mentions
    have isInsert := (mem_inserts_iff substitutes).mpr
      ⟨link, indent, included, inner, mentions, found, nested, rfl⟩
    exact ⟨_, Cut.mem_stretches_iff.mpr (Or.inr isInsert), (has_directive_splice blank).mpr has⟩

/-- By induction on the depth: each document included one level down has less room below it. -/
theorem has_directive_substituted_iff {limit : Nat} {source : IncludeSource} {cut : Cut}
    (includable : table.Includable limit source) (substitutes : table.Substitutes source cut) :
    HasDirective cut.text ↔ ∃ visited seams, table.Visits source visited ∧
      table.Substitutes visited seams ∧ seams.SplitsDirective := by
  induction limit using Nat.strong_induction_on generalizing source cut with
  | _ limit ih =>
    rw [substitutes.has_directive_iff]
    constructor
    · rintro (splits | ⟨first, included, inner, leads, found, nested, has⟩)
      · exact ⟨source, cut, Or.inl rfl, substitutes, splits⟩
      · obtain ⟨less, smaller, below⟩ := includable.below leads found
        obtain ⟨visited, seams, visits, expands, splits⟩ := (ih less smaller below nested).mp has
        exact ⟨visited, seams, visits_of_included leads found visits, expands, splits⟩
    · rintro ⟨visited, seams, visits, expands, splits⟩
      rcases visits_cases visits with rfl | ⟨first, included, leads, found, visits⟩
      · rw [expandsTo_unique substitutes expands]
        exact Or.inl splits
      · right
        obtain ⟨less, smaller, below⟩ := includable.below leads found
        obtain ⟨inner, nested⟩ := substitutes_of_includable below
        have has := (ih less smaller below nested).mpr ⟨visited, seams, visits, expands, splits⟩
        exact ⟨first, included, inner, leads, found, nested, has⟩

end IncludeTable

/-- A directive is left in the outcome exactly if, in the text or in a document that it reaches, one
lies on a seam of the text as substituted. -/
theorem transclude_leaves_directive_iff (table : IncludeTable) (maxDepth : Nat) (base : Option Path)
    (text out : Text) (success : transclude table.loader maxDepth base text = .ok out) :
    HasDirective out ↔ ∃ visited cut, table.Visits ⟨base, text⟩ visited ∧
      table.Substitutes visited cut ∧ cut.SplitsDirective := by
  obtain ⟨-, expanded, -⟩ := transclude_eq_ok_iff.mp success
  obtain ⟨includable, cut, substitutes, rfl⟩ :=
    (@Transclusion.expand_eq_ok_iff table maxDepth ⟨base, text⟩ out).mp expanded
  exact IncludeTable.has_directive_substituted_iff includable substitutes

/-- The label of one directive is closed by the text that another one brings in. -/
theorem transclude_leaves_directive_behind_label :
    let table : IncludeTable := ⟨[(⟨"y".toList⟩, "done".toList), (⟨"x".toList⟩, "(y)".toList)]⟩
    let text := ":[a]:[b](x)".toList
    transclude table.loader 16 none text = .ok ":[a](y)".toList ∧ HasDirective ":[a](y)".toList ∧
      ∃ visited cut, table.Visits ⟨none, text⟩ visited ∧ table.Substitutes visited cut ∧
        cut.SplitsDirective := by
  intro table text
  have success : transclude table.loader 16 none text = .ok ":[a](y)".toList := by decide +kernel
  have has : HasDirective ":[a](y)".toList :=
    ⟨":[a](y)".toList, ⟨['a'], ['y'], rfl, by simp, by simp, by simp; decide⟩,
      List.infix_rfl⟩
  exact ⟨success, has, (transclude_leaves_directive_iff table 16 none text _ success).mp has⟩

end ApiBlueprint

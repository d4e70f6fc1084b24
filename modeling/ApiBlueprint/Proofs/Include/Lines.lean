import ApiBlueprint.Include.Expand
import ApiBlueprint.Proofs.Include.Pattern
import ApiBlueprint.Proofs.Outcome
import ApiBlueprint.Proofs.Text.Lines

/-!
Transclusion line by line. A directive does not go over the end of its line, so the expansion of a
text is the expansions of its lines, one below the other.
-/

namespace ApiBlueprint

namespace Directive

variable {indent : Option Text}

theorem link?_line (rest more : Text) :
    link? (rest ++ '\n' :: more) =
      (link? rest).map fun (link, after) => (link, after ++ '\n' :: more) := by
  cases found : link? rest with
  | some pair =>
    obtain ⟨link, after⟩ := pair
    obtain ⟨label, rfl, labelled, linked⟩ := link?_iff.mp found
    exact link?_iff.mpr ⟨label, by simp, labelled, linked⟩
  | none =>
    by_contra longer
    obtain ⟨⟨link, after⟩, reaches⟩ := Option.ne_none_iff_exists'.mp longer
    obtain ⟨label, equal, labelled, nonempty, linked⟩ := link?_iff.mp reaches
    have directive : IsDirective (':' :: '[' :: (label ++ ']' :: '(' :: (link ++ [')']))) :=
      ⟨label, link, rfl, labelled, nonempty, linked⟩
    apply not_prefix_of_link_none found directive
    have inside := directive.one_line
    -- The directive is a prefix of the longer text and has no line feed.
    have parts : rest ++ '\n' :: more = (label ++ ']' :: '(' :: (link ++ [')'])) ++ after := by
      simpa using equal
    rcases List.append_eq_append_iff.mp parts with ⟨tail, split, reaches⟩ | ⟨tail, rfl, -⟩
    · cases tail with
      | nil =>
        exact ⟨[], by simp [split]⟩
      | cons c tail =>
        obtain ⟨rfl, -⟩ := List.cons.inj reaches
        rw [split] at inside
        simp at inside
    · exact ⟨tail, by simp⟩

theorem pieces_line (text rest : Text) :
    piecesFrom indent (text ++ '\n' :: rest) =
      piecesFrom indent text ++ .literal '\n' :: pieces rest := by
  induction indent, text using piecesFrom.induct with
  | case1 indent =>
    rw [List.nil_append, pieces_other (by simp), piecesFrom, List.nil_append]
    rfl
  | case2 indent inner link after found ih =>
    have longer := link?_line inner rest
    rw [found] at longer
    rw [pieces_linked found, List.cons_append, List.cons_append, pieces_linked longer, ih,
      List.cons_append]
  | case3 indent inner missing ih =>
    have longer := link?_line inner rest
    rw [missing] at longer
    rw [pieces_unlinked missing, List.cons_append, List.cons_append, pieces_unlinked longer,
      ← List.cons_append, ih, List.cons_append]
  | case4 indent c inner other ih =>
    have unbegun : ∀ more, c = ':' → inner ++ '\n' :: rest = '[' :: more → False := by
      intro more colon bracket
      cases inner with
      | nil => simp at bracket
      | cons d inner =>
        obtain ⟨rfl, -⟩ := List.cons.inj bracket
        exact other inner colon rfl
    rw [pieces_other other, List.cons_append, pieces_other unbegun, ih, List.cons_append]

theorem pieces_plain {text : Text} (plain : ¬ HasDirective text) :
    piecesFrom indent text = text.map .literal := by
  induction indent, text using piecesFrom.induct with
  | case1 indent => rw [piecesFrom, List.map_nil]
  | case2 indent inner link after found ih =>
    obtain ⟨label, rfl, labelled, linked⟩ := link?_iff.mp found
    exact absurd ⟨_, ⟨label, link, rfl, labelled, linked⟩, [], after, by simp⟩ plain
  | case3 indent inner missing ih =>
    have later : ¬ HasDirective ('[' :: inner) := fun has =>
      plain (has.mono (List.infix_cons List.infix_rfl))
    rw [pieces_unlinked missing, ih later]
    rfl
  | case4 indent c inner other ih =>
    have later : ¬ HasDirective inner := fun has =>
      plain (has.mono (List.infix_cons List.infix_rfl))
    rw [pieces_other other, ih later]
    rfl

theorem pieces_indent {start indent : Text} (blank : ∀ c ∈ indent, c = ' ' ∨ c = '\t') (rest : Text) :
    piecesFrom (some start) (indent ++ rest) =
      indent.map .literal ++ piecesFrom (some (start ++ indent)) rest := by
  induction indent generalizing start with
  | nil => rw [List.append_nil, List.nil_append, List.map_nil, List.nil_append]
  | cons c indent ih =>
    obtain ⟨first, later⟩ := List.forall_mem_cons.mp blank
    have other : ∀ more, c = ':' → indent ++ rest = '[' :: more → False := by
      rcases first with rfl | rfl <;> simp
    have kept : indentAfter (some start) c = some (start ++ [c]) := by
      rcases first with rfl | rfl <;> rfl
    rw [List.cons_append, pieces_other other, kept, ih later, List.map_cons, List.cons_append,
      List.append_assoc, List.singleton_append]

theorem pieces_directive (start rest : Text) {directive : Text} (isDirective : IsDirective directive) :
    ∃ label link, directive = ':' :: '[' :: (label ++ ']' :: '(' :: (link ++ [')'])) ∧
      piecesFrom (some start) (directive ++ rest) = .directive link start :: piecesFrom none rest := by
  obtain ⟨label, link, rfl, labelled, linked⟩ := isDirective
  have found : link? (label ++ ']' :: '(' :: (link ++ ')' :: rest)) = some (link, rest) :=
    link?_iff.mpr ⟨label, rfl, labelled, linked⟩
  have linked : piecesFrom (some start) (':' :: '[' :: (label ++ ']' :: '(' :: (link ++ ')' :: rest))) =
      .directive link start :: piecesFrom none rest := pieces_linked found
  exact ⟨label, link, rfl, by simpa using linked⟩

end Directive

namespace Transclusion

variable {replace : Text → Text → Except TransclusionFault Text}

theorem assemble_literals (text : Text) : assemble replace (text.map .literal) = .ok text := by
  induction text with
  | nil => rfl
  | cons c text ih => exact bind_eq_ok.mpr ⟨text, ih, rfl⟩

theorem assemble_append (left right : List DocumentPiece) :
    assemble replace (left ++ right) = do
      let before ← assemble replace left
      let behind ← assemble replace right
      return before ++ behind := by
  induction left with
  | nil =>
    rw [List.nil_append]
    cases assemble replace right <;> rfl
  | cons piece left ih =>
    cases piece with
    | literal c =>
      rw [List.cons_append, assemble, assemble, ih]
      cases assemble replace left with
      | error fault => rfl
      | ok before => cases assemble replace right <;> rfl
    | directive link indent =>
      rw [List.cons_append, assemble, assemble, ih]
      cases replace link indent with
      | error fault => rfl
      | ok text =>
        cases assemble replace left with
        | error fault => rfl
        | ok before =>
          cases assemble replace right with
          | error fault => rfl
          | ok behind => exact congrArg Except.ok (List.append_assoc text before behind).symm

theorem assemble_append_eq_ok {left right : List DocumentPiece} {out : Text} :
    assemble replace (left ++ right) = .ok out ↔
      ∃ before behind, assemble replace left = .ok before ∧ assemble replace right = .ok behind ∧
        before ++ behind = out := by
  simp only [assemble_append, bind_eq_ok, pure_eq_ok, exists_and_left]

section Expansion

variable {context : Context} {room : Nat} {stack : List Path} {base : Option Path}

/-- What replaces a directive does not depend on the text that it stands in. -/
theorem expand_assembles (context : Context) (room : Nat) (stack : List Path) (base : Option Path) :
    ∃ replace, (∀ text, expand context room stack base text =
        assemble replace (Directive.pieces text)) ∧
      ∀ link indent out, replace link indent = .ok out →
        ∃ less inclusion nested, room = less + 1 ∧ load context stack base link = .ok inclusion ∧
          expand context less (stack ++ [inclusion.location]) inclusion.location.parent?
            inclusion.text = .ok nested ∧ out = splice indent nested := by
  cases room with
  | zero =>
    refine ⟨_, fun text => rfl, fun link indent out replaced => ?_⟩
    split at replaced <;> cases replaced
  | succ less =>
    refine ⟨_, fun text => rfl, fun link indent out replaced => ?_⟩
    split at replaced
    · cases replaced
    · obtain ⟨inclusion, loaded, replaced⟩ := bind_eq_ok.mp replaced
      obtain ⟨nested, expanded, same⟩ := bind_eq_ok.mp replaced
      exact ⟨less, inclusion, nested, rfl, loaded, expanded, (pure_eq_ok.mp same).symm⟩

theorem expand_plain {text : Text} (plain : ¬ HasDirective text) :
    expand context room stack base text = .ok text := by
  obtain ⟨replace, expands, -⟩ := expand_assembles context room stack base
  rw [expands, Directive.pieces, Directive.pieces_plain plain]
  exact assemble_literals text

/-- What stands on both sides of a line feed is expanded by itself, the upper part first. -/
theorem expand_line (text rest : Text) :
    expand context room stack base (text ++ '\n' :: rest) = do
      let before ← expand context room stack base text
      let behind ← expand context room stack base rest
      return before ++ '\n' :: behind := by
  obtain ⟨replace, expands, -⟩ := expand_assembles context room stack base
  have searched : Directive.pieces (text ++ '\n' :: rest) =
      Directive.pieces text ++ .literal '\n' :: Directive.pieces rest := Directive.pieces_line text rest
  rw [expands, expands, expands, searched, assemble_append, assemble]
  cases assemble replace (Directive.pieces text) with
  | error fault => rfl
  | ok before => cases assemble replace (Directive.pieces rest) <;> rfl

theorem expand_line_eq_ok {text rest out : Text} :
    expand context room stack base (text ++ '\n' :: rest) = .ok out ↔
      ∃ before behind, expand context room stack base text = .ok before ∧
        expand context room stack base rest = .ok behind ∧ before ++ '\n' :: behind = out := by
  simp only [expand_line, bind_eq_ok, pure_eq_ok, exists_and_left]

/-- By induction on the lines. -/
theorem expand_lines {lines : List Text} {out : Text} (some : lines ≠ [])
    (expanded : expand context room stack base (Text.joinWith ['\n'] lines) = .ok out) :
    ∃ outs, List.Forall₂ (fun line after => expand context room stack base line = .ok after) lines outs ∧
      Text.joinWith ['\n'] outs = out := by
  induction lines generalizing out with
  | nil => contradiction
  | cons line lines ih =>
    by_cases last : lines = []
    · rw [last, Text.joinWith_singleton] at expanded
      rw [last]
      exact ⟨[out], .cons expanded .nil, Text.joinWith_singleton _ out⟩
    · rw [Text.joinWith_cons line last] at expanded
      obtain ⟨before, behind, here, below, rfl⟩ := expand_line_eq_ok.mp expanded
      obtain ⟨outs, each, rfl⟩ := ih last below
      have more : outs ≠ [] := by
        rintro rfl
        exact last (List.forall₂_nil_right_iff.mp each)
      exact ⟨before :: outs, .cons here each, Text.joinWith_cons before more⟩

theorem exists_expanded_lines {text out : Text} (expanded : expand context room stack base text = .ok out) :
    ∃ outs, (text.splitOn '\n').mapM (expand context room stack base) = .ok outs ∧
      out.splitOn '\n' = outs.flatMap fun after => after.splitOn '\n' := by
  rw [← Text.joinWith_splitOn text] at expanded
  have some := List.splitOn_ne_nil '\n' text
  obtain ⟨outs, each, rfl⟩ := expand_lines some expanded
  refine ⟨outs, mapM_eq_ok_iff.mpr each, Text.splitOn_joinWith ?_⟩
  rintro rfl
  exact some (List.forall₂_nil_right_iff.mp each)

theorem expand_directive {indent directive ending out : Text} (blank : ∀ c ∈ indent, c = ' ' ∨ c = '\t')
    (isDirective : IsDirective directive) (plain : ¬ HasDirective ending)
    (expanded : expand context room stack base (indent ++ (directive ++ ending)) = .ok out) :
    ∃ label link less inclusion nested,
      directive = ':' :: '[' :: (label ++ ']' :: '(' :: (link ++ [')'])) ∧ room = less + 1 ∧
        load context stack base link = .ok inclusion ∧
        expand context less (stack ++ [inclusion.location]) inclusion.location.parent?
          inclusion.text = .ok nested ∧
        out = indent ++ (splice indent nested ++ ending) := by
  obtain ⟨replace, expands, replaces⟩ := expand_assembles context room stack base
  obtain ⟨label, link, written, found⟩ := Directive.pieces_directive indent ending isDirective
  rw [expands, Directive.pieces, Directive.pieces_indent blank, List.nil_append, found,
    Directive.pieces_plain plain, assemble_append_eq_ok] at expanded
  obtain ⟨before, behind, kept, rest, rfl⟩ := expanded
  obtain rfl := Except.ok.inj ((assemble_literals indent).symm.trans kept)
  obtain ⟨text, replaced, tail⟩ := bind_eq_ok.mp rest
  obtain ⟨_, assembled, same⟩ := bind_eq_ok.mp tail
  obtain rfl := Except.ok.inj ((assemble_literals ending).symm.trans assembled)
  obtain rfl := pure_eq_ok.mp same
  obtain ⟨less, inclusion, nested, enough, loaded, inner, rfl⟩ := replaces link indent text replaced
  exact ⟨label, link, less, inclusion, nested, written, enough, loaded, inner, rfl⟩

end Expansion
end Transclusion
end ApiBlueprint

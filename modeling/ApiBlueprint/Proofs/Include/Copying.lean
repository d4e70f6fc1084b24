import ApiBlueprint.Include.Table
import ApiBlueprint.Proofs.Include.Lines
import ApiBlueprint.Proofs.Text.Cut

/-!
What an expansion keeps of a text. The directives that a search from the left finds are replaced, and
all that stands between them is copied.
-/

namespace ApiBlueprint

namespace Directive

/-- The inserts of the cut are the directives that a search from the left finds in the text. The search
goes on behind a directive, and behind a character at which none begins. -/
inductive Searched : Text → Cut → Prop where
  | nil : Searched [] ⟨[], []⟩
  | hit {directive rest : Text} {cut : Cut} (isDirective : IsDirective directive)
      (later : Searched rest cut) : Searched (directive ++ rest) (cut.push directive)
  | miss {c : Char} {rest : Text} {cut : Cut}
      (none : ∀ directive, IsDirective directive → ¬ directive <+: c :: rest)
      (later : Searched rest cut) : Searched (c :: rest) (cut.delay c)

theorem Searched.text_eq {text : Text} {cut : Cut} (searched : Searched text cut) : cut.text = text := by
  induction searched with
  | nil => rfl
  | hit isDirective later ih => rw [Cut.text_push, ih]
  | miss none later ih => rw [Cut.text_delay, ih]

theorem exists_linked {directive : Text} (isDirective : IsDirective directive) (rest : Text) :
    ∃ label link inner, directive = ':' :: '[' :: (label ++ ']' :: '(' :: (link ++ [')'])) ∧
      directive ++ rest = ':' :: '[' :: inner ∧ link? inner = some (link, rest) := by
  obtain ⟨label, link, rfl, labelled, linked⟩ := isDirective
  have found : link? (label ++ ']' :: '(' :: (link ++ ')' :: rest)) = some (link, rest) :=
    link?_iff.mpr ⟨label, rfl, labelled, linked⟩
  exact ⟨label, link, _, rfl, by simp, found⟩

theorem eq_of_append_eq {directive directive' rest rest' : Text} (isDirective : IsDirective directive)
    (isDirective' : IsDirective directive') (same : directive ++ rest = directive' ++ rest') :
    directive = directive' ∧ rest = rest' := by
  obtain ⟨-, link, inner, -, starts, found⟩ := exists_linked isDirective rest
  obtain ⟨-, link', inner', -, starts', found'⟩ := exists_linked isDirective' rest'
  have inners : ':' :: '[' :: inner = ':' :: '[' :: inner' := by
    rw [← starts, ← starts', same]
  obtain rfl : inner = inner' := by simpa using inners
  obtain rfl : rest = rest' := (Prod.mk.inj (Option.some.inj (found.symm.trans found'))).2
  exact ⟨List.append_cancel_right same, rfl⟩

theorem Searched.unique {text : Text} {cut other : Cut} (left : Searched text cut)
    (right : Searched text other) : cut = other := by
  induction left generalizing other with
  | nil =>
    generalize empty : ([] : Text) = text at right
    cases right with
    | nil => rfl
    | hit isDirective later =>
      exact absurd (List.append_eq_nil_iff.mp empty.symm).1 isDirective.ne_nil
    | miss none later => cases empty
  | @hit directive rest cut isDirective later ih =>
    generalize whole : directive ++ rest = text at right
    cases right with
    | nil => exact absurd (List.append_eq_nil_iff.mp whole).1 isDirective.ne_nil
    | hit isDirective' later' =>
      obtain ⟨rfl, rfl⟩ := eq_of_append_eq isDirective isDirective' whole
      rw [ih later']
    | miss none later' => exact absurd ⟨rest, whole⟩ (none directive isDirective)
  | @miss c rest cut none later ih =>
    generalize whole : c :: rest = text at right
    cases right with
    | nil => cases whole
    | @hit directive rest' cut' isDirective later' =>
      exact absurd ⟨rest', whole.symm⟩ (none directive isDirective)
    | miss none' later' =>
      obtain ⟨rfl, rfl⟩ := List.cons.inj whole
      rw [ih later']

/-- By induction along the search. -/
theorem exists_searched (indent : Option Text) (text : Text) : ∃ cut, Searched text cut := by
  induction indent, text using piecesFrom.induct with
  | case1 indent => exact ⟨_, .nil⟩
  | case2 indent rest link after found ih =>
    obtain ⟨cut, searched⟩ := ih
    obtain ⟨label, rfl, labelled, linked⟩ := link?_iff.mp found
    have isDirective : IsDirective (':' :: '[' :: (label ++ ']' :: '(' :: (link ++ [')']))) :=
      ⟨label, link, rfl, labelled, linked⟩
    exact ⟨_, by simpa using Searched.hit isDirective searched⟩
  | case3 indent rest missing ih =>
    obtain ⟨cut, searched⟩ := ih
    exact ⟨_, .miss (fun directive => not_prefix_of_link_none missing) searched⟩
  | case4 indent c rest other ih =>
    obtain ⟨cut, searched⟩ := ih
    exact ⟨_, .miss (fun directive => not_prefix_of_other other) searched⟩

theorem exists_pieces_of_miss {c : Char} {rest : Text}
    (none : ∀ directive, IsDirective directive → ¬ directive <+: c :: rest) (indent : Option Text) :
    ∃ next, piecesFrom indent (c :: rest) = .literal c :: piecesFrom next rest ∧
      (next = .none ∨ next = indentAfter indent c) := by
  by_cases begun : ∃ more, c = ':' ∧ rest = '[' :: more
  · obtain ⟨more, rfl, rfl⟩ := begun
    have missing : link? more = .none := by
      by_contra found
      obtain ⟨⟨link, after⟩, reaches⟩ := Option.ne_none_iff_exists'.mp found
      obtain ⟨label, rfl, labelled, linked⟩ := link?_iff.mp reaches
      exact none _ ⟨label, link, rfl, labelled, linked⟩ ⟨after, by simp⟩
    exact ⟨_, pieces_unlinked missing, Or.inl rfl⟩
  · have other : ∀ more, c = ':' → rest = '[' :: more → False :=
      fun more colon bracket => begun ⟨more, colon, bracket⟩
    exact ⟨_, pieces_other other, Or.inr rfl⟩

theorem Searched.exists_filled {replace : Text → Text → Except TransclusionFault Text}
    {text : Text} {cut : Cut} (searched : Searched text cut) {indent : Option Text} {out : Text}
    (blank : ∀ space ∈ indent, ∀ c ∈ space, Text.isSpace c = true)
    (assembled : Transclusion.assemble replace (piecesFrom indent text) = .ok out) :
    ∃ filled : Cut, filled.text = out ∧ filled.gaps = cut.gaps ∧
      List.Forall₂ (fun directive insert => ∃ label link space,
        directive = ':' :: '[' :: (label ++ ']' :: '(' :: (link ++ [')'])) ∧
          (∀ c ∈ space, Text.isSpace c = true) ∧ replace link space = .ok insert)
        cut.inserts filled.inserts := by
  induction searched generalizing indent out with
  | nil =>
    rw [piecesFrom] at assembled
    obtain rfl := Except.ok.inj assembled
    exact ⟨⟨[], []⟩, rfl, rfl, .nil⟩
  | @hit directive rest cut isDirective later ih =>
    obtain ⟨label, link, inner, written, starts, found⟩ := exists_linked isDirective rest
    rw [starts, pieces_linked found] at assembled
    obtain ⟨insert, replaced, behind⟩ := bind_eq_ok.mp assembled
    obtain ⟨tail, more, same⟩ := bind_eq_ok.mp behind
    obtain rfl := pure_eq_ok.mp same
    have behindDirective : ∀ space ∈ (none : Option Text), ∀ c ∈ space, Text.isSpace c = true := by simp
    obtain ⟨filled, rfl, gaps, inserts⟩ := ih behindDirective more
    have space : ∀ c ∈ indent.getD [], Text.isSpace c = true := by
      cases indent with
      | none => simp
      | some space => exact blank space rfl
    refine ⟨filled.push insert, Cut.text_push insert filled, ?_,
      .cons ⟨label, link, _, written, space, replaced⟩ inserts⟩
    rw [Cut.gaps_push, Cut.gaps_push, gaps]
  | @miss c rest cut none later ih =>
    obtain ⟨next, pieces, after⟩ := exists_pieces_of_miss none indent
    rw [pieces] at assembled
    obtain ⟨tail, more, same⟩ := bind_eq_ok.mp assembled
    obtain rfl := pure_eq_ok.mp same
    have blankNext : ∀ space ∈ next, ∀ c ∈ space, Text.isSpace c = true := by
      rcases after with rfl | rfl
      · simp
      · exact indentAfter_forall (fun _ space _ => space) blank
    obtain ⟨filled, rfl, gaps, inserts⟩ := ih blankNext more
    refine ⟨filled.delay c, Cut.text_delay c filled, ?_, ?_⟩
    · obtain ⟨first, more, filledGaps, filledDelayed⟩ := filled.gaps_delay c
      obtain ⟨first', more', cutGaps, cutDelayed⟩ := cut.gaps_delay c
      rw [filledGaps, cutGaps] at gaps
      obtain ⟨rfl, rfl⟩ := List.cons.inj gaps
      rw [filledDelayed, cutDelayed]
    · rwa [Cut.inserts_delay, Cut.inserts_delay]

end Directive

namespace Transclusion

variable {context : Context} {room : Nat} {stack : List Path} {base : Option Path}

/-- The text that a directive is replaced by: the document it links to, expanded and indented. -/
def BringsIn (context : Context) (room : Nat) (stack : List Path) (base : Option Path)
    (directive text : Text) : Prop :=
  ∃ label link less inclusion nested indent,
    directive = ':' :: '[' :: (label ++ ']' :: '(' :: (link ++ [')'])) ∧ room = less + 1 ∧
      load context stack base link = .ok inclusion ∧
      expand context less (stack ++ [inclusion.location]) inclusion.location.parent?
        inclusion.text = .ok nested ∧
      (∀ c ∈ indent, Text.isSpace c = true) ∧ text = splice indent nested

theorem exists_filled_of_expand {text out : Text} {cut : Cut} (searched : Directive.Searched text cut)
    (expanded : expand context room stack base text = .ok out) :
    ∃ filled : Cut, filled.text = out ∧ filled.gaps = cut.gaps ∧
      List.Forall₂ (BringsIn context room stack base) cut.inserts filled.inserts := by
  obtain ⟨replace, expands, replaces⟩ := expand_assembles context room stack base
  rw [expands] at expanded
  obtain ⟨filled, same, gaps, inserts⟩ := searched.exists_filled (by simp) expanded
  refine ⟨filled, same, gaps, inserts.imp ?_⟩
  rintro directive insert ⟨label, link, space, written, blank, replaced⟩
  obtain ⟨less, inclusion, nested, enough, loaded, inner, rfl⟩ := replaces link space insert replaced
  exact ⟨label, link, less, inclusion, nested, space, written, enough, loaded, inner, blank, rfl⟩

/-- A text is expanded line by line: the expansions stand one below the other, and the first line that
fails is the failure. Text without directives stays as it is, and what stands between the directives of
a text stands between what they bring in. -/
theorem expand_line_by_line (context : Context) (room : Nat) (stack : List Path) (base : Option Path) :
    (∀ above below, expand context room stack base (above ++ '\n' :: below) = do
      let first ← expand context room stack base above
      let second ← expand context room stack base below
      return first ++ '\n' :: second) ∧
    (∀ text, ¬ HasDirective text → expand context room stack base text = .ok text) ∧
    (∀ text, ∃! cut, Directive.Searched text cut) ∧
    ∀ text cut, Directive.Searched text cut → cut.text = text ∧
      ∀ out, expand context room stack base text = .ok out →
        ∃ filled : Cut, filled.text = out ∧ filled.gaps = cut.gaps ∧
          List.Forall₂ (BringsIn context room stack base) cut.inserts filled.inserts := by
  refine ⟨expand_line, fun text => expand_plain, fun text => ?_, fun text cut searched => ?_⟩
  · obtain ⟨cut, searched⟩ := Directive.exists_searched none text
    exact ⟨cut, searched, fun other found => found.unique searched⟩
  · exact ⟨searched.text_eq, fun out => exists_filled_of_expand searched⟩

/-- A line feed keeps a label from its link; and a directive behind a tab brings in two lines, of which
the second one gets a tab too. -/
theorem expand_line_by_line_tab :
    let table : IncludeTable := ⟨[(⟨"x".toList⟩, "1\n2".toList)]⟩
    let cut : Cut := ⟨[(['\t'], ":[](x)".toList)], ['!']⟩
    ¬ HasDirective ":[a\n](x)".toList ∧
      expand ⟨table.loader, 1⟩ 1 [] none ":[a\n](x)".toList = .ok ":[a\n](x)".toList ∧
      Directive.Searched "\t:[](x)!".toList cut ∧
      expand ⟨table.loader, 1⟩ 1 [] none "\t:[](x)!".toList = .ok "\t1\n\t2!".toList ∧
      ∃ filled : Cut, filled.text = "\t1\n\t2!".toList ∧ filled.gaps = [['\t'], ['!']] ∧
        List.Forall₂ (BringsIn ⟨table.loader, 1⟩ 1 [] none) [":[](x)".toList] filled.inserts := by
  intro table cut
  have above : ¬ HasDirective ":[a".toList := by
    have later : ¬ HasDirective ("[a".toList ++ []) :=
      (has_directive_append_left (by decide)).not.mpr not_has_directive_nil
    have unlinked : Directive.link? ['a'] = none := by decide
    exact (has_directive_cons_iff fun _ => Directive.not_prefix_of_link_none unlinked).not.mpr later
  have below : ¬ HasDirective ("](x)".toList ++ []) :=
    (has_directive_append_left (by decide)).not.mpr not_has_directive_nil
  have plain : ¬ HasDirective ":[a\n](x)".toList := fun has =>
    (has_directive_line.mp has).elim above below
  have searched : Directive.Searched "\t:[](x)!".toList cut := by
    have isDirective : IsDirective ":[](x)".toList :=
      ⟨[], ['x'], rfl, by simp, by simp, by simp; decide⟩
    have tab := fun directive => @Directive.not_prefix_of_other '\t' ":[](x)!".toList directive (by simp)
    have mark := fun directive => @Directive.not_prefix_of_other '!' [] directive (by simp)
    exact .miss tab (.hit isDirective (.miss mark .nil))
  have expanded :
      expand ⟨table.loader, 1⟩ 1 [] none "\t:[](x)!".toList = .ok "\t1\n\t2!".toList := by
    decide +kernel
  have lineByLine := expand_line_by_line ⟨table.loader, 1⟩ 1 [] none
  exact ⟨plain, lineByLine.2.1 _ plain, searched, expanded,
    (lineByLine.2.2.2 _ cut searched).2 _ expanded⟩

end Transclusion
end ApiBlueprint

import ApiBlueprint.Include.Directive

/-!
The pattern of a directive, apart from the search for it: the search finds a directive exactly
where the text goes on with one.
-/

namespace ApiBlueprint

def IsDirective (text : Text) : Prop :=
  ∃ label link, text = ':' :: '[' :: (label ++ ']' :: '(' :: (link ++ [')'])) ∧
    (∀ c ∈ label, c ≠ ']' ∧ c ≠ '\n') ∧
    link ≠ [] ∧ ∀ c ∈ link, c ≠ ')' ∧ Text.isSpace c = false

def HasDirective (text : Text) : Prop := ∃ directive, IsDirective directive ∧ directive <:+: text

theorem IsDirective.starts {directive : Text} (isDirective : IsDirective directive) :
    ∃ rest, directive = ':' :: '[' :: rest := by
  obtain ⟨label, link, rfl, -⟩ := isDirective
  exact ⟨_, rfl⟩

theorem IsDirective.ends {directive : Text} (isDirective : IsDirective directive) :
    ∃ front, directive = front ++ [')'] := by
  obtain ⟨label, link, rfl, -⟩ := isDirective
  exact ⟨':' :: '[' :: (label ++ ']' :: '(' :: link), by simp⟩

theorem IsDirective.ne_nil {directive : Text} (isDirective : IsDirective directive) :
    directive ≠ [] := by
  obtain ⟨rest, rfl⟩ := isDirective.starts
  exact List.cons_ne_nil _ _

theorem IsDirective.one_line {directive : Text} (isDirective : IsDirective directive) :
    '\n' ∉ directive := by
  obtain ⟨label, link, rfl, labelled, -, linked⟩ := isDirective
  have freeLabel : '\n' ∉ label := fun member => (labelled '\n' member).2 rfl
  have freeLink : '\n' ∉ link := fun member => by
    have solid := (linked '\n' member).2
    exact absurd solid (by decide)
  simp [freeLabel, freeLink]

namespace Directive

theorem split_unless_append {stop at? : Char → Bool} {before after : Text} {c : Char}
    (found : at? c = true) (clear : ∀ d ∈ before, at? d = false ∧ stop d = false) :
    splitUnless stop at? (before ++ c :: after) = some (before, after) := by
  induction before with
  | nil => simp [splitUnless, found]
  | cons d before ih =>
    obtain ⟨other, free⟩ := clear d List.mem_cons_self
    have later := ih fun e member => clear e (List.mem_cons_of_mem d member)
    simp [splitUnless, other, free, later]

theorem split_unless_eq {stop at? : Char → Bool} {text before after : Text}
    (split : splitUnless stop at? text = some (before, after)) :
    ∃ c, text = before ++ c :: after ∧ at? c = true ∧
      ∀ d ∈ before, at? d = false ∧ stop d = false := by
  induction text generalizing before with
  | nil => simp [splitUnless] at split
  | cons first rest ih =>
    simp only [splitUnless] at split
    split at split
    · rename_i found
      obtain ⟨rfl, rfl⟩ := by simpa using split
      exact ⟨first, rfl, found, by simp⟩
    · rename_i other
      split at split
      · simp at split
      · rename_i free
        obtain ⟨⟨front, tail⟩, found, equal⟩ := Option.map_eq_some_iff.mp split
        obtain ⟨rfl, rfl⟩ := Prod.mk.inj equal
        obtain ⟨c, rfl, isAt, clear⟩ := ih found
        exact ⟨c, rfl, isAt, by simpa [other, free] using clear⟩

theorem split_unless_iff {stop at? : Char → Bool} {text before after : Text} :
    splitUnless stop at? text = some (before, after) ↔
      ∃ c, text = before ++ c :: after ∧ at? c = true ∧
        ∀ d ∈ before, at? d = false ∧ stop d = false := by
  constructor
  · exact split_unless_eq
  · rintro ⟨c, rfl, found, clear⟩
    exact split_unless_append found clear

theorem link?_iff {text link after : Text} :
    link? text = some (link, after) ↔
      ∃ label, text = label ++ ']' :: '(' :: (link ++ ')' :: after) ∧
        (∀ c ∈ label, c ≠ ']' ∧ c ≠ '\n') ∧
        link ≠ [] ∧ ∀ c ∈ link, c ≠ ')' ∧ Text.isSpace c = false := by
  have outer (label rest : Text) : splitUnless (· = '\n') (· = ']') text = some (label, rest) ↔
      text = label ++ ']' :: rest ∧ ∀ c ∈ label, c ≠ ']' ∧ c ≠ '\n' := by
    simp [split_unless_iff, and_left_comm]
  have inner (rest : Text) : splitUnless Text.isSpace (· = ')') rest = some (link, after) ↔
      rest = link ++ ')' :: after ∧ ∀ c ∈ link, c ≠ ')' ∧ Text.isSpace c = false := by
    simp [split_unless_iff, and_left_comm]
  unfold link?
  constructor
  · intro found
    split at found
    · rename_i label rest split
      obtain ⟨rfl, labelled⟩ := (outer label _).mp split
      split at found
      · simp at found
      · rename_i nonempty
        obtain ⟨rfl, linked⟩ := (inner rest).mp found
        refine ⟨label, rfl, labelled, ?_, linked⟩
        rintro rfl
        exact nonempty _ found
    · simp at found
  · rintro ⟨label, rfl, labelled, nonempty, linked⟩
    rw [(outer label _).mpr ⟨rfl, labelled⟩]
    have split := (inner _).mpr ⟨rfl, linked⟩
    simp only [split]
    split
    · rename_i equal
      obtain ⟨rfl, -⟩ := by simpa using equal
      exact absurd rfl nonempty
    · rfl

theorem pieces_linked {indent : Option Text} {rest link after : Text}
    (found : link? rest = some (link, after)) :
    piecesFrom indent (':' :: '[' :: rest) =
      .directive link (indent.getD []) :: piecesFrom none after := by
  rw [piecesFrom]
  split
  · rename_i linked behind equal
    obtain ⟨rfl, rfl⟩ := by simpa using found.symm.trans equal
    rfl
  · rename_i missing
    simp [found] at missing

theorem pieces_unlinked {indent : Option Text} {rest : Text} (missing : link? rest = none) :
    piecesFrom indent (':' :: '[' :: rest) = .literal ':' :: piecesFrom none ('[' :: rest) := by
  rw [piecesFrom]
  split
  · rename_i found
    simp [missing] at found
  · rfl

theorem pieces_other {indent : Option Text} {c : Char} {rest : Text}
    (other : ∀ more, c = ':' → rest = '[' :: more → False) :
    piecesFrom indent (c :: rest) = .literal c :: piecesFrom (indentAfter indent c) rest := by
  rw [piecesFrom]
  exact other

/-- Where the search finds no link, no directive begins. -/
theorem not_prefix_of_link_none {rest directive : Text} (missing : link? rest = none)
    (isDirective : IsDirective directive) : ¬ directive <+: ':' :: '[' :: rest := by
  obtain ⟨label, link, rfl, labelled, nonempty, linked⟩ := isDirective
  rintro ⟨after, equal⟩
  have found : link? rest = some (link, after) :=
    link?_iff.mpr ⟨label, by simpa using equal.symm, labelled, nonempty, linked⟩
  simp [missing] at found

theorem not_prefix_of_other {c : Char} {rest directive : Text}
    (other : ∀ more, c = ':' → rest = '[' :: more → False) (isDirective : IsDirective directive) :
    ¬ directive <+: c :: rest := by
  intro here
  obtain ⟨tail, rfl⟩ := isDirective.starts
  obtain ⟨rfl, after, equal⟩ := List.cons_prefix_cons.mp here
  exact other (tail ++ after) rfl equal.symm

section Indent

variable {holds : Char → Prop} (spaces : ∀ c, Text.isSpace c = true → c ≠ '\n' → holds c)

include spaces

theorem indentAfter_forall {indent : Option Text} {c : Char} (each : ∀ space ∈ indent, ∀ d ∈ space, holds d) :
    ∀ space ∈ indentAfter indent c, ∀ d ∈ space, holds d := by
  intro space member
  unfold indentAfter at member
  split at member
  · obtain rfl := Option.mem_some_iff.mp member
    simp
  · split at member
    · rename_i feed isSpace
      obtain ⟨shorter, found, rfl⟩ := Option.map_eq_some_iff.mp member
      intro d member
      rcases List.mem_append.mp member with earlier | last
      · exact each shorter found d earlier
      · obtain rfl := List.mem_singleton.mp last
        exact spaces d isSpace feed
    · simp at member

theorem indent_forall {indent : Option Text} {text link space : Text}
    (each : ∀ space ∈ indent, ∀ c ∈ space, holds c)
    (member : .directive link space ∈ piecesFrom indent text) : ∀ c ∈ space, holds c := by
  induction indent, text using piecesFrom.induct with
  | case1 indent => simp [piecesFrom] at member
  | case2 indent rest linked after found ih =>
    rw [pieces_linked found] at member
    rcases List.mem_cons.mp member with same | later
    · obtain ⟨rfl, rfl⟩ := DocumentPiece.directive.inj same
      cases indent with
      | none => simp
      | some space => exact each space rfl
    · exact ih (by simp) later
  | case3 indent rest missing ih =>
    rw [pieces_unlinked missing] at member
    exact ih (by simp) (by simpa using member)
  | case4 indent c rest other ih =>
    rw [pieces_other other] at member
    exact ih (indentAfter_forall spaces each) (by simpa using member)

end Indent

theorem indent_blank {text link space : Text} (member : .directive link space ∈ pieces text) :
    ∀ c ∈ space, Text.isSpace c = true :=
  indent_forall (fun _ space _ => space) (by simp) member

end Directive

theorem HasDirective.mono {part text : Text} (has : HasDirective part) (isInfix : part <:+: text) :
    HasDirective text := by
  obtain ⟨directive, isDirective, inside⟩ := has
  exact ⟨directive, isDirective, inside.trans isInfix⟩

theorem not_has_directive_nil : ¬ HasDirective [] := by
  rintro ⟨directive, isDirective, inside⟩
  exact isDirective.ne_nil (List.infix_nil.mp inside)

theorem has_directive_cons_iff {c : Char} {text : Text}
    (free : ∀ directive, IsDirective directive → ¬ directive <+: c :: text) :
    HasDirective (c :: text) ↔ HasDirective text := by
  constructor
  · rintro ⟨directive, isDirective, inside⟩
    rcases List.infix_cons_iff.mp inside with here | later
    · exact absurd here (free directive isDirective)
    · exact ⟨directive, isDirective, later⟩
  · exact fun has => has.mono (List.infix_cons (List.infix_refl text))

theorem has_directive_cons_other {c : Char} {text : Text} (other : c ≠ ':') :
    HasDirective (c :: text) ↔ HasDirective text := by
  refine has_directive_cons_iff fun directive isDirective here => ?_
  obtain ⟨rest, rfl⟩ := isDirective.starts
  exact other (List.cons_prefix_cons.mp here).1.symm

theorem has_directive_append_left {front text : Text} (other : ∀ c ∈ front, c ≠ ':') :
    HasDirective (front ++ text) ↔ HasDirective text := by
  induction front with
  | nil => exact Iff.rfl
  | cons c front ih =>
    rw [List.cons_append, has_directive_cons_other (other c List.mem_cons_self)]
    exact ih fun d member => other d (List.mem_cons_of_mem c member)

theorem has_directive_concat {c : Char} {text : Text} (other : c ≠ ')') :
    HasDirective (text ++ [c]) ↔ HasDirective text := by
  constructor
  · rintro ⟨directive, isDirective, inside⟩
    rcases List.infix_concat_iff.mp inside with atEnd | earlier
    · obtain ⟨front, rfl⟩ := isDirective.ends
      obtain ⟨before, equal⟩ := atEnd
      rw [← List.append_assoc] at equal
      obtain ⟨-, same⟩ := List.append_inj' equal rfl
      exact absurd (List.cons.inj same).1.symm other
    · exact ⟨directive, isDirective, earlier⟩
  · exact fun has => has.mono List.infix_append_left

/-- A directive does not reach over the end of a line. -/
theorem has_directive_line {line text : Text} :
    HasDirective (line ++ '\n' :: text) ↔ HasDirective line ∨ HasDirective text := by
  constructor
  · rintro ⟨directive, isDirective, inside⟩
    rcases List.infix_append_iff_ne_nil.mp inside with left | right | ⟨start, rest, -, nonempty, rfl, -, behind⟩
    · exact Or.inl ⟨directive, isDirective, left⟩
    · rcases List.infix_cons_iff.mp right with here | later
      · obtain ⟨rest, rfl⟩ := isDirective.starts
        simp [List.cons_prefix_cons] at here
      · exact Or.inr ⟨directive, isDirective, later⟩
    · obtain ⟨c, rest, rfl⟩ := List.exists_cons_of_ne_nil nonempty
      obtain ⟨rfl, -⟩ := List.cons_prefix_cons.mp behind
      exact absurd (by simp) isDirective.one_line
  · rintro (left | right)
    · exact left.mono List.infix_append_left
    · exact right.mono ⟨line ++ ['\n'], [], by simp⟩

theorem has_directive_lines (lines : List Text) :
    HasDirective (Text.joinWith ['\n'] lines) ↔ ∃ line ∈ lines, HasDirective line := by
  induction lines with
  | nil => simp [Text.joinWith, not_has_directive_nil]
  | cons line lines ih =>
    cases lines with
    | nil => simp [Text.joinWith]
    | cons next more =>
      have joined : Text.joinWith ['\n'] (line :: next :: more) =
          line ++ '\n' :: Text.joinWith ['\n'] (next :: more) := by
        simp [Text.joinWith]
      rw [joined, has_directive_line, ih]
      simp

end ApiBlueprint

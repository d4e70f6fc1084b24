import ApiBlueprint.Proofs.Template.Read

/-!
A template of an object, written with any white space, is interpolated with success by every stream
of random words, and the one fixture of the result is the template with drawn values in it.
-/

namespace ApiBlueprint

open JsonReader (isSpace)
open TemplatePart (sign quoted drawAll drawTokens drawTokens_append)

namespace Template

theorem barless_sign {c : Char} (other : c ≠ '|') : ∀ part ∈ sign c, part.IsBarless := by
  intro part member
  rw [List.mem_singleton.mp member]
  exact fun bar => other (List.mem_singleton.mp bar).symm

def Barless (tokens : List (List TemplatePart)) : Prop :=
  ∀ token ∈ tokens, ∀ part ∈ token, part.IsBarless

theorem barless_cons {token : List TemplatePart} {tokens : List (List TemplatePart)}
    (first : ∀ part ∈ token, part.IsBarless) (rest : Barless tokens) : Barless (token :: tokens) :=
  List.forall_mem_cons.mpr ⟨first, rest⟩

theorem barless_append {front back : List (List TemplatePart)} (before : Barless front)
    (behind : Barless back) : Barless (front ++ back) :=
  List.forall_mem_append.mpr ⟨before, behind⟩

theorem barless_enclosed {first last : Char} {tokens : List (List TemplatePart)} (opening : first ≠ '|')
    (closing : last ≠ '|') (inside : Barless tokens) : Barless (sign first :: tokens ++ [sign last]) := by
  apply barless_append (barless_cons (barless_sign opening) inside)
  exact List.forall_mem_singleton.mpr (barless_sign closing)

theorem barless_literal {text : Text} (barless : '|' ∉ text) : Barless [[.literal text]] :=
  List.forall_mem_singleton.mpr (List.forall_mem_singleton.mpr barless)

theorem barless_itemTokens {items : List Template} (each : ∀ item ∈ items, Barless item.tokens) :
    Barless (itemTokens items) := by
  induction items with
  | nil => exact List.forall_mem_nil _
  | cons item rest ih =>
    obtain ⟨first, others⟩ := List.forall_mem_cons.mp each
    exact barless_cons (barless_sign (by decide)) (barless_append first (ih others))

theorem barless_key {key : Text} (barless : '|' ∉ key) :
    ∀ part ∈ quoted [.literal key], part.IsBarless :=
  TemplatePart.barless_quoted (List.forall_mem_singleton.mpr barless)

theorem barless_memberTokens {members : List (Text × Template)}
    (keys : ∀ member ∈ members, '|' ∉ member.1)
    (each : ∀ member ∈ members, Barless member.2.tokens) : Barless (memberTokens members) := by
  induction members with
  | nil => exact List.forall_mem_nil _
  | cons member rest ih =>
    obtain ⟨key, otherKeys⟩ := List.forall_mem_cons.mp keys
    obtain ⟨first, others⟩ := List.forall_mem_cons.mp each
    apply barless_cons (barless_sign (by decide))
    apply barless_cons (barless_key key)
    apply barless_cons (barless_sign (by decide))
    exact barless_append first (ih otherKeys others)

theorem Fits.barless {depth : Nat} {template : Template} (fits : template.Fits depth) :
    Barless template.tokens := by
  induction fits with
  | null => exact barless_literal (by decide)
  | boolean value => cases value <;> exact barless_literal (by decide)
  | number literal =>
    apply barless_literal
    intro bar
    have number := literal.characters '|' bar
    revert number
    decide
  | string barless => exact List.forall_mem_singleton.mpr (TemplatePart.barless_quoted barless)
  | bare placeholder => exact List.forall_mem_singleton.mpr (List.forall_mem_singleton.mpr trivial)
  | @array depth items each ih =>
    cases items with
    | nil => exact barless_enclosed (by decide) (by decide) (List.forall_mem_nil _)
    | cons first rest =>
      obtain ⟨inFirst, inRest⟩ := List.forall_mem_cons.mp ih
      have inside := barless_append inFirst (barless_itemTokens inRest)
      exact barless_enclosed (by decide) (by decide) inside
  | @object depth members distinct barless each ih =>
    cases members with
    | nil => exact barless_enclosed (by decide) (by decide) (List.forall_mem_nil _)
    | cons member rest =>
      obtain ⟨key, otherKeys⟩ := List.forall_mem_cons.mp barless
      obtain ⟨inFirst, inRest⟩ := List.forall_mem_cons.mp ih
      have values := barless_append inFirst (barless_memberTokens otherKeys inRest)
      have colon : ∀ part ∈ sign ':', part.IsBarless := barless_sign (by decide)
      have named := barless_cons (barless_key key) (barless_cons colon values)
      exact barless_enclosed (by decide) (by decide) named

theorem object_tokens (members : List (Text × Template)) :
    ∃ middle, tokens (.object members) = sign '{' :: (middle ++ [sign '}']) := by
  cases members with
  | nil => exact ⟨[], rfl⟩
  | cons first rest => exact ⟨_, rfl⟩

end Template

namespace Laid

variable {tokens : List Text} {token last text : Text}

theorem trim (laid : Laid (tokens ++ [last]) text) :
    ∃ front blank, text = front ++ last ++ blank ∧ (∀ c ∈ blank, isSpace c = true) ∧
      Laid (tokens ++ [last]) (front ++ last) := by
  induction tokens generalizing text with
  | nil =>
    cases laid with
    | @cons front _ blank _ spaces rest =>
      cases rest with
      | nil spaces' =>
        refine ⟨front, blank, (List.append_assoc _ _ _).symm, spaces', ?_⟩
        have whole : Laid [last] (front ++ (last ++ [])) := .cons spaces (.nil (List.forall_mem_nil _))
        rwa [List.append_nil] at whole
  | cons token tokens ih =>
    cases laid with
    | @cons start _ behind _ spaces rest =>
      obtain ⟨front, blank, rfl, spaces', inner⟩ := ih rest
      refine ⟨start ++ (token ++ front), blank, by simp, spaces', ?_⟩
      have whole : Laid (token :: (tokens ++ [last])) (start ++ (token ++ (front ++ last))) :=
        .cons spaces inner
      simpa using whole

theorem start (laid : Laid (token :: tokens) text) :
    ∃ blank rest, text = blank ++ (token ++ rest) ∧ (∀ c ∈ blank, isSpace c = true) ∧
      Laid (token :: tokens) (token ++ rest) := by
  cases laid with
  | @cons blank _ rest _ spaces behind =>
    exact ⟨blank, rest, rfl, spaces, @Laid.cons [] _ _ _ (List.forall_mem_nil _) behind⟩

theorem of_blanks {blanked : List (Text × Text)} {behind : Text}
    (spaces : ∀ pair ∈ blanked, ∀ c ∈ pair.1, isSpace c = true)
    (last : ∀ c ∈ behind, isSpace c = true) :
    Laid (blanked.map Prod.snd) (blanked.flatMap (fun pair => pair.1 ++ pair.2) ++ behind) := by
  induction blanked with
  | nil => exact .nil last
  | cons pair rest ih =>
    obtain ⟨first, others⟩ := List.forall_mem_cons.mp spaces
    rw [List.map_cons, List.flatMap_cons, List.append_assoc, List.append_assoc]
    exact .cons first (ih others)

end Laid

theorem not_brace_of_spaces {blank : Text} (spaces : ∀ c ∈ blank, isSpace c = true) :
    '{' ∉ blank := by
  intro brace
  have space := spaces '{' brace
  revert space
  decide

namespace Template

/-- The text that is drawn for a template of an object has the value of it as its one fixture. -/
theorem extractFixtures_of_yields {members : List (Text × Template)} {stream after : RandomStream}
    {value : Json} (yields : Yields JsonReader.maxDepth (.object members) stream value after)
    {filled : Text} (laid : Laid (drawTokens (tokens (.object members)) stream).1 filled) :
    extractFixtures filled = .ok [value] := by
  obtain ⟨middle, spelled⟩ := object_tokens members
  have drawn : (drawTokens (tokens (.object members)) stream).1 =
      (['{'] :: (drawTokens middle stream).1) ++ [['}']] := by
    rw [spelled, drawTokens_sign, drawTokens_append, drawTokens_sign]
    rfl
  have reads := yields.reads []
  rw [List.append_nil, drawn] at reads
  rw [drawn] at laid
  obtain ⟨front, blank, rfl, spaces, trimmed⟩ := laid.trim
  obtain ⟨before, rest, equal, spaces', body⟩ := trimmed.start
  obtain ⟨behind, read, unread⟩ := reads _ (fun _ first => nomatch first) body
  have object : SpellsObject ('{' :: rest) value := by
    refine ⟨rfl, ?_, Json.read_eq_ok_iff.mpr ⟨behind, read, unread.skipSpace_nil⟩, ?_⟩
    · have last := congrArg List.getLast? equal
      rw [List.getLast?_concat, List.getLast?_append_of_ne_nil _ (by simp)] at last
      exact last.symm
    · cases yields.fills with
      | object => exact ⟨_, rfl⟩
  have cut : Cut.SpellsFixtures ⟨[(before, '{' :: rest)], blank⟩ (front ++ ['}'] ++ blank) [value] := by
    refine Cut.spells_cons_iff.mpr ⟨value, [], blank, rfl, ?_, not_brace_of_spaces spaces', object, ?_⟩
    · rw [equal]
      simp
    · exact Cut.spells_nil_iff.mpr ⟨rfl, rfl, not_brace_of_spaces spaces⟩
  exact Cut.mapM_scanFrom_of_spells cut 1

end Template

/-- Whatever stream fills a template of an object: interpolation succeeds, and the result has one
fixture, which is the template with drawn texts inside its strings and drawn values in the place of
its bare placeholders. -/
theorem Generator.process_fills {members : List (Text × Template)} {text : Text}
    (fits : (Template.object members).Fits JsonReader.maxDepth)
    (spelled : (Template.object members).IsSpelledBy text) (stream : RandomStream) :
    ∃ filled value after, (random stream).process text = (.ok filled, .random after) ∧
      extractFixtures filled = .ok [value] ∧ (Template.object members).Fills stream value after := by
  obtain ⟨filled, becomes, laid⟩ := TemplatePart.becomes_laid fits.barless spelled stream
  obtain ⟨value, after, yields⟩ := Template.exists_yields fits stream
  refine ⟨filled, value, after, ?_, Template.extractFixtures_of_yields yields laid, yields.fills⟩
  rw [yields.drawn] at becomes
  simp only [process, Placeholder.interpolate_of_becomes becomes]
  rfl

namespace Template

def ratings : Template :=
  .array [.bare .decimal, .number ⟨"-7".toList, .integer (-7), by decide, by rfl⟩, .array []]

def doctor : List (Text × Template) := [
  ("name".toList, .string [.literal "Dr. \"".toList, .slot .fullName]),
  ("age".toList, .bare .age), ("ratings".toList, ratings)]

theorem doctor_fits : (Template.object doctor).Fits JsonReader.maxDepth := by
  have list : ratings.Fits 126 := by
    apply Fits.array
    intro item member
    simp only [List.mem_cons, List.not_mem_nil, or_false] at member
    rcases member with rfl | rfl | rfl
    · exact .bare .decimal
    · exact .number _
    · exact .array (List.forall_mem_nil _)
  apply Fits.object
  · decide
  · simp [doctor]
  · simp only [doctor, List.forall_mem_cons, List.not_mem_nil, false_implies, implies_true, and_true]
    refine ⟨.string ?_, .bare .age, list⟩
    simp [TemplatePart.IsBarless]

def doctorTokens : List (Text × Text) := [
  ([], "\x7b".toList), ("\n  ".toList, "\"name\"".toList), ([], ":".toList),
  (" ".toList, "\"Dr. \\\"|~person.name|\"".toList), ([], ",".toList),
  ("\n  ".toList, "\"age\"".toList), (" ".toList, ":".toList), ([], "|~person.age|".toList),
  ([], ",".toList), (" ".toList, "\"ratings\"".toList), ([], ":".toList), (" ".toList, "[".toList),
  (" ".toList, "|~number.float|".toList), ([], ",".toList), ([], "-7".toList), ([], ",".toList),
  (" ".toList, "[".toList), ([], "]".toList), ([], "]".toList), ("\t".toList, "\x7d".toList)]

def doctorText : Text :=
  doctorTokens.flatMap (fun pair => pair.1 ++ pair.2) ++ " \n".toList

theorem doctor_spelled : (Template.object doctor).IsSpelledBy doctorText := by
  have tokens : (Template.object doctor).tokens.map (fun token => token.flatMap TemplatePart.spelled) =
      doctorTokens.map Prod.snd := by
    simp only [doctor, ratings, tokens, itemTokens, memberTokens]
    decide
  rw [IsSpelledBy, tokens]
  exact Laid.of_blanks (by decide) (by decide)

end Template

theorem Generator.process_fills_doctor :
    (Template.object Template.doctor).Fits JsonReader.maxDepth ∧
    (Template.object Template.doctor).IsSpelledBy Template.doctorText ∧
    ∃ filled value after,
      (random (.seeded 7)).process Template.doctorText = (.ok filled, .random after) ∧
      extractFixtures filled = .ok [value] ∧
      (Template.object Template.doctor).Fills (.seeded 7) value after :=
  ⟨Template.doctor_fits, Template.doctor_spelled,
    process_fills Template.doctor_fits Template.doctor_spelled (.seeded 7)⟩

end ApiBlueprint

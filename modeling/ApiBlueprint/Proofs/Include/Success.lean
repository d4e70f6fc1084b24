import ApiBlueprint.Proofs.Include.Graph

/-!
When transclusion succeeds. The stack of a run holds locations that lead back to the document under
expansion, so a location is found on it only if the graph has a cycle there.
-/

namespace ApiBlueprint
namespace Transclusion

theorem assemble_exists {replacement : Text → Text → Except TransclusionFault Text}
    {pieces : List DocumentPiece}
    (replaced : ∀ link indent, .directive link indent ∈ pieces →
      ∃ text, replacement link indent = .ok text) :
    ∃ out, assemble replacement pieces = .ok out := by
  induction pieces with
  | nil => exact ⟨[], rfl⟩
  | cons piece pieces ih =>
    obtain ⟨rest, found⟩ :=
      ih fun link indent member => replaced link indent (List.mem_cons_of_mem piece member)
    cases piece with
    | literal c => exact ⟨c :: rest, by simp [assemble, found, pure, bind, Except.pure, Except.bind]⟩
    | directive link indent =>
      obtain ⟨text, first⟩ := replaced link indent List.mem_cons_self
      exact ⟨text ++ rest, by simp [assemble, found, first, pure, bind, Except.pure, Except.bind]⟩

theorem replaced_of_assemble {replacement : Text → Text → Except TransclusionFault Text}
    {pieces : List DocumentPiece} {out link indent : Text}
    (assembled : assemble replacement pieces = .ok out)
    (member : .directive link indent ∈ pieces) : ∃ text, replacement link indent = .ok text := by
  induction pieces generalizing out with
  | nil => simp at member
  | cons piece pieces ih =>
    cases piece with
    | literal c =>
      obtain ⟨rest, found, -⟩ := bind_eq_ok.mp assembled
      exact ih found (by simpa using member)
    | directive other space =>
      obtain ⟨text, first, assembled⟩ := bind_eq_ok.mp assembled
      obtain ⟨rest, found, -⟩ := bind_eq_ok.mp assembled
      rcases List.mem_cons.mp member with same | later
      · obtain ⟨rfl, rfl⟩ := DocumentPiece.directive.inj same
        exact ⟨text, first⟩
      · exact ih found later

def replacement (table : IncludeTable) (maxDepth room : Nat) (stack : List Path)
    (base : Option Path) (link indent : Text) : Except TransclusionFault Text :=
  if isRemote link then .error (.remote link)
  else
    match room with
    | 0 => .error (.tooDeep maxDepth link)
    | room + 1 => do
      let inclusion ← load ⟨table.loader, maxDepth⟩ stack base link
      let nested ← expand ⟨table.loader, maxDepth⟩ room (stack ++ [inclusion.location])
        inclusion.location.parent? inclusion.text
      return splice indent nested

theorem expand_eq (table : IncludeTable) (maxDepth room : Nat) (stack : List Path)
    (source : IncludeSource) :
    expand ⟨table.loader, maxDepth⟩ room stack source.base source.text =
      assemble (replacement table maxDepth room stack source.base)
        (Directive.pieces source.text) := by
  cases room <;> rfl

theorem source_of_find {table : IncludeTable} {location : Path} {included : IncludeSource}
    (found : table.source? location = some included) :
    table.find? location = some included.text ∧ included.base = location.parent? := by
  obtain ⟨text, entry, rfl⟩ := Option.map_eq_some_iff.mp found
  exact ⟨entry, rfl⟩

theorem load_table {table : IncludeTable} {maxDepth : Nat} {stack : List Path} {base : Option Path}
    {link : Text} :
    load ⟨table.loader, maxDepth⟩ stack base link =
      match table.source? (locate link base) with
      | none =>
        .error (.notLoaded link ("no document registered at ".toList ++ (locate link base).text))
      | some included =>
        if stack.any (locate link base).same then .error (.circular (stack ++ [locate link base]))
        else .ok ⟨locate link base, included.text⟩ := by
  simp only [load, IncludeTable.loader, IncludeTable.source?]
  cases table.find? (locate link base) <;> rfl

/-- Where there is room, a directive that stays near is replaced by the document at its location. -/
theorem replacement_near {table : IncludeTable} {maxDepth less : Nat} {stack : List Path}
    {base : Option Path} {link indent : Text}
    (near : isRemote link = false) :
    replacement table maxDepth (less + 1) stack base link indent =
      match table.source? (locate link base) with
      | none =>
        .error (.notLoaded link ("no document registered at ".toList ++ (locate link base).text))
      | some included =>
        if stack.any (locate link base).same then .error (.circular (stack ++ [locate link base]))
        else
          (expand ⟨table.loader, maxDepth⟩ less (stack ++ [locate link base]) included.base
            included.text).map (splice indent) := by
  have mapped (outcome : Except TransclusionFault Text) :
      (do return splice indent (← outcome)) = outcome.map (splice indent) := by
    cases outcome <;> rfl
  simp only [replacement, near, Bool.false_eq_true, if_false, load_table]
  cases found : table.source? (locate link base) with
  | none => rfl
  | some included =>
    simp only
    split
    · rfl
    · rw [(source_of_find found).2]
      exact mapped _

theorem replacement_cases {table : IncludeTable} {maxDepth room : Nat} {stack : List Path}
    {base : Option Path} {link indent out : Text}
    (replaced : replacement table maxDepth room stack base link indent = .ok out) :
    isRemote link = false ∧ ∃ less included nested, room = less + 1 ∧
      table.source? (locate link base) = some included ∧
      expand ⟨table.loader, maxDepth⟩ less (stack ++ [locate link base]) included.base included.text =
        .ok nested ∧ out = splice indent nested := by
  cases near : isRemote link with
  | true => simp [replacement, near] at replaced
  | false =>
    cases room with
    | zero => simp [replacement, near] at replaced
    | succ less =>
      rw [replacement_near near] at replaced
      cases found : table.source? (locate link base) with
      | none => simp [found] at replaced
      | some included =>
        simp only [found] at replaced
        split at replaced
        · cases replaced
        · obtain ⟨nested, expanded, rfl⟩ := map_eq_ok.mp replaced
          exact ⟨rfl, less, included, nested, rfl, rfl, expanded, rfl⟩

theorem replacement_eq {table : IncludeTable} {maxDepth less : Nat} {stack : List Path}
    {base : Option Path} {link indent nested : Text} {included : IncludeSource}
    (near : isRemote link = false) (found : table.source? (locate link base) = some included)
    (free : stack.any (locate link base).same = false)
    (expanded : expand ⟨table.loader, maxDepth⟩ less (stack ++ [locate link base]) included.base
      included.text = .ok nested) :
    replacement table maxDepth (less + 1) stack base link indent = .ok (splice indent nested) := by
  rw [replacement_near near]
  simp only [found, free, Bool.false_eq_true, if_false, expanded]
  rfl

open IncludeTable

variable {table : IncludeTable} {maxDepth : Nat}

theorem expandsTo_of_assemble {base : Option Path} {pieces : List DocumentPiece} {out : Text}
    {replace : Text → Text → Except TransclusionFault Text}
    (sound : ∀ link indent text, replace link indent = .ok text → ∃ included inner,
      table.source? (locate link base) = some included ∧ table.Substitutes included inner ∧
        text = splice indent inner.text)
    (assembled : assemble replace pieces = .ok out) :
    ∃ cut, table.ExpandsTo base pieces cut ∧ cut.text = out := by
  induction pieces generalizing out with
  | nil =>
    obtain rfl := Except.ok.inj assembled
    exact ⟨⟨[], []⟩, ExpandsTo.nil, rfl⟩
  | cons piece pieces ih =>
    cases piece with
    | literal c =>
      obtain ⟨rest, found, finish⟩ := bind_eq_ok.mp assembled
      obtain ⟨cut, expands, rfl⟩ := ih found
      exact ⟨cut.delay c, ExpandsTo.literal expands, by simpa using pure_eq_ok.mp finish⟩
    | directive link indent =>
      obtain ⟨text, first, assembled⟩ := bind_eq_ok.mp assembled
      obtain ⟨rest, found, finish⟩ := bind_eq_ok.mp assembled
      obtain ⟨cut, expands, rfl⟩ := ih found
      obtain ⟨included, inner, entry, nested, rfl⟩ := sound link indent text first
      exact ⟨_, ExpandsTo.directive entry nested expands, by simpa using pure_eq_ok.mp finish⟩

theorem substitutes_of_expand {room : Nat} {stack : List Path} {source : IncludeSource} {out : Text}
    (expanded : expand ⟨table.loader, maxDepth⟩ room stack source.base source.text = .ok out) :
    ∃ cut, table.Substitutes source cut ∧ cut.text = out := by
  induction room using Nat.strong_induction_on generalizing stack source out with
  | _ room ih =>
    rw [expand_eq] at expanded
    refine expandsTo_of_assemble (fun link indent text replaced => ?_) expanded
    obtain ⟨-, less, included, nested, rfl, found, expanded, rfl⟩ := replacement_cases replaced
    obtain ⟨inner, substitutes, rfl⟩ := ih less (Nat.lt_succ_self less) expanded
    exact ⟨included, inner, found, substitutes, rfl⟩

theorem mention_cases {room : Nat} {stack : List Path} {source : IncludeSource}
    {out link indent : Text}
    (expanded : expand ⟨table.loader, maxDepth⟩ room stack source.base source.text = .ok out)
    (mentions : source.Mentions link indent) :
    isRemote link = false ∧ ∃ less included nested, room = less + 1 ∧
      table.source? (locate link source.base) = some included ∧
      expand ⟨table.loader, maxDepth⟩ less (stack ++ [locate link source.base]) included.base
        included.text = .ok nested := by
  rw [expand_eq] at expanded
  obtain ⟨text, replaced⟩ := replaced_of_assemble expanded mentions
  obtain ⟨near, less, included, nested, enough, found, inner, -⟩ := replacement_cases replaced
  exact ⟨near, less, included, nested, enough, found, inner⟩

theorem bounded_of_expand {room : Nat} {stack : List Path} {source : IncludeSource} {out : Text}
    (expanded : expand ⟨table.loader, maxDepth⟩ room stack source.base source.text = .ok out)
    (chain : List Path) (isChain : table.IsIncludeChain source chain) : chain.length ≤ room := by
  induction chain generalizing room stack source out with
  | nil => exact Nat.zero_le _
  | cons first rest ih =>
    obtain ⟨⟨link, indent, mentions, rfl⟩, more⟩ := chain_cases isChain
    obtain ⟨-, less, included, nested, rfl, found, inner⟩ := mention_cases expanded mentions
    rcases more with rfl | ⟨included', found', isChain'⟩
    · simp
    · obtain rfl := Option.some.inj (found.symm.trans found')
      have shorter := ih inner isChain'
      simpa using shorter

theorem resolves_of_expand {room : Nat} {stack : List Path} {source visited : IncludeSource}
    {out link indent : Text}
    (expanded : expand ⟨table.loader, maxDepth⟩ room stack source.base source.text = .ok out)
    (visits : table.Visits source visited) (mentions : visited.Mentions link indent) :
    isRemote link = false ∧ ∃ included, table.source? (locate link visited.base) = some included := by
  induction room using Nat.strong_induction_on generalizing stack source out with
  | _ room ih =>
    rcases visits_cases visits with rfl | ⟨first, included, ⟨_, _, leads, rfl⟩, found, visits'⟩
    · obtain ⟨near, less, included, nested, -, found, -⟩ := mention_cases expanded mentions
      exact ⟨near, included, found⟩
    · obtain ⟨-, less, included', nested, rfl, found', inner⟩ := mention_cases expanded leads
      obtain rfl := Option.some.inj (found.symm.trans found')
      exact ih less (Nat.lt_succ_self less) inner visits'

theorem includable_of_expand {room : Nat} {stack : List Path} {source : IncludeSource} {out : Text}
    (expanded : expand ⟨table.loader, maxDepth⟩ room stack source.base source.text = .ok out) :
    table.Includable room source where
  resolves _ visits _ _ mentions := resolves_of_expand expanded visits mentions
  acyclic := acyclic_of_bounded (bounded_of_expand expanded)
  bounded := bounded_of_expand expanded

/-- Each location on the stack is normalized and leads to all that the source mentions. -/
def LeadsBack (table : IncludeTable) (stack : List Path) (source : IncludeSource) : Prop :=
  ∀ location ∈ stack, (∃ path, Path.normalize path = location) ∧
    ∀ next, source.LeadsTo next → Relation.TransGen table.Includes location next

theorem normalize_locate (link : Text) (base : Option Path) :
    ∃ path, Path.normalize path = locate link base := by
  cases base with
  | none => exact ⟨⟨link⟩, rfl⟩
  | some base => exact ⟨base.join ⟨link⟩, rfl⟩

theorem mem_of_any_same {stack : List Path} {base : Option Path} {link : Text}
    (normalized : ∀ location ∈ stack, ∃ path, Path.normalize path = location)
    (back : stack.any (locate link base).same = true) : locate link base ∈ stack := by
  obtain ⟨location, member, same⟩ := List.any_eq_true.mp back
  obtain ⟨path, rfl⟩ := normalized location member
  obtain ⟨linked, equal⟩ := normalize_locate link base
  rw [← equal, Path.normalize_same_iff] at same
  rwa [← equal, same]

theorem LeadsBack.push {stack : List Path} {source included : IncludeSource} {link indent : Text}
    (leadsBack : LeadsBack table stack source) (mentions : source.Mentions link indent)
    (found : table.source? (locate link source.base) = some included) :
    LeadsBack table (stack ++ [locate link source.base]) included := by
  intro location member
  rcases List.mem_append.mp member with earlier | last
  · refine ⟨(leadsBack location earlier).1, fun next leads => ?_⟩
    have path := (leadsBack location earlier).2 _ ⟨link, indent, mentions, rfl⟩
    exact Relation.TransGen.tail path ⟨included, found, leads⟩
  · obtain rfl := List.mem_singleton.mp last
    refine ⟨normalize_locate link source.base, fun next leads => ?_⟩
    exact Relation.TransGen.single ⟨included, found, leads⟩

/-- A location that is on the stack already would be on a cycle. -/
theorem LeadsBack.free {stack : List Path} {source : IncludeSource} {limit : Nat} {link indent : Text}
    (leadsBack : LeadsBack table stack source) (includable : table.Includable limit source)
    (mentions : source.Mentions link indent) :
    stack.any (locate link source.base).same = false := by
  rw [← Bool.not_eq_true]
  intro back
  have member := mem_of_any_same (fun location member => (leadsBack location member).1) back
  have leadsTo : source.LeadsTo (locate link source.base) := ⟨link, indent, mentions, rfl⟩
  exact includable.acyclic _ ⟨_, leadsTo, .refl⟩ ((leadsBack _ member).2 _ leadsTo)

theorem expand_of_includable {room : Nat} {stack : List Path} {source : IncludeSource}
    (includable : table.Includable room source) (leadsBack : LeadsBack table stack source) :
    ∃ out, expand ⟨table.loader, maxDepth⟩ room stack source.base source.text = .ok out := by
  induction room generalizing stack source with
  | zero =>
    rw [expand_eq]
    refine assemble_exists fun link indent mentions => ?_
    have leadsTo : source.LeadsTo (locate link source.base) := ⟨link, indent, mentions, rfl⟩
    have short := includable.bounded [locate link source.base]
      ⟨by simpa using leadsTo, List.isChain_singleton _⟩
    simp at short
  | succ room ih =>
    rw [expand_eq]
    refine assemble_exists fun link indent mentions => ?_
    obtain ⟨near, included, found⟩ := includable.resolves source (Or.inl rfl) link indent mentions
    have inner := includable.of_leadsTo ⟨link, indent, mentions, rfl⟩ found
    obtain ⟨nested, expanded⟩ := ih inner (leadsBack.push mentions found)
    have free := leadsBack.free includable mentions
    exact ⟨_, replacement_eq near found free expanded⟩

theorem expand_start {source : IncludeSource} (includable : table.Includable maxDepth source) :
    ∃ out, expand ⟨table.loader, maxDepth⟩ maxDepth [] source.base source.text = .ok out :=
  expand_of_includable includable fun _ member => absurd member List.not_mem_nil

theorem substitutes_of_includable {source : IncludeSource}
    (includable : table.Includable maxDepth source) : ∃ cut, table.Substitutes source cut := by
  obtain ⟨out, expanded⟩ := expand_start includable
  obtain ⟨cut, substitutes, -⟩ := substitutes_of_expand expanded
  exact ⟨cut, substitutes⟩

/-- An expansion with an empty stack succeeds exactly on what can be included, with the substituted
text. -/
theorem expand_eq_ok_iff {source : IncludeSource} {out : Text} :
    expand ⟨table.loader, maxDepth⟩ maxDepth [] source.base source.text = .ok out ↔
      table.Includable maxDepth source ∧ ∃ cut, table.Substitutes source cut ∧ cut.text = out := by
  constructor
  · intro expanded
    exact ⟨includable_of_expand expanded, substitutes_of_expand expanded⟩
  · rintro ⟨includable, cut, substitutes, rfl⟩
    obtain ⟨out, expanded⟩ := expand_start includable
    obtain ⟨other, substitutes', rfl⟩ := substitutes_of_expand expanded
    rwa [expandsTo_unique substitutes substitutes']

end Transclusion

open Transclusion

theorem transclude_eq_ok_iff {loader : Loader} {maxDepth : Nat} {base : Option Path}
    {text out : Text} :
    transclude loader maxDepth base text = .ok out ↔
      text ≠ [] ∧ expand ⟨loader, maxDepth⟩ maxDepth [] base text = .ok out ∧ out ≠ [] := by
  unfold transclude
  by_cases empty : text = []
  · simp [empty]
  · rw [if_neg (by simpa using empty)]
    cases expanded : expand ⟨loader, maxDepth⟩ maxDepth [] base text with
    | error fault => simp
    | ok resolved =>
      cases resolved with
      | nil =>
        simp only [reduceCtorEq, Except.ok.injEq, false_iff]
        rintro ⟨-, rfl, nonempty⟩
        exact nonempty rfl
      | cons c rest =>
        simp only [Except.ok.injEq]
        constructor
        · rintro rfl
          exact ⟨empty, rfl, List.cons_ne_nil c rest⟩
        · rintro ⟨-, rfl, -⟩
          rfl

theorem transclude_eq_error_iff {loader : Loader} {maxDepth : Nat} {base : Option Path}
    {text : Text} {fault : TransclusionFault} :
    transclude loader maxDepth base text = .error fault ↔
      (text = [] ∧ fault = .noText) ∨ text ≠ [] ∧
        (expand ⟨loader, maxDepth⟩ maxDepth [] base text = .error fault ∨
          expand ⟨loader, maxDepth⟩ maxDepth [] base text = .ok [] ∧ fault = .noOutput) := by
  unfold transclude
  by_cases empty : text = []
  · simp [empty, eq_comm]
  · rw [if_neg (by simpa using empty)]
    cases expanded : expand ⟨loader, maxDepth⟩ maxDepth [] base text with
    | error other => simp [empty]
    | ok resolved => cases resolved <;> simp [empty, eq_comm]

/-- Transclusion succeeds exactly if the text is not empty, all it reaches resolves without a cycle
and within the depth, and the substituted text is not empty; that text is the outcome. -/
theorem transclude_table_exact (table : IncludeTable) (maxDepth : Nat) (base : Option Path)
    (text : Text) :
    (∀ out, transclude table.loader maxDepth base text = .ok out ↔
      text ≠ [] ∧ table.Includable maxDepth ⟨base, text⟩ ∧
        ∃ cut, table.Substitutes ⟨base, text⟩ cut ∧ cut.text = out ∧ out ≠ []) ∧
    (table.Includable maxDepth ⟨base, text⟩ → ∃! cut, table.Substitutes ⟨base, text⟩ cut) := by
  have exact (out : Text) := @expand_eq_ok_iff table maxDepth ⟨base, text⟩ out
  constructor
  · intro out
    rw [transclude_eq_ok_iff, exact out]
    constructor
    · rintro ⟨given, ⟨includable, cut, substitutes, same⟩, nonempty⟩
      exact ⟨given, includable, cut, substitutes, same, nonempty⟩
    · rintro ⟨given, includable, cut, substitutes, same, nonempty⟩
      exact ⟨given, ⟨includable, cut, substitutes, same⟩, nonempty⟩
  · intro includable
    obtain ⟨cut, substitutes⟩ := substitutes_of_includable includable
    exact ⟨cut, substitutes, fun other expands => IncludeTable.expandsTo_unique expands substitutes⟩

/-- Two documents that include a third one: no cycle, and the third one stands in the text twice. -/
theorem transclude_table_exact_diamond :
    let table : IncludeTable :=
      ⟨[(⟨"a".toList⟩, ":[](c)".toList), (⟨"b".toList⟩, ":[](c)".toList), (⟨"c".toList⟩, ['x'])]⟩
    let source : IncludeSource := ⟨none, ":[](a):[](b)".toList⟩
    transclude table.loader 2 none source.text = .ok "xx".toList ∧ table.Includable 2 source ∧
      ∃! cut, table.Substitutes source cut := by
  intro table source
  have success : transclude table.loader 2 none source.text = .ok "xx".toList := by decide +kernel
  have exact := transclude_table_exact table 2 none source.text
  have includable := ((exact.1 _).mp success).2.1
  exact ⟨success, includable, exact.2 includable⟩

end ApiBlueprint

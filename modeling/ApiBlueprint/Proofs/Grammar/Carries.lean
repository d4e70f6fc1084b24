import ApiBlueprint.Proofs.Grammar.Parts
import ApiBlueprint.Proofs.Grammar.Outline

/-!
Each piece of the canonical text carries a reading from the outline of one tree to that of a larger
one: a heading, a payload with its content, a line of metadata.
-/

namespace ApiBlueprint

open Render

namespace Reading

/-- No fence is open, the scope is one of those and outside of all groups only before the first, and
what has been read is the tree, apart from line numbers and blank descriptions. -/
structure Shows (state : Reading) (tree : Blueprint) (scopes : Scope → Prop) : Prop where
  unfenced : state.fence = none
  scope : scopes state.scope
  outside : state.scope = .api ↔ state.blueprint.groups = []
  tree : state.blueprint.outline = tree

/-- Reading the lines leads from the one tree to the other, whatever follows them but lines that
could belong to the last payload. -/
def Carries (texts : List Text) (tree : Blueprint) (scopes : Scope → Prop) (grown : Blueprint)
    (reached : Scope → Prop) : Prop :=
  ∀ (state : Reading) (start : Nat) (rest : List Text), state.Shows tree scopes → Breaks rest →
    ∃ next : Reading, next.Shows grown reached ∧
      state.run (numbered start (texts ++ rest)) = next.run (numbered (start + texts.length) rest)

section Carries

variable {tree middle grown : Blueprint} {scopes between reached : Scope → Prop}
  {left right : List Text}

theorem Carries.nil (tree : Blueprint) (scopes : Scope → Prop) : Carries [] tree scopes tree scopes :=
  fun state _ _ shows _ => ⟨state, shows, rfl⟩

theorem Carries.append (first : Carries left tree scopes middle between)
    (second : Carries right middle between grown reached) (breaks : Breaks right) :
    Carries (left ++ right) tree scopes grown reached := by
  intro state start rest shows breaksRest
  obtain ⟨inner, showsInner, run⟩ := first state start (right ++ rest) shows (breaks.append breaksRest)
  obtain ⟨next, showsNext, runNext⟩ :=
    second inner (start + left.length) rest showsInner breaksRest
  refine ⟨next, showsNext, ?_⟩
  calc
    state.run (numbered start (left ++ right ++ rest)) =
        state.run (numbered start (left ++ (right ++ rest))) := by rw [List.append_assoc]
    _ = inner.run (numbered (start + left.length) (right ++ rest)) := run
    _ = next.run (numbered (start + left.length + right.length) rest) := runNext
    _ = next.run (numbered (start + (left ++ right).length) rest) := by
      rw [List.length_append, Nat.add_assoc]

theorem Carries.weaken {stronger weaker : Scope → Prop} (carries : Carries left tree scopes grown reached)
    (fewer : ∀ scope, stronger scope → scopes scope) (more : ∀ scope, reached scope → weaker scope) :
    Carries left tree stronger grown weaker := by
  intro state start rest shows breaks
  obtain ⟨next, showsNext, run⟩ :=
    carries state start rest { shows with scope := fewer _ shows.scope } breaks
  exact ⟨next, { showsNext with scope := more _ showsNext.scope }, run⟩

/-- By induction on the items: each one is carried to where the next one starts. -/
theorem Carries.items {α : Type} {items : List α} {lines : α → List Text}
    {change : Blueprint → α → Blueprint}
    (carries : ∀ item ∈ items, ∀ tree, Carries (lines item) tree scopes (change tree item) scopes)
    (breaks : ∀ item ∈ items, Breaks (lines item)) (tree : Blueprint) :
    Carries (items.flatMap lines) tree scopes (items.foldl change tree) scopes := by
  induction items generalizing tree with
  | nil => exact Carries.nil tree scopes
  | cons item items ih =>
    have first := carries item List.mem_cons_self tree
    have rest := ih (fun other member => carries other (List.mem_cons_of_mem item member))
      (fun other member => breaks other (List.mem_cons_of_mem item member)) (change tree item)
    rw [List.flatMap_cons]
    exact first.append rest (breaks_flatMap fun other member =>
      breaks other (List.mem_cons_of_mem item member))

end Carries

theorem run_step {state next : Reading} {line : Line} {rest : List Line} {taken : Nat}
    (step : state.step line rest = .ok (next, taken)) :
    state.run (line :: rest) = next.run (rest.drop taken) := by
  rw [run, step]
  rfl

theorem step_marked {state : Reading} {c : Char} {rest : Text} {number : Nat} {lines : List Line}
    (unfenced : state.fence = none) (marker : c = '#' ∨ c = '+') :
    state.step ⟨c :: rest, number⟩ lines =
      readStructure { state with inMetadata := false } ⟨c :: rest, number⟩ lines := by
  have quiet : Text.isSpace c = false ∧ Fence.isMarker c = false ∧ Text.isLetter c = false := by
    rcases marker with rfl | rfl <;> decide
  obtain ⟨solid, plain, noLetter⟩ := quiet
  exact step_of_start (Text.trimStart_cons solid) plain noLetter unfenced lines

theorem step_blank {state : Reading} {tree : Blueprint} {scopes : Scope → Prop}
    (shows : state.Shows tree scopes) (number : Nat) (lines : List Line) :
    ∃ next : Reading, state.step ⟨[], number⟩ lines = .ok (next, 0) ∧ next.Shows tree scopes := by
  obtain ⟨unfenced, scope, outside, same⟩ := shows
  have noFence : Fence.opening? ⟨[], number⟩ = none := rfl
  have described : readStructure { state with inMetadata := false } ⟨[], number⟩ lines =
      .ok (({ state with inMetadata := false } : Reading).describe [], 0) := rfl
  have after : (({ state with inMetadata := false } : Reading).describe []).Shows tree scopes :=
    ⟨unfenced, scope, outside.trans Blueprint.groups_describe_eq_nil_iff.symm,
      (Blueprint.outline_blank state.blueprint state.scope).trans same⟩
  obtain ⟨blueprint, inner, fence, inMetadata⟩ := state
  obtain rfl := unfenced
  cases inMetadata with
  | false => exact ⟨_, described, after⟩
  | true => exact ⟨_, rfl, rfl, scope, outside, same⟩

theorem run_blank {state : Reading} {tree : Blueprint} {scopes : Scope → Prop}
    (shows : state.Shows tree scopes) (gap start : Nat) (rest : List Text) :
    ∃ next : Reading, next.Shows tree scopes ∧
      state.run (numbered start (List.replicate gap [] ++ rest)) =
        next.run (numbered (start + gap) rest) := by
  induction gap generalizing state start with
  | zero => exact ⟨state, shows, rfl⟩
  | succ gap ih =>
    rw [List.replicate_succ, List.cons_append, numbered]
    obtain ⟨inner, step, showsInner⟩ := step_blank shows start
      (numbered (start + 1) (List.replicate gap [] ++ rest))
    obtain ⟨next, showsNext, run⟩ := ih showsInner (start + 1)
    refine ⟨next, showsNext, ?_⟩
    rw [run_step step, List.drop_zero, run, Nat.add_assoc, Nat.add_comm 1 gap]

section Headings

variable {tree grown : Blueprint} {scopes reached : Scope → Prop}

theorem Shows.outOfMetadata {state : Reading} (shows : state.Shows tree scopes) :
    ({ state with inMetadata := false } : Reading).Shows tree scopes :=
  ⟨shows.unfenced, shows.scope, shows.outside, shows.tree⟩

theorem carries_heading {depth : Nat} {text : Text} (gap : Nat) (marked : 1 ≤ depth)
    (shallow : depth ≤ 6) (isHeadingText : IsHeadingText text)
    (enter : ∀ (state : Reading) (number : Nat), state.Shows tree scopes →
      ∃ next : Reading, state.enterHeading ⟨depth, text, text, 0⟩ number = .ok next ∧
        next.Shows grown reached) :
    Carries (padded gap [heading depth text]) tree scopes grown reached := by
  intro state start rest shows _
  obtain ⟨inner, entered, showsInner⟩ := enter _ start shows.outOfMetadata
  obtain ⟨next, showsNext, run⟩ := run_blank showsInner gap (start + 1) rest
  have step : state.step ⟨heading depth text, start⟩
      (numbered (start + 1) (List.replicate gap [] ++ rest)) = .ok (inner, 0) := by
    obtain ⟨less, rfl⟩ := Nat.exists_eq_succ_of_ne_zero (Nat.ne_of_gt marked)
    have first : heading (less + 1) text = '#' :: heading less text := rfl
    rw [first, step_marked shows.unfenced (Or.inl rfl), ← first, readStructure,
      detect_heading marked shallow isHeadingText]
    exact bind_eq_ok.mpr ⟨inner, entered, rfl⟩
  refine ⟨next, showsNext, ?_⟩
  rw [padded, List.append_assoc, List.singleton_append, numbered, run_step step, List.drop_zero, run,
    List.length_append, List.length_singleton, List.length_replicate, Nat.add_assoc]

theorem carries_name {name : Text} (gap : Nat) (isName : IsName name) (unnamed : tree.name = none) :
    Carries (padded gap [heading 1 name]) tree (· = .api) { tree with name := some name } (· = .api) := by
  refine carries_heading gap (by decide) (by decide) isName.isHeadingText fun state number shows => ?_
  obtain ⟨unfenced, scope, outside, same⟩ := shows
  have fresh : state.blueprint.name = none := by
    rw [← unnamed, ← same, Blueprint.outline_eq]
  refine ⟨{ state with blueprint := { state.blueprint with name := some name } }, ?_, unfenced, scope,
    outside, ?_⟩
  · simp only [enterHeading, Declaration.ofHeading_name isName, scope, fresh, outside.mp scope]
    rfl
  · rw [← same, Blueprint.outline_eq, Blueprint.outline_eq]

theorem carries_group {name : Text} (gap : Nat) (isName : IsName name) :
    Carries (padded gap [heading 1 ("Group ".toList ++ name)]) tree scopes
      (tree.pushGroup { name := some name }) (· = .group) := by
  refine carries_heading gap (by decide) (by decide) isName.group_isHeadingText
    fun state number shows => ?_
  obtain ⟨unfenced, scope, outside, same⟩ := shows
  refine ⟨{ state with
    scope := .group
    blueprint := state.blueprint.pushGroup { name := some name } }, ?_, unfenced, rfl, ?_, ?_⟩
  · simp only [enterHeading, Declaration.ofHeading_group isName]
    rfl
  · simp [Blueprint.pushGroup]
  · have empty : ({ name := some name } : Group).outline = { name := some name } := rfl
    rw [← same, Blueprint.outline_eq, Blueprint.outline_eq]
    simp [Blueprint.pushGroup, empty]

theorem enter_resource {resource : Resource} {state : Reading} {text : Text} {number depth : Nat}
    (declares : Declaration.ofHeading text = .resource resource.name resource.uriTemplate) :
    state.enterHeading ⟨depth, text, text, 0⟩ number =
      .ok (state.addResource { resource.bare with line := number } .resource) := by
  simp only [enterHeading, declares]
  rfl

theorem carries_resource_heading {resource : Resource} (gap : Nat) (canonical : resource.IsCanonical) :
    Carries (padded gap [heading 2 resource.declared]) tree (· ≠ .api)
      (tree.onGroup fun group => group.push resource.bare) (· = .resource) := by
  refine carries_heading gap (by decide) (by decide) canonical.isHeadingText fun state number shows => ?_
  obtain ⟨unfenced, scope, outside, same⟩ := shows
  have some : state.blueprint.groups ≠ [] := fun none => scope (outside.mpr none)
  refine ⟨_, enter_resource (Declaration.ofHeading_resource canonical), ?_⟩
  rw [addResource_inside scope some]
  refine ⟨unfenced, rfl, ?_, ?_⟩
  · simp [Blueprint.groups_onGroup_eq_nil_iff, some]
  · exact same ▸ Blueprint.outline_pushResource state.blueprint _

theorem carries_first_heading {resource : Resource} (gap : Nat) (canonical : resource.IsCanonical) :
    Carries (padded gap [heading 2 resource.declared]) tree (· = .api)
      ((tree.pushGroup {}).onGroup fun group => group.push resource.bare) (· = .resource) := by
  refine carries_heading gap (by decide) (by decide) canonical.isHeadingText fun state number shows => ?_
  obtain ⟨unfenced, scope, -, same⟩ := shows
  refine ⟨_, enter_resource (Declaration.ofHeading_resource canonical), ?_⟩
  rw [addResource_outside scope]
  refine ⟨unfenced, rfl, ?_, ?_⟩
  · simp [Blueprint.groups_onGroup_eq_nil_iff, Blueprint.pushGroup]
  · have pushed : (state.blueprint.pushGroup {}).outline = tree.pushGroup {} := by
      rw [Blueprint.outline_pushGroup, same]
      rfl
    exact pushed ▸ Blueprint.outline_pushResource (state.blueprint.pushGroup {}) _

theorem carries_action_heading {action : Action} (gap : Nat) (canonical : action.IsCanonical) :
    Carries (padded gap [heading 3 action.declared]) tree (fun scope => scope = .resource ∨ scope = .action)
      (tree.onResource fun resource => resource.push action.bare) (· = .action) := by
  refine carries_heading gap (by decide) (by decide) canonical.isHeadingText fun state number shows => ?_
  obtain ⟨unfenced, scope, outside, same⟩ := shows
  refine ⟨state.addAction { action.bare with line := number }, ?_, unfenced, rfl, ?_, ?_⟩
  · have inside : (state.scope = .resource || state.scope = .action : Bool) = true := by
      simpa using scope
    simp only [enterHeading, Declaration.ofHeading_action canonical, inside, if_true]
    rfl
  · have some : state.blueprint.groups ≠ [] := by
      intro none
      rw [outside.mpr none] at scope
      simp at scope
    simp [addAction, Blueprint.onResource, Blueprint.groups_onGroup_eq_nil_iff, some]
  · exact same ▸ Blueprint.outline_pushAction state.blueprint _

end Headings

theorem parted_spaced (subject : Option Text) (media : Option Text) :
    (spaced subject ++ spaced media).isEmpty = true ∨
      (spaced subject ++ spaced media).head?.any Text.isSpace = true := by
  cases subject with
  | some text => exact Or.inr rfl
  | none =>
    cases media with
    | some text => exact Or.inr rfl
    | none => exact Or.inl rfl

theorem read_payload {payload : Payload} {state : Reading} (gap number start : Nat) {rest : List Text}
    (canonical : payload.IsCanonical) (inside : state.scope = .action) (breaks : Breaks rest) :
    readStructure state ⟨payload.item, number⟩ (numbered start (payload.contentLines gap ++ rest)) =
      .ok (state.addPayload { payload with line := number }, (payload.contentLines gap).length) := by
  have flush : Line.indentWidth payload.item = 0 := rfl
  have noHeading : ∀ next, Heading.detect? ⟨payload.item, number⟩ next = none :=
    Heading.detect_none_of_start (Text.trimStart_cons (by decide)) (by decide)
  have keyword := PayloadItem.keyword_item payload.signature.payloadKind
    (parted_spaced payload.signature.subject (payload.mediaType.map parentheses))
  have read : state.enterPayload payload.signature.payloadKind
      (spaced payload.signature.subject ++ spaced (payload.mediaType.map parentheses))
      ⟨payload.item, number⟩ (numbered start (payload.contentLines gap)) =
        .ok (state.addPayload { payload with line := number }) := by
    unfold enterPayload
    rw [PayloadItem.ofRest_item canonical]
    refine bind_eq_ok.mpr ⟨_, rfl, ?_⟩
    rw [if_pos inside]
    exact bind_eq_ok.mpr ⟨_, Payload.build_canonical canonical flush, rfl⟩
  change PayloadItem.keyword? payload.item = _ at keyword
  simp only [readStructure, noHeading, keyword, content_numbered flush breaks, read, length_numbered]
  rfl

theorem carries_payload {payload : Payload} {tree : Blueprint} (gap : Nat)
    (canonical : payload.IsCanonical) :
    Carries (payload.lines gap) tree (· = .action)
      (tree.onAction fun action => action.push payload.unnumbered) (· = .action) := by
  intro state start rest shows breaks
  obtain ⟨unfenced, scope, outside, same⟩ := shows.outOfMetadata
  have lines : payload.lines gap = payload.item :: payload.contentLines gap := rfl
  have step : state.step ⟨payload.item, start⟩
      (numbered (start + 1) (payload.contentLines gap ++ rest)) = _ :=
    (step_marked shows.unfenced (Or.inr rfl)).trans
      (read_payload gap start (start + 1) canonical scope breaks)
  refine ⟨({ state with inMetadata := false } : Reading).addPayload { payload with line := start },
    ⟨unfenced, scope, outside.trans Blueprint.groups_onGroup_eq_nil_iff.symm, ?_⟩, ?_⟩
  · exact same ▸ Blueprint.outline_pushPayload state.blueprint _
  · rw [lines, List.cons_append, numbered, run_step step, numbered_append, List.drop_left']
    · rw [List.length_cons, Nat.add_assoc, Nat.add_comm 1]
    · exact length_numbered _ _

theorem ofLine_colon {entry : Metadata} (canonical : entry.IsCanonical) :
    Metadata.ofLine? (colon entry.key entry.value) = some entry := by
  have inKey : ∀ c ∈ entry.key, Metadata.isKeyCharacter c = true := by
    intro c member
    simpa [Metadata.isKeyCharacter, or_assoc] using canonical.characters c member
  have key : (colon entry.key entry.value).takeWhile Metadata.isKeyCharacter = entry.key := by
    rw [colon, List.takeWhile_append_of_pos inKey, List.takeWhile_cons_of_neg (by decide),
      List.append_nil]
  have behind : (colon entry.key entry.value).dropWhile Metadata.isKeyCharacter =
      ':' :: ' ' :: entry.value := by
    rw [colon, List.dropWhile_append_of_pos inKey, List.dropWhile_cons_of_neg (by decide)]
  have value : Text.trim (' ' :: entry.value) = entry.value := by
    have padded := @Text.trim_pad [' '] entry.value [] (by decide) (by simp)
    rw [List.append_nil, canonical.trimmed] at padded
    exact padded
  simp only [Metadata.ofLine?, key, behind, value, canonical.letter, if_true]

def note (state : Reading) (entries : List Metadata) : Reading :=
  { state with
    blueprint := { state.blueprint with metadata := state.blueprint.metadata ++ entries } }

theorem note_note (state : Reading) (first second : List Metadata) :
    (state.note first).note second = state.note (first ++ second) := by
  simp [note]

theorem step_entry {state : Reading} {entry : Metadata} {number : Nat} {lines : List Line}
    (canonical : entry.IsCanonical) (unfenced : state.fence = none) (early : state.inMetadata = true) :
    state.step ⟨colon entry.key entry.value, number⟩ lines =
      .ok (state.note [entry], 0) := by
  have read := ofLine_colon canonical
  have letter := canonical.letter
  cases key : entry.key with
  | nil => simp [key] at letter
  | cons c rest =>
    have alphanumeric : Text.isAlphanumeric c = true := by
      rw [key] at letter
      simpa [Text.isAlphanumeric] using Or.inl letter
    have solid := alphanumeric_solid alphanumeric
    have plain : Fence.isMarker c = false := by
      cases marker : Fence.isMarker c with
      | false => rfl
      | true =>
        have sign : c = '\x60' ∨ c = '~' := by simpa [Fence.isMarker] using marker
        rcases sign with rfl | rfl <;> exact Bool.noConfusion alphanumeric
    have first : colon (c :: rest) entry.value = c :: colon rest entry.value := rfl
    rw [key, first] at read
    have noFence : Fence.opening? ⟨c :: colon rest entry.value, number⟩ = none :=
      Fence.opening_none_of_start (Text.trimStart_cons solid) plain
    simp [first, step, Fence.advance, unfenced, noFence, early, read, note, Line.isBlank, Text.isBlank, solid]

theorem run_metadata {state : Reading} {entries : List Metadata} (start : Nat) (rest : List Text)
    (canonical : ∀ entry ∈ entries, entry.IsCanonical) (unfenced : state.fence = none)
    (early : state.inMetadata = true) :
    state.run (numbered start ((entries.map fun entry => colon entry.key entry.value) ++ rest)) =
      (state.note entries).run (numbered (start + entries.length) rest) := by
  induction entries generalizing state start with
  | nil => simp [note]
  | cons entry entries ih =>
    have step (lines : List Line) := @step_entry state entry start lines
      (canonical entry List.mem_cons_self) unfenced early
    have later := @ih (state.note [entry]) (start + 1)
      (fun other member => canonical other (List.mem_cons_of_mem entry member)) unfenced early
    rw [List.map_cons, List.cons_append, numbered, run_step (step _), List.drop_zero, later, note_note,
      List.singleton_append, List.length_cons, Nat.add_assoc, Nat.add_comm 1]

end Reading

end ApiBlueprint

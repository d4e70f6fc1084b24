import ApiBlueprint.Proofs.Grammar.Described
import ApiBlueprint.Proofs.Grammar.Pose
import ApiBlueprint.Proofs.Grammar.Step

/-!
Fenced blocks are opaque. Two sources that differ in the lines of one block are read alike: what stands
before the block is read without a look into it, its lines go to one description as they stand, and what
stands behind it is read from states in the same pose.
-/

namespace ApiBlueprint

theorem Fence.opening_breaks {line : Line} {fence : Fence} (opens : opening? line = some fence) :
    line.Breaks := by
  unfold opening? at opens
  split at opens
  · cases opens
  · rename_i shallow
    split at opens
    · cases opens
    · rename_i marker rest dedented
      simp only at opens
      split at opens
      · rename_i conditions
        have isMarker : marker = '\x60' ∨ marker = '~' := by
          simp only [Bool.and_eq_true] at conditions
          simpa [Fence.isMarker] using conditions.1
        have solid : Text.isSpace marker = false ∧ marker ≠ '=' ∧ marker ≠ '-' := by
          rcases isMarker with rfl | rfl <;> decide
        have start : Text.trimStart line.text = marker :: rest := by
          rw [← Text.trimStart_dedent 3, dedented, Text.trimStart_cons solid.1]
        exact Line.breaks_of_start start (Nat.le_of_not_lt shallow) solid.2
      · cases opens

namespace Reading

theorem entries_append {first : Line} {tail : List Line} (breaks : first.Breaks) (state : Reading)
    (line : Line) (rest : List Line) :
    state.entries line (rest ++ first :: tail) = state.entries line rest := by
  simp only [entries, structureEntries, Heading.detect_append breaks, Payload.content_append breaks]

/-- By induction on the steps: a source with the same lines down to one that breaks is read alike so far. -/
theorem Reached.of_same_front {source other : Text} {front : List Line} {first : Line} {tail tail' : List Line}
    (breaks : first.Breaks) (lines : splitLines source = front ++ first :: tail)
    (lines' : splitLines other = front ++ first :: tail') {state : Reading} {ahead : List Line}
    {log : List Entry} (reached : Reached source state (ahead ++ first :: tail) log) :
    Reached other state (ahead ++ first :: tail') log := by
  generalize whole : ahead ++ first :: tail = left at reached
  induction reached generalizing ahead with
  | start =>
    obtain rfl : ahead = front := List.append_cancel_right (whole.trans lines)
    exact lines' ▸ .start
  | @step state next line rest log taken reached stepped ih =>
    have counted : (rest.take taken).length = taken := List.length_take_of_le (taken_le stepped)
    have parted : rest = (rest.take taken ++ ahead) ++ first :: tail := by
      rw [List.append_assoc, whole, List.take_append_drop]
    generalize rest.take taken = skipped at counted parted
    obtain rfl := parted
    have there : Reached other state (line :: (skipped ++ ahead ++ first :: tail')) log :=
      @ih (line :: (skipped ++ ahead)) rfl
    rw [step_append breaks] at stepped
    have moved := there.step ((step_append breaks state line _).trans stepped)
    rw [entries_append breaks] at moved ⊢
    rwa [← counted, List.append_assoc, List.drop_left] at moved

theorem Reached.fenced {source : Text} {state : Reading} {line : Line} {rest : List Line} {log : List Entry}
    {after : Option Fence} (reached : Reached source state (line :: rest) log)
    (advanced : Fence.advance state.fence line = (true, after)) :
    Reached source ({ state with fence := after, inMetadata := false }.describe line.text) rest
      (log ++ [.text line.text]) := by
  have stepped : state.step line rest =
      .ok ({ state with fence := after, inMetadata := false }.describe line.text, 0) := by
    rw [Reading.step, advanced]
  have noted : state.entries line rest = [.text line.text] := by
    rw [entries, advanced]
    rfl
  exact noted ▸ reached.step stepped

/-- By induction on the lines of the block: they are logged as text, and the pose stays. -/
theorem Reached.through_block {source : Text} {state : Reading} {block behind : List Line} {log : List Entry}
    {fence : Fence} (reached : Reached source state (block ++ behind) log)
    (opened : state.fence = some fence) (late : state.inMetadata = false)
    (inside : ∀ line ∈ block, fence.closes line = false) :
    ∃ next, Reached source next behind (log ++ block.map fun line => .text line.text) ∧
      state.SamePose next := by
  induction block generalizing state log with
  | nil => exact ⟨state, by simpa using reached, rfl, rfl, rfl, rfl, Iff.rfl⟩
  | cons line block ih =>
    obtain ⟨here, later⟩ := List.forall_mem_cons.mp inside
    have advanced : Fence.advance state.fence line = (true, some fence) := by
      rw [opened, Fence.advance, here]
      rfl
    obtain ⟨next, there, scope, fenced, metadata, name, groups⟩ :=
      ih (reached.fenced advanced) rfl rfl later
    refine ⟨next, ?_, scope, opened.trans fenced, late.trans metadata, ?_, ?_⟩
    · rw [List.map_cons, List.append_cons]
      exact there
    · exact (Blueprint.top_describe _ _ _).2.symm.trans name
    · exact Blueprint.groups_describe_eq_nil_iff.symm.trans groups

end Reading

namespace Blueprint

/-- What stands in a fenced block is nothing to the structure. Two sources that differ there, in lines that
do not close the fence, fail alike, or they have the same tree but for one description: that of the last
node above the block, which has the lines of the block as they stand. -/
theorem read_fence_opaque {source other : Text} {front block block' behind : List Line} {opening : Line}
    {fence : Fence} {state : Reading} {log : List Entry}
    (lines : splitLines source = front ++ opening :: (block ++ behind))
    (lines' : splitLines other = front ++ opening :: (block' ++ behind))
    (reached : Reading.Reached source state (opening :: (block ++ behind)) log)
    (unfenced : state.fence = none) (opens : Fence.opening? opening = some fence)
    (inside : ∀ line ∈ block ++ block', fence.closes line = false) :
    Paired (fun tree tree' => ∃ (base : Blueprint) (above below : Text),
        let n := state.blueprint.nodes.length - 1
        let described (block : List Line) := tidyText (above ++
          ((opening :: block).map Line.text).flatMap (fun text => text ++ ['\n']) ++ below)
        n < base.nodes.length ∧
          tree = base.redescribe (described block) n ∧ tree' = base.redescribe (described block') n)
      (Blueprint.read source) (Blueprint.read other) := by
  obtain ⟨inBlock, inBlock'⟩ := List.forall_mem_append.mp inside
  have reached' : Reading.Reached other state (opening :: (block' ++ behind)) log :=
    @Reading.Reached.of_same_front source other front opening (block ++ behind) (block' ++ behind)
      (Fence.opening_breaks opens) lines lines' state [] log reached
  have advanced : Fence.advance state.fence opening = (true, some fence) := by
    rw [unfenced, Fence.advance, opens]
  obtain ⟨next, there, pose⟩ := (reached.fenced advanced).through_block rfl rfl inBlock
  obtain ⟨next', there', pose'⟩ := (reached'.fenced advanced).through_block rfl rfl inBlock'
  rw [there.run_eq, there'.run_eq]
  refine (there.run_paired there' (pose.symm.trans pose')).imp ?_
  rintro tree tree' ⟨last, last', added, ends, ends', lastPose, rfl, rfl⟩
  have noted (block : List Line) :
      log ++ [.text opening.text] ++ block.map (fun line => .text line.text) ++ added =
        log ++ (((opening :: block).map Line.text).map .text ++ added) := by
    simp
  rw [noted] at ends ends'
  obtain ⟨above, below, told⟩ := ends.holds.records.eq_redescribe ends'.holds.records lastPose.name
  rw [← reached.holds.records.nodes] at told
  exact ⟨last.blueprint.tidy, above, below, told⟩

/-- In the one block stand a heading, an item and a shorter fence, in the other one underlines. -/
theorem read_fence_opaque_underlines :
    let source := "# Teas\n~~~~\n## Pot [/pot]\n+ Response 200\n~~~\n~~~~\n## Cup [/cup]".toList
    let other := "# Teas\n~~~~\n===\n---\nHOST: a\n~~~~\n## Cup [/cup]".toList
    ∃ (base : Blueprint) (above below : Text),
      let described (text : Text) := tidyText (above ++ text ++ below)
      Blueprint.read source =
        .ok (base.redescribe (described "~~~~\n## Pot [/pot]\n+ Response 200\n~~~\n".toList) 0) ∧
      Blueprint.read other = .ok (base.redescribe (described "~~~~\n===\n---\nHOST: a\n".toList) 0) := by
  intro source other
  let title : Line := ⟨"# Teas".toList, 1⟩
  let opening : Line := ⟨"~~~~".toList, 2⟩
  let fence : Fence := ⟨'~', 4, 2⟩
  let block : List Line := [⟨"## Pot [/pot]".toList, 3⟩, ⟨"+ Response 200".toList, 4⟩, ⟨"~~~".toList, 5⟩]
  let block' : List Line := [⟨"===".toList, 3⟩, ⟨"---".toList, 4⟩, ⟨"HOST: a".toList, 5⟩]
  let behind : List Line := [⟨"~~~~".toList, 6⟩, ⟨"## Cup [/cup]".toList, 7⟩]
  let named : Reading := { blueprint := { name := some "Teas".toList }, inMetadata := false }
  have lines : splitLines source = [title] ++ opening :: (block ++ behind) := by decide +kernel
  have lines' : splitLines other = [title] ++ opening :: (block' ++ behind) := by decide +kernel
  have begins : Reading.Reached source {} ([title] ++ opening :: (block ++ behind)) [] := lines ▸ .start
  have stepped : ({} : Reading).step title (opening :: (block ++ behind)) = .ok (named, 0) := by
    decide +kernel
  have opens : Fence.opening? opening = some fence := by decide
  have inside : ∀ line ∈ block ++ block', fence.closes line = false := by decide
  have paired := read_fence_opaque lines lines' (begins.step stepped) rfl opens inside
  have readable : (Blueprint.read source).isOk = true := by decide +kernel
  cases first : Blueprint.read source with
  | error error =>
    rw [first] at readable
    cases readable
  | ok tree =>
    cases second : Blueprint.read other with
    | error error =>
      rw [first, second] at paired
      exact paired.elim
    | ok tree' =>
      rw [first, second] at paired
      obtain ⟨base, above, below, -, rfl, rfl⟩ := paired
      exact ⟨base, above, below, rfl, rfl⟩

end Blueprint
end ApiBlueprint

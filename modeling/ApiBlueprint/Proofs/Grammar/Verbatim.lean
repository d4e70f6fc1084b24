import ApiBlueprint.Proofs.Grammar.Inserted
import ApiBlueprint.Proofs.Grammar.Response
import ApiBlueprint.Proofs.Grammar.WellFormed

/-!
A block below the line of a response and the rest of the tree, which is that of the source without the
block: nothing in a block is read as anything else than as the body.
-/

namespace ApiBlueprint

open Render

theorem Node.payloads_ofLog (kind : PayloadKind) (opening : Option Opening) (chapter log : List Entry) :
    ((ofLog opening chapter log).flatMap fun node => node.payloads kind) =
      (chapter ++ log).filterMap (Entry.payload? kind) := by
  have own (opening : Option Opening) (chapter : List Entry) :
      (ofChapter opening chapter).payloads kind = chapter.filterMap (Entry.payload? kind) := by
    cases kind <;> rfl
  induction log generalizing opening chapter with
  | nil => rw [ofLog, List.flatMap_singleton, own, List.append_nil]
  | cons entry log ih =>
    rw [ofLog]
    split
    · rename_i next opens
      have none : entry.payload? kind = none := by
        cases entry <;> simp_all [Entry.opening?, Entry.payload?]
      rw [List.flatMap_cons, own, ih, List.nil_append, List.filterMap_append,
        List.filterMap_cons_none none]
    · rw [ih, List.append_assoc]
      rfl

theorem Blueprint.payloads_nodes (kind : PayloadKind) (tree : Blueprint) :
    (tree.nodes.flatMap fun node => node.payloads kind) =
      (tree.actions.flatMap fun action => action.payloads kind).map .ok := by
  cases kind <;>
    simp [nodes, Group.nodes, Resource.nodes, Action.node, Node.payloads, Action.payloads, actions, resources,
      List.flatMap_assoc, List.map_flatMap, List.flatMap_map]

theorem Blueprint.Records.payloads {tree : Blueprint} {log : List Entry} (records : tree.Records log)
    (kind : PayloadKind) :
    (tree.tidy.actions.flatMap fun action => action.payloads kind).map .ok =
      log.filterMap (Entry.payload? kind) := by
  have kept (node : Node) : node.tidy.payloads kind = node.payloads kind := by
    cases kind <;> rfl
  rw [← payloads_nodes, nodes_tidy, List.flatMap_map, records.nodes]
  simp only [kept]
  exact Node.payloads_ofLog kind none [] log

theorem Reading.Reached.payload_mem {source : Text} {state next : Reading} {line : Line} {rest : List Line}
    {log : List Entry} {taken : Nat} {kind : PayloadKind} {payload : Payload} {tree : Blueprint}
    (reached : Reached source state (line :: rest) log) (stepped : state.step line rest = .ok (next, taken))
    (noted : state.entries line rest = [.payload kind (.ok payload)])
    (read : Blueprint.read source = .ok tree) :
    payload ∈ tree.actions.flatMap fun action => action.payloads kind := by
  have there := reached.step stepped
  obtain ⟨last, added, ends, done⟩ := there.exists_last (there.run_eq ▸ read)
  obtain ⟨-, rfl⟩ := finish_eq_ok done
  have logged : Entry.payload kind (.ok payload) ∈ log ++ state.entries line rest ++ added := by
    rw [noted]
    simp
  have found := List.mem_filterMap.mpr ⟨_, logged, (by simp [Entry.payload?] :
    (Entry.payload kind (.ok payload)).payload? kind = some (.ok payload))⟩
  rw [← ends.holds.records.payloads] at found
  obtain ⟨other, inside, same⟩ := List.mem_map.mp found
  obtain rfl := Except.ok.inj same
  exact inside

def Payload.putBody (number : Nat) (body : Text) (payload : Payload) : Payload :=
  if payload.line = number then { payload with body := some body } else payload

def Blueprint.putBody (number : Nat) (body : Text) : Blueprint → Blueprint :=
  relabel id (Payload.putBody number body)

theorem Payload.putBody_elsewhere {place : Nat → Nat} {number : Nat} {line : Line} (body : Text)
    (elsewhere : place line.number ≠ number) :
    line.OnlyRenumbered place (putBody number body ∘ renumber place) := by
  intro payload same
  rw [← same] at elsewhere
  simp [putBody, renumber, elsewhere]

theorem Blueprint.relabel_relabel (place place' : Nat → Nat) (change change' : Payload → Payload)
    (tree : Blueprint) : (tree.relabel place change).relabel place' change' =
      tree.relabel (place' ∘ place) (change' ∘ change) := by
  simp [relabel, Group.relabel, Resource.relabel, Action.relabel, Function.comp_def]

/-- From the line of a response on, a source is read as without the block below it, but for the body. -/
theorem Reading.IsAtResponse.run_block {width status : Nat} {item gap : Line} {state : Reading}
    {block tail : List Line} {body : Text} {deeper : Nat} {place : Nat → Nat}
    (isAt : state.IsAtResponse width status item)
    (ends : ∀ line ∈ (tail.dropWhile Line.isBlank).head?, ¬ Line.IsDeep (width + 4) line.text)
    (empty : gap.text = []) (isBlock : IsBlock body) (deep : 4 ≤ deeper)
    (rows : block.map Line.text = (body.splitOn '\n').map (indented (width + 4 + deeper)))
    (kept : place item.number = item.number) (fixed : state.relabel place
      (Payload.putBody item.number body ∘ Payload.renumber place) = state)
    (apart : ∀ line ∈ tail, place line.number ≠ item.number) :
    state.run (item :: (gap :: block ++ tail.map (Line.renumber place))) =
      renumbered place (fun tree => (tree.renumber place).putBody item.number body)
        (state.run (item :: gap :: tail)) := by
  let late : Reading := { state with inMetadata := false }
  let change := Payload.putBody item.number body ∘ Payload.renumber place
  let bare : Payload := { signature := .response status, line := item.number }
  have below : (tail.map (Line.renumber place)).dropWhile Line.isBlank =
      (tail.dropWhile Line.isBlank).map (Line.renumber place) := List.dropWhile_map
  have ends' : ∀ line ∈ ((tail.map (Line.renumber place)).dropWhile Line.isBlank).head?,
      ¬ Line.IsDeep (width + 4) line.text := by
    intro line first
    rw [below, List.head?_map] at first
    obtain ⟨original, here, rfl⟩ := Option.map_eq_some_iff.mp first
    exact ends original here
  obtain ⟨taken, stepped, dropped⟩ := isAt.step_gap ends empty
  obtain ⟨taken', stepped', dropped', -⟩ := isAt.step_block ends' empty isBlock deep rows
  have changed : change bare = { bare with body := some body } := by
    simp [change, bare, Payload.putBody, Payload.renumber, kept]
  have only : ∀ line ∈ tail.dropWhile Line.isBlank, line.OnlyRenumbered place change := by
    intro line member
    exact Payload.putBody_elsewhere body (apart line ((List.dropWhile_suffix _).subset member))
  have lateFixed : late.relabel place change = late :=
    congrArg (fun state => ({ state with inMetadata := false } : Reading)) fixed
  calc
    state.run (item :: (gap :: block ++ tail.map (Line.renumber place))) =
        (late.addPayload (change bare)).run ((tail.dropWhile Line.isBlank).map (Line.renumber place)) := by
      rw [run, stepped', changed]
      exact congrArg (Reading.run _) (dropped'.trans below)
    _ = ((late.addPayload bare).relabel place change).run
        ((tail.dropWhile Line.isBlank).map (Line.renumber place)) := by
      have signature : (change bare).signature = bare.signature := by rw [changed]
      rw [← late.addPayload_relabel signature, lateFixed]
    _ = renumbered place (Blueprint.relabel place change)
        ((late.addPayload bare).run (tail.dropWhile Line.isBlank)) :=
      (late.addPayload bare).run_relabel only
    _ = renumbered place (fun tree => (tree.renumber place).putBody item.number body)
        (state.run (item :: gap :: tail)) := by
      have put (tree : Blueprint) : tree.relabel place change =
          (tree.renumber place).putBody item.number body := by
        rw [Blueprint.renumber, Blueprint.putBody, Blueprint.relabel_relabel]
        rfl
      rw [run, stepped, funext put]
      exact congrArg (fun lines => renumbered place _ ((late.addPayload bare).run lines)) dropped.symm

theorem Reading.relabel_front {texts : List Text} {state : Reading} {number last count : Nat} {body : Text}
    (reached : ({} : Reading).after (numbered 1 texts) = .ok state) (before : texts.length < number)
    (atMost : number ≤ last) :
    state.relabel (inserted last count)
      (Payload.putBody number body ∘ Payload.renumber (inserted last count)) = state := by
  let place := inserted last count
  let change := Payload.putBody number body ∘ Payload.renumber place
  have kept : (numbered 1 texts).map (Line.renumber place) = numbered 1 texts :=
    numbered_inserted (by omega)
  have only : ∀ line ∈ numbered 1 texts, line.OnlyRenumbered place change := by
    intro line member
    have here := (mem_numbered_number member).2
    refine Payload.putBody_elsewhere body ?_
    rw [show place line.number = line.number from if_neg (by omega)]
    omega
  have moved := ({} : Reading).after_relabel only
  have none : ({} : Reading).relabel place change = {} := rfl
  rw [kept, none, reached] at moved
  exact (Except.ok.inj moved).symm

theorem splitLines_below {before inside behind : List Text} {item : Text} (itemRow : IsRow item)
    (isRow : ∀ text ∈ inside, IsRow text) (lines : ∀ text ∈ before ++ behind, Text.IsLine text) :
    let number := before.length + 1
    splitLines (Text.joinWith ['\n'] (before ++ (item :: [] :: inside ++ behind))) =
      numbered 1 (before.map Line.dropReturn) ++ ⟨item, number⟩ :: (⟨[], number + 1⟩ ::
        numbered (number + 2) inside ++
          numbered (number + 2 + inside.length) (behind.map Line.dropReturn)) := by
  have rows : ∀ text ∈ item :: [] :: inside, IsRow text := by
    rw [List.forall_mem_cons, List.forall_mem_cons]
    exact ⟨itemRow, IsRow.nil, isRow⟩
  have parted := splitLines_between (List.cons_ne_nil _ _) rows lines
  have count : (item :: [] :: inside).length = 2 + inside.length := Nat.add_comm _ 2
  rw [count, ← Nat.add_assoc] at parted
  exact parted

/-- The lines behind the blank ones are those of the texts behind the blank ones. -/
theorem shallow_numbered {width start : Nat} {behind : List Text}
    (ends : ∀ text ∈ behind.find? (fun text => !Text.isBlank text), Line.indentWidth text < width) :
    ∀ line ∈ ((numbered start (behind.map Line.dropReturn)).dropWhile Line.isBlank).head?,
      ¬ Line.IsDeep width line.text := by
  intro line first
  have blank : Text.isBlank ∘ Line.dropReturn = Text.isBlank := funext Line.isBlank_dropReturn
  have texts : ((numbered start (behind.map Line.dropReturn)).dropWhile Line.isBlank).map Line.text =
      (behind.dropWhile Text.isBlank).map Line.dropReturn := by
    have same := List.dropWhile_map (p := Text.isBlank) (f := Line.text)
      (l := numbered start (behind.map Line.dropReturn))
    rw [texts_numbered, List.dropWhile_map, blank] at same
    exact same.symm
  have here : some line.text = ((behind.dropWhile Text.isBlank).map Line.dropReturn).head? := by
    rw [← texts, List.head?_map, first]
    rfl
  rw [List.head?_map] at here
  obtain ⟨raw, found, same⟩ := Option.map_eq_some_iff.mp here.symm
  rw [← List.find?_not_eq_head?_dropWhile] at found
  have solid := List.find?_some found
  have shallow := ends raw found
  rw [← same, Line.isDeep_dropReturn]
  rintro (isBlank | deep)
  · rw [isBlank] at solid
    cases solid
  · exact absurd deep (Nat.not_le.mpr shallow)

/-- The lines of a block below an item for a response, as deep as you like, are the body of that response,
and nothing else is read from them. The tree is that of the source without the block, or the error is, but
for that body and for the numbers of the lines behind. -/
theorem Blueprint.read_body_verbatim {before behind : List Text} {state : Reading} {width status : Nat}
    (lines : ∀ text ∈ before ++ behind, Text.IsLine text)
    (reached : ({} : Reading).after (numbered 1 (before.map Line.dropReturn)) = .ok state)
    (inAction : state.scope = .action) (unfenced : state.fence = none) (shallow : width ≤ 3)
    (least : 100 ≤ status) (most : status ≤ 599)
    (ends : ∀ text ∈ behind.find? (fun text => !Text.isBlank text), Line.indentWidth text < width + 4)
    {body : Text} (isBlock : IsBlock body) (k : Nat) :
    let item := List.replicate width ' ' ++ "+ Response ".toList ++ Text.ofNat status
    let rows := (body.splitOn '\n').map (indented (width + 8 + k))
    let source := Text.joinWith ['\n'] (before ++ (item :: [] :: rows ++ behind))
    let number := before.length + 1
    let place := inserted (number + 1) rows.length
    Blueprint.read source = renumbered place (fun tree => (tree.renumber place).putBody number body)
        (Blueprint.read (Text.joinWith ['\n'] (before ++ (item :: [] :: behind)))) ∧
      ∀ tree, Blueprint.read source = .ok tree →
        { signature := .response status, body := some body, line := number } ∈
          tree.actions.flatMap Action.responses := by
  intro item rows source number place
  let first : Line := ⟨item, number⟩
  let gap : Line := ⟨[], number + 1⟩
  let block := numbered (number + 2) rows
  let tail (start : Nat) := numbered start (behind.map Line.dropReturn)
  have isAt : state.IsAtResponse width status first := ⟨shallow, least, most, rfl, inAction, unfenced⟩
  have breaks : first.Breaks := Payload.responseLine_breaks shallow status number
  have itemRow : IsRow item := Payload.isRow_responseLine least most
  have isRow : ∀ text ∈ rows, IsRow text := by
    intro text member
    obtain ⟨line, inside, rfl⟩ := List.mem_map.mp member
    exact isRow_indented _ (isBlock.isRow inside)
  have full := splitLines_below itemRow isRow lines
  have plain : splitLines (Text.joinWith ['\n'] (before ++ (item :: [] :: behind))) =
      numbered 1 (before.map Line.dropReturn) ++ first :: gap :: tail (number + 2) :=
    splitLines_below itemRow (List.forall_mem_nil IsRow) lines
  have texts : block.map Line.text = (body.splitOn '\n').map (indented (width + 4 + (4 + k))) := by
    rw [texts_numbered, show width + 4 + (4 + k) = width + 8 + k by omega]
  have deep : 4 ≤ 4 + k := Nat.le_add_right 4 k
  constructor
  · have kept : place number = number := if_neg (by omega)
    have moved : (tail (number + 2)).map (Line.renumber place) = tail (number + 2 + rows.length) :=
      inserted_numbered (Nat.lt_succ_self _)
    have apart : ∀ line ∈ tail (number + 2), place line.number ≠ number := by
      intro line member
      have behindGap := (mem_numbered_number member).1
      rw [show place line.number = line.number + rows.length from if_pos (by omega)]
      omega
    have fixed : state.relabel place (Payload.putBody number body ∘ Payload.renumber place) = state :=
      Reading.relabel_front reached (by simp [number]) (Nat.le_succ number)
    have run := isAt.run_block (shallow_numbered ends) (rfl : gap.text = []) isBlock deep texts kept fixed apart
    rw [moved] at run
    rw [Blueprint.read, full, Reading.run_front breaks, reached, Blueprint.read, plain,
      Reading.run_front breaks, reached]
    exact run
  · intro tree read
    obtain ⟨log, there⟩ := (full ▸ Reading.Reached.start).front breaks reached
    obtain ⟨taken, stepped, -, noted⟩ := isAt.step_block (shallow_numbered ends) (rfl : gap.text = []) isBlock
      deep texts
    exact there.payload_mem stepped noted read

/-- The body has an item, a fence, a heading and a tab, and a request comes behind it. -/
theorem Blueprint.read_body_verbatim_fence :
    let body := "+ Body\n\n\t\x7b\n~~~\n## Cup [/cup]".toList
    let before := ["# Tea [/tea]".toList, "## Pour [GET]".toList]
    let behind := [[], "  + Request Cold".toList]
    let rows := (body.splitOn '\n').map (indented 11)
    let place := inserted 4 5
    IsBlock body ∧ ∃ tree,
      Blueprint.read (Text.joinWith ['\n'] (before ++ "  + Response 404".toList :: [] :: behind)) = .ok tree ∧
      Blueprint.read (Text.joinWith ['\n'] (before ++ ("  + Response 404".toList :: [] :: rows ++ behind))) =
        .ok ((tree.renumber place).putBody 3 body) ∧
      { signature := .response 404, body := some body, line := 3 } ∈
        ((tree.renumber place).putBody 3 body).actions.flatMap Action.responses := by
  intro body before behind rows place
  let pouring : Reading :=
    { blueprint := { groups := [{ resources := [{
        name := some "Tea".toList
        uriTemplate := "/tea".toList
        actions := [{ name := some "Pour".toList, method := .get, line := 2 }]
        line := 1 }] }] }
      scope := .action
      inMetadata := false }
  have isBlock : IsBlock body := by decide +kernel
  have lines : ∀ text ∈ before ++ behind, Text.IsLine text := by decide
  have reached : ({} : Reading).after (numbered 1 (before.map Line.dropReturn)) = .ok pouring := by
    decide +kernel
  have ends : ∀ text ∈ behind.find? (fun text => !Text.isBlank text), Line.indentWidth text < 2 + 4 := by
    decide
  obtain ⟨same, inside⟩ := read_body_verbatim lines reached rfl rfl (by decide : 2 ≤ 3)
    (by decide : 100 ≤ 404) (by decide) ends isBlock 1
  have readable : (Blueprint.read
      (Text.joinWith ['\n'] (before ++ "  + Response 404".toList :: [] :: behind))).isOk = true := by
    decide +kernel
  cases plain : Blueprint.read (Text.joinWith ['\n'] (before ++ "  + Response 404".toList :: [] :: behind)) with
  | error error =>
    rw [plain] at readable
    cases readable
  | ok tree =>
    let item : Text := List.replicate 2 ' ' ++ "+ Response ".toList ++ Text.ofNat 404
    have spelled : Blueprint.read (Text.joinWith ['\n'] (before ++ item :: [] :: behind)) = .ok tree := plain
    rw [spelled] at same
    exact ⟨isBlock, tree, rfl, same, inside _ same⟩

/-- A blank line does not end the block: what is deep enough behind it belongs to the body too. -/
theorem Blueprint.read_body_past_blank_line :
    let body := "a\nb".toList
    let before := ["# Tea [/tea]".toList, "## Pour [GET]".toList]
    let behind := [[], "        c".toList]
    let rows := (body.splitOn '\n').map (indented 8)
    let source := Text.joinWith ['\n'] (before ++ ("+ Response 200".toList :: [] :: rows ++ behind))
    IsBlock body ∧ (∀ text ∈ behind.head?, Line.indentWidth text < 4) ∧
      ∃ tree, Blueprint.read source = .ok tree ∧
        (tree.actions.flatMap Action.responses).map Payload.body = [some "a\nb\n\nc".toList] ∧
        ¬ ∃ payload ∈ tree.actions.flatMap Action.responses, payload.body = some body := by
  intro body before behind rows source
  have bodies : (Blueprint.read source).map (fun tree =>
      (tree.actions.flatMap Action.responses).map Payload.body) = .ok [some "a\nb\n\nc".toList] := by
    decide +kernel
  obtain ⟨tree, read, there⟩ := map_eq_ok.mp bodies
  refine ⟨by decide +kernel, by decide, tree, read, there, ?_⟩
  rintro ⟨payload, inside, same⟩
  have member : some body ∈ (tree.actions.flatMap Action.responses).map Payload.body :=
    same ▸ List.mem_map_of_mem inside
  rw [there] at member
  exact absurd member (by decide)

end ApiBlueprint

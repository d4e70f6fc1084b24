import ApiBlueprint.Proofs.CommonMark.PlainText
import ApiBlueprint.Proofs.Grammar.Render
import ApiBlueprint.Proofs.Grammar.Starts

/-! Canonical headings declare what they were written for. -/

namespace ApiBlueprint

open CommonMark Render

theorem IsName.calm {name : Text} (isName : IsName name) : ∀ c ∈ name, isCalm c = true := by
  intro c member
  rcases isName.characters c member with letter | rfl
  · simp [isCalm, letter]
  · rfl

theorem IsName.bracketFree {name : Text} (isName : IsName name) : '[' ∉ name := fun member => by
  have calm := isName.calm '[' member
  simp [isCalm, Text.isAlphanumeric, Text.isLetter, Text.isUpper, Text.isDigit] at calm

theorem IsName.exists_cons {name : Text} (isName : IsName name) :
    ∃ c rest, name = c :: rest ∧ Text.isSpace c = false := by
  obtain ⟨c, rest, rfl⟩ := List.exists_cons_of_ne_nil isName.nonempty
  exact ⟨c, rest, rfl, isName.squeezed.trimmed.head_solid⟩

theorem IsUri.calm {uri : Text} (isUri : IsUri uri) : ∀ c ∈ uri, isCalm c = true := by
  intro c member
  rcases isUri.characters c member with letter | rfl | rfl | rfl
  · simp [isCalm, letter]
  · rfl
  · rfl
  · rfl

theorem IsUri.solid {uri : Text} (isUri : IsUri uri) : ∀ c ∈ uri, Text.isSpace c = false := by
  intro c member
  rcases isUri.characters c member with letter | rfl | rfl | rfl
  · exact alphanumeric_solid letter
  · decide
  · decide
  · decide

theorem upper_calm {c : Char} (upper : Text.isUpper c = true) : isCalm c = true := by
  simp [isCalm, Text.isAlphanumeric, Text.isLetter, upper]

theorem method_upper (method : Method) : ∀ c ∈ method.name, Text.isUpper c = true := by
  cases method <;> decide

theorem method_solid (method : Method) : ∀ c ∈ method.name, Text.isSpace c = false := by
  cases method <;> decide

theorem Action.IsCanonical.calm {action : Action} (canonical : action.IsCanonical) :
    ∀ c ∈ action.method.name ++ spaced action.uriTemplate, isCalm c = true := by
  intro c member
  rcases List.mem_append.mp member with word | behind
  · exact upper_calm (method_upper action.method c word)
  · cases uri : action.uriTemplate with
    | none => simp [uri, spaced] at behind
    | some text =>
      simp only [uri, spaced, Option.elim_some, List.mem_cons] at behind
      rcases behind with rfl | inside
      · rfl
      · exact (canonical.uri text uri).calm c inside

theorem trimEnd_last {c : Char} {text : Text} (last : text.getLast? = some c)
    (other : c ≠ '#') : Text.dropEndWhile (· = '#') text = text := by
  obtain ⟨front, rfl⟩ := List.getLast?_eq_some_iff.mp last
  exact List.rdropWhile_concat_neg _ front c (by simpa using other)

theorem marked_heading {depth number : Nat} {text : Text} {c : Char} (marked : 1 ≤ depth)
    (shallow : depth ≤ 6) (trimmed : Text.IsTrimmed text) (last : text.getLast? = some c)
    (unclosed : c ≠ '#') :
    Heading.marked? ⟨heading depth text, number⟩ = some ⟨depth, text, plainText text, 0⟩ := by
  have signs : ∀ d ∈ List.replicate depth '#', (d = '#' : Bool) = true := by
    intro d member
    simpa using List.eq_of_mem_replicate member
  have start : Text.trimStart (heading depth text) = heading depth text := by
    obtain ⟨less, rfl⟩ := Nat.exists_eq_succ_of_ne_zero (Nat.ne_of_gt marked)
    rfl
  have flush : Line.indent ⟨heading depth text, number⟩ = 0 := by
    obtain ⟨less, rfl⟩ := Nat.exists_eq_succ_of_ne_zero (Nat.ne_of_gt marked)
    rfl
  have counted : ((heading depth text).takeWhile (· = '#')).length = depth := by
    rw [heading, List.takeWhile_append_of_pos signs]
    simp
  have content : (heading depth text).dropWhile (· = '#') = ' ' :: text := by
    rw [heading, List.dropWhile_append_of_pos signs]
    rfl
  have raw : Text.trim (' ' :: text) = text := by
    have padded := @Text.trim_pad [' '] text [] (by decide) (by simp)
    rw [List.append_nil, trimmed] at padded
    exact padded
  have kept : Heading.dropClosing text = text := by
    simp [Heading.dropClosing, trimEnd_last last unclosed]
  simp only [Heading.marked?, start, flush, counted, content, raw, kept]
  simp [marked, shallow, Text.isSpace]

structure IsHeadingText (text : Text) : Prop where
  nonempty : text ≠ []
  trimmed : Text.IsTrimmed text
  line : Text.IsLine text
  unclosed : '#' ∉ text
  plain : plainText text = text

theorem isHeadingText_bracketed {front : Text} {inner : Option Text}
    (calm : ∀ c ∈ front, isCalm c = true) (calmInner : ∀ text ∈ inner, ∀ c ∈ text, isCalm c = true)
    (squeezed : Text.IsSqueezed (bracketed front inner)) (nonempty : bracketed front inner ≠ []) :
    IsHeadingText (bracketed front inner) := by
  have other {c : Char} (loud : isCalm c = false) (noBracket : c ≠ '[' ∧ c ≠ ']') :
      c ∉ bracketed front inner := by
    intro member
    rcases mem_bracketed calm calmInner member with quiet | opening | closing
    · exact calm_ne quiet loud rfl
    · exact noBracket.1 opening
    · exact noBracket.2 closing
  exact {
    nonempty
    trimmed := squeezed.trimmed
    line := other (by decide) (by decide)
    unclosed := other (by decide) (by decide)
    plain := plainText_bracketed calm calmInner squeezed nonempty }

theorem IsName.isHeadingText {name : Text} (isName : IsName name) : IsHeadingText name := by
  have same : bracketed name none = name := by simp [bracketed]
  have heading := @isHeadingText_bracketed name none isName.calm (by simp)
  rw [same] at heading
  exact heading isName.squeezed isName.nonempty

theorem IsName.group_isHeadingText {name : Text} (isName : IsName name) :
    IsHeadingText ("Group ".toList ++ name) := by
  have same : bracketed ("Group ".toList ++ name) none = "Group ".toList ++ name := by simp [bracketed]
  have calm : ∀ c ∈ "Group ".toList ++ name, isCalm c = true := by
    intro c member
    rcases List.mem_append.mp member with word | inside
    · exact (by decide : ∀ c ∈ "Group ".toList, isCalm c = true) c word
    · exact isName.calm c inside
  have word : Text.IsSqueezed "Group".toList := by decide
  have squeezed : Text.IsSqueezed ("Group ".toList ++ name) :=
    word.append isName.squeezed (by decide) isName.nonempty
  have heading := @isHeadingText_bracketed ("Group ".toList ++ name) none calm (by simp)
  rw [same] at heading
  exact heading squeezed (by simp)

theorem titled_isHeadingText {name : Option Text} {inner : Text}
    (canonical : ∀ text ∈ name, IsName text) (calm : ∀ c ∈ inner, isCalm c = true)
    (squeezed : Text.IsSqueezed (brackets inner)) :
    IsHeadingText (titled name (brackets inner)) := by
  cases name with
  | none =>
    exact @isHeadingText_bracketed [] (some inner) (by simp) (by simpa using calm)
      squeezed (by simp [bracketed])
  | some name =>
    have isName := canonical name rfl
    have same : bracketed (name ++ [' ']) (some inner) = titled (some name) (brackets inner) := by
      simp [bracketed, titled, brackets]
    have front : ∀ c ∈ name ++ [' '], isCalm c = true := by
      intro c member
      rcases List.mem_append.mp member with inside | space
      · exact isName.calm c inside
      · rw [List.mem_singleton.mp space]
        rfl
    have whole : Text.IsSqueezed (titled (some name) (brackets inner)) :=
      isName.squeezed.append squeezed isName.nonempty (by simp [brackets])
    rw [← same] at whole ⊢
    exact isHeadingText_bracketed front (by simpa using calm) whole (by simp [bracketed])

theorem squeezed_brackets {inner : Text} (solid : ∀ c ∈ inner, Text.isSpace c = false) :
    Text.IsSqueezed (brackets inner) := by
  refine Text.isSqueezed_solid (by simp [brackets]) fun c member => ?_
  simp only [brackets, List.mem_cons, List.mem_append, List.not_mem_nil, or_false] at member
  rcases member with rfl | inside | rfl
  · decide
  · exact solid c inside
  · decide

theorem Resource.IsCanonical.isHeadingText {resource : Resource} (canonical : resource.IsCanonical) :
    IsHeadingText resource.declared :=
  titled_isHeadingText canonical.name canonical.uri.calm (squeezed_brackets canonical.uri.solid)

theorem Action.IsCanonical.isHeadingText {action : Action} (canonical : action.IsCanonical) :
    IsHeadingText action.declared := by
  refine titled_isHeadingText canonical.name canonical.calm ?_
  cases uri : action.uriTemplate with
  | none =>
    simp only [spaced, Option.elim_none, List.append_nil]
    exact squeezed_brackets (method_solid action.method)
  | some text =>
    have isUri := canonical.uri text uri
    have word : Text.IsSqueezed ('[' :: action.method.name) := by
      refine Text.isSqueezed_solid (by simp) fun c member => ?_
      rcases List.mem_cons.mp member with rfl | inside
      · decide
      · exact method_solid action.method c inside
    have behind : Text.IsSqueezed (text ++ [']']) := by
      refine Text.isSqueezed_solid (by simp) fun c member => ?_
      rcases List.mem_append.mp member with inside | closing
      · exact isUri.solid c inside
      · rw [List.mem_singleton.mp closing]
        decide
    have whole := word.append behind (by simp) (by simp)
    simpa [brackets, spaced] using whole

theorem detect_heading {depth number : Nat} {text : Text} {next : Option Line} (marked : 1 ≤ depth)
    (shallow : depth ≤ 6) (isHeadingText : IsHeadingText text) :
    Heading.detect? ⟨heading depth text, number⟩ next = some ⟨depth, text, text, 0⟩ := by
  obtain ⟨front, c, rfl⟩ := (List.eq_nil_or_concat' text).resolve_left isHeadingText.nonempty
  have other : c ≠ '#' := by
    rintro rfl
    exact isHeadingText.unclosed (by simp)
  rw [Heading.detect?, marked_heading marked shallow isHeadingText.trimmed (by simp) other,
    isHeadingText.plain]
  rfl

namespace Declaration

section Named

variable {α : Type} {read : Text → Option α} {inner : Text}

theorem bracketed_brackets (inner : Text) : bracketed? (brackets inner) = some inner := by
  simp [brackets, bracketed?]

theorem bracketed_none {text : Text} (free : '[' ∉ text) : bracketed? text = none := by
  unfold bracketed?
  split
  · simp at free
  · rfl

theorem mem_trimStart {c : Char} {text : Text} (member : c ∈ Text.trimStart text) : c ∈ text :=
  (List.dropWhile_suffix Text.isSpace).subset member

theorem bracketed_behind {name behind : Text} (some : ∃ c ∈ name, Text.isSpace c = false)
    (free : '[' ∉ name) : bracketed? (Text.trimStart (name ++ behind)) = none := by
  obtain ⟨c, member, solid⟩ := some
  unfold Text.trimStart
  rw [List.dropWhile_append]
  split
  · rename_i empty
    have blank := List.dropWhile_eq_nil_iff.mp (List.isEmpty_iff.mp empty) c member
    simp [solid] at blank
  · rename_i nonempty
    rw [List.isEmpty_iff] at nonempty
    obtain ⟨d, rest, equal⟩ := List.exists_cons_of_ne_nil nonempty
    have inside : d ∈ name := (List.dropWhile_suffix Text.isSpace).subset (by simp [equal])
    rw [equal, List.cons_append]
    unfold bracketed?
    split
    · rename_i same
      exact absurd ((List.cons.inj same).1 ▸ inside) free
    · rfl

theorem afterName_none (free : '[' ∉ inner) :
    afterName (fun rest => bracketed? rest >>= read) inner = none := by
  induction inner with
  | nil => rfl
  | cons c rest ih =>
    have behind : '[' ∉ rest := fun member => free (List.mem_cons_of_mem c member)
    have here : bracketed? (Text.trimStart rest) = none :=
      bracketed_none fun member => behind (mem_trimStart member)
    simp only [afterName, ih behind, here]
    split <;> rfl

theorem afterName_bare (free : '[' ∉ inner) :
    afterName (fun rest => bracketed? rest >>= read) (brackets inner) = none := by
  have closed : '[' ∉ inner ++ [']'] := by simp [free]
  rw [brackets, afterName, afterName_none closed]
  rfl

/-- The name ends before the brackets: what stands behind an earlier space begins with no bracket. -/
theorem afterName_brackets {name : Text} (ended : Text.trimEnd name = name) (freeName : '[' ∉ name)
    (free : '[' ∉ inner) :
    afterName (fun rest => bracketed? rest >>= read) (name ++ ' ' :: brackets inner) =
      (read inner).map fun value => (name, value) := by
  induction name with
  | nil =>
    have later : afterName (fun rest => bracketed? rest >>= read) (brackets inner) = none :=
      afterName_bare free
    have here : Text.trimStart (brackets inner) = brackets inner := Text.trimStart_cons (by decide)
    simp only [List.nil_append, afterName, later, here, bracketed_brackets]
    cases found : read inner <;> simp [found, Text.isSpace]
  | cons c name ih =>
    have freeTail : '[' ∉ name := fun member => freeName (List.mem_cons_of_mem c member)
    have endedTail : Text.trimEnd name = name := by
      cases name using List.reverseRecOn with
      | nil => rfl
      | append_singleton front d =>
        rw [← List.cons_append] at ended
        exact Text.trimEnd_concat (Text.solid_of_trimEnd ended)
    rw [List.cons_append, afterName, ih endedTail freeTail]
    split
    · rename_i space
      have some : ∃ d ∈ name, Text.isSpace d = false := by
        cases name using List.reverseRecOn with
        | nil =>
          have solid : Text.isSpace c = false := @Text.solid_of_trimEnd c [] ended
          simp [space] at solid
        | append_singleton front d => exact ⟨d, by simp, Text.solid_of_trimEnd endedTail⟩
      rw [bracketed_behind some freeTail]
      cases read inner <;> rfl
    · cases read inner <;> rfl

theorem named_titled {name : Option Text} (canonical : ∀ text ∈ name, IsName text)
    (free : '[' ∉ inner) :
    named (fun rest => bracketed? rest >>= read) (titled name (brackets inner)) =
      (read inner).map fun value => (name, value) := by
  cases name with
  | none =>
    simp only [titled, Option.elim_none, named, afterName_bare free, bracketed_brackets]
    rfl
  | some name =>
    have isName := canonical name rfl
    have ended := (Text.isTrimmed_iff.mp isName.squeezed.trimmed).2
    simp only [titled, Option.elim_some, named, afterName_brackets ended isName.bracketFree free]
    cases read inner with
    | some value => rfl
    | none =>
      obtain ⟨c, rest, rfl, solid⟩ := isName.exists_cons
      have here : bracketed? (c :: (rest ++ ' ' :: brackets inner)) = none := by
        rw [← Text.trimStart_cons solid]
        exact bracketed_behind ⟨c, List.mem_cons_self, solid⟩ isName.bracketFree
      simp [here]

theorem named_none {text : Text} (free : '[' ∉ text) :
    named (fun rest => bracketed? rest >>= read) text = none := by
  rw [named, afterName_none free, bracketed_none free]
  rfl

end Named

theorem uri_self {uri : Text} (isUri : IsUri uri) : uri? uri = some uri := by
  obtain ⟨rest, rfl⟩ := List.head?_eq_some_iff.mp isUri.rooted
  have solid : rest.any Text.isSpace = false := by
    rw [List.any_eq_false]
    intro c member
    simp [isUri.solid c (List.mem_cons_of_mem _ member)]
  simp [uri?, solid]

theorem capitals_uri {uri : Text} (isUri : IsUri uri) : capitals? uri = none := by
  obtain ⟨rest, rfl⟩ := List.head?_eq_some_iff.mp isUri.rooted
  rfl

theorem capitals_method (method : Method) {uri : Option Text} (canonical : ∀ text ∈ uri, IsUri text) :
    capitals? (method.name ++ spaced uri) = some (method.name, uri) := by
  have word : (method.name ++ spaced uri).takeWhile Text.isUpper = method.name := by
    rw [List.takeWhile_append_of_pos (method_upper method)]
    cases uri <;> simp [spaced, Text.isUpper]
  have rest : (method.name ++ spaced uri).dropWhile Text.isUpper = spaced uri := by
    rw [List.dropWhile_append_of_pos (method_upper method)]
    cases uri <;> simp [spaced, Text.isUpper]
  have named : method.name.isEmpty = false := by cases method <;> rfl
  simp only [capitals?, word, rest, named]
  cases uri with
  | none => rfl
  | some uri =>
    have isUri := canonical uri rfl
    have start : Text.trimStart (' ' :: uri) = uri := by
      obtain ⟨rest, rfl⟩ := List.head?_eq_some_iff.mp isUri.rooted
      rfl
    simp [spaced, start, uri_self isUri, Text.isSpace]

theorem afterStart_append (start rest : Text) : Text.afterStart start (start ++ rest) = some rest := by
  induction start with
  | nil => rfl
  | cons c start ih => simp [Text.afterStart, ih]

theorem afterStart_eq {start text rest : Text} (found : Text.afterStart start text = some rest) :
    text = start ++ rest := by
  induction start generalizing text with
  | nil => exact Option.some.inj found
  | cons c start ih =>
    cases text with
    | nil => simp [Text.afterStart] at found
    | cons d text =>
      simp only [Text.afterStart] at found
      split at found
      · rename_i same
        rw [ih found, same]
        rfl
      · simp at found

theorem group_none {text : Text} (ungrouped : (Text.words text).head? ≠ some "Group".toList) :
    group? text = none := by
  unfold group?
  cases found : Text.afterStart "Group ".toList text with
  | none => rfl
  | some rest =>
    have equal : text = "Group ".toList ++ rest := afterStart_eq found
    change text = "Group".toList ++ ' ' :: rest at equal
    rw [equal, Text.words_append (by decide)] at ungrouped
    exact absurd rfl ungrouped

theorem group_titled {name : Option Text} (inner : Text) (canonical : ∀ text ∈ name, IsName text) :
    group? (titled name (brackets inner)) = none := by
  cases name with
  | none => rfl
  | some name =>
    have isName := canonical name rfl
    apply group_none
    have words := isName.squeezed.words_ne_nil isName.nonempty
    rw [titled, Option.elim_some, Text.words_append (by decide), List.head?_append_of_ne_nil _ words]
    exact isName.ungrouped

theorem ofHeading_group {name : Text} (isName : IsName name) :
    ofHeading ("Group ".toList ++ name) = .group name := by
  have trimmed : Text.trim name = name := isName.squeezed.trimmed
  simp only [ofHeading, group?, afterStart_append, Option.map_some, trimmed]
  rfl

theorem bracketFree_of_calm {text : Text} (calm : ∀ c ∈ text, isCalm c = true) : '[' ∉ text :=
  fun member => calm_ne (calm '[' member) (by decide) rfl

theorem ofHeading_action {action : Action} (canonical : action.IsCanonical) :
    ofHeading action.declared = .action action.name action.method action.uriTemplate := by
  have free := bracketFree_of_calm canonical.calm
  have declares : action? action.declared =
      some (.action action.name action.method action.uriTemplate) := by
    rw [action?, Action.declared, named_titled canonical.name free,
      capitals_method action.method canonical.uri]
    simp [Method.of_name_name]
  have noGroup : group? action.declared = none := group_titled _ canonical.name
  rw [ofHeading, noGroup, declares]
  rfl

theorem ofHeading_resource {resource : Resource} (canonical : resource.IsCanonical) :
    ofHeading resource.declared = .resource resource.name resource.uriTemplate := by
  have free := bracketFree_of_calm canonical.uri.calm
  have noAction : action? resource.declared = none := by
    rw [action?, Resource.declared, named_titled canonical.name free, capitals_uri canonical.uri]
    rfl
  have noBracket : ']' ∉ resource.uriTemplate := fun member =>
    calm_ne (canonical.uri.calm ']' member) (by decide) rfl
  have declares : resource? resource.declared =
      some (.resource resource.name resource.uriTemplate) := by
    rw [resource?, Resource.declared, named_titled canonical.name free, uri_self canonical.uri]
    simp [noBracket]
  have noGroup : group? resource.declared = none := group_titled _ canonical.name
  rw [ofHeading, noGroup, noAction, declares]
  rfl

theorem endpoint_none {text : Text} (free : '/' ∉ text) : endpoint? text = none := by
  have noUri (rest : Text) (part : ∀ c ∈ rest, c ∈ text) : uri? (Text.trimStart rest) = none := by
    unfold uri?
    split
    · rename_i equal
      have member : '/' ∈ Text.trimStart rest := by simp [equal]
      exact absurd (part _ (mem_trimStart member)) free
    · rfl
  have behind := noUri (text.dropWhile Text.isUpper) fun c member =>
    (List.dropWhile_suffix Text.isUpper).subset member
  unfold endpoint? capitals?
  simp only [behind]
  split
  · rfl
  · split
    · simp
    · simp

theorem ofHeading_name {name : Text} (isName : IsName name) : ofHeading name = .plain := by
  have noAction : action? name = none := by
    rw [action?, named_none isName.bracketFree]
    rfl
  have noResource : resource? name = none := by
    rw [resource?, named_none isName.bracketFree]
    rfl
  have noSlash : '/' ∉ name := fun member => by
    rcases isName.characters '/' member with letter | space
    · simp [Text.isAlphanumeric, Text.isLetter, Text.isUpper, Text.isDigit] at letter
    · simp at space
  simp only [ofHeading, group_none isName.ungrouped, noAction, noResource, endpoint_none noSlash]
  rfl

end Declaration

end ApiBlueprint

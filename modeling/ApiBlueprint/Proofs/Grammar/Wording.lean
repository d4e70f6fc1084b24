import ApiBlueprint.Proofs.Grammar.Declared
import ApiBlueprint.Proofs.Grammar.Step
import Mathlib.Data.Option.Basic

/-!
The words of headings and payload items: whatever stands in them, the names, URIs, statuses and media
types that are read have their form.
-/

namespace ApiBlueprint

structure IsPhrase (text : Text) : Prop where
  nonempty : text ≠ []
  trimmed : Text.IsTrimmed text

structure IsTarget (uri : Text) : Prop where
  rooted : uri.head? = some '/'
  solid : ∀ c ∈ uri, Text.isSpace c = false

namespace Text

theorem isTrimmed_trim (text : Text) : IsTrimmed (trim text) := by
  cases start : trimStart text with
  | nil =>
    have nothing : trim text = [] := congrArg trimEnd start
    rw [nothing]
    rfl
  | cons c rest =>
    have solid := solid_of_trimStart start
    obtain ⟨inner, trimmed⟩ := exists_trim_of_trimStart start
    apply isTrimmed_iff.mpr
    constructor
    · rw [trimmed]
      exact trimStart_cons solid
    · exact List.rdropWhile_idempotent isSpace (trimStart text)

theorem isPhrase_trim {text : Text} (solid : ∃ c ∈ text, isSpace c = false) : IsPhrase (trim text) := by
  obtain ⟨c, member, notSpace⟩ := solid
  exact ⟨List.ne_nil_of_mem (mem_trim member notSpace), isTrimmed_trim text⟩

theorem nonEmpty_isPhrase {text phrase : Text} (found : nonEmpty text = some phrase) :
    IsPhrase phrase := by
  unfold nonEmpty at found
  split at found
  · cases found
  · rename_i nonempty
    obtain rfl := Option.some.inj found
    exact ⟨nonempty, isTrimmed_trim text⟩

end Text

theorem Heading.detect_trimmed {line : Line} {next : Option Line} {heading : Heading}
    (found : detect? line next = some heading) : Text.IsTrimmed heading.text := by
  rcases (Option.orElse_eq_some _ _ _).mp found with marked | ⟨-, underlined⟩
  · simp only [marked?] at marked
    split at marked
    · obtain rfl := Option.some.inj marked
      exact Text.isTrimmed_squeeze _
    · cases marked
  · simp only [underlined?] at underlined
    split at underlined
    · cases underlined
    · split at underlined
      · cases underlined
      · obtain ⟨below, -, underlined⟩ := Option.bind_eq_some_iff.mp underlined
        obtain ⟨depth, -, made⟩ := Option.bind_eq_some_iff.mp underlined
        obtain rfl := Option.some.inj made
        exact Text.isTrimmed_squeeze _

namespace Declaration

/-- Names of groups have words, and URIs begin with a slash and have no white space. -/
def IsWellFormed : Declaration → Prop
  | group name => IsPhrase name
  | action _ _ uriTemplate => ∀ uri ∈ uriTemplate, IsTarget uri
  | resource _ uriTemplate => IsTarget uriTemplate
  | endpoint _ uriTemplate => IsTarget uriTemplate
  | plain => True

variable {text : Text} {declaration : Declaration}

theorem isTarget_uri {uri : Text} (found : uri? text = some uri) : IsTarget uri := by
  unfold uri? at found
  split at found
  · split at found
    · cases found
    · rename_i rest solid
      obtain rfl := Option.some.inj found
      rw [Bool.not_eq_true, List.any_eq_false] at solid
      refine ⟨rfl, List.forall_mem_cons.mpr ⟨by decide, ?_⟩⟩
      intro c member
      exact Bool.not_eq_true _ ▸ solid c member
  · cases found

theorem isTarget_capitals {word : Text} {uri : Option Text} (found : capitals? text = some (word, uri)) :
    ∀ target ∈ uri, IsTarget target := by
  unfold capitals? at found
  simp only at found
  split at found
  · cases found
  · split at found
    · obtain ⟨-, rfl⟩ := Prod.mk.inj (Option.some.inj found)
      exact fun target none => nomatch none
    · split at found
      · obtain ⟨target, read, same⟩ := Option.map_eq_some_iff.mp found
        obtain ⟨-, rfl⟩ := Prod.mk.inj same
        intro other member
        obtain rfl := Option.some.inj member
        exact isTarget_uri read
      · cases found

/-- By induction on the text, along the places where a name may end. -/
theorem exists_of_afterName {α : Type} {read : Text → Option α} {name : Text} {value : α}
    (found : afterName read text = some (name, value)) : ∃ rest, read rest = some value := by
  induction text generalizing name with
  | nil => cases found
  | cons c rest ih =>
    have longer (found : (afterName read rest).map (fun shorter => (c :: shorter.1, shorter.2)) =
        some (name, value)) : ∃ rest, read rest = some value := by
      obtain ⟨⟨shorter, value⟩, behind, same⟩ := Option.map_eq_some_iff.mp found
      obtain ⟨-, rfl⟩ := Prod.mk.inj same
      exact ih behind
    simp only [afterName] at found
    split at found
    · split at found
      · rename_i other here
        obtain ⟨-, rfl⟩ := Prod.mk.inj (Option.some.inj found)
        exact ⟨_, here⟩
      · exact longer found
    · exact longer found

theorem exists_of_named {α : Type} {read : Text → Option α} {name : Option Text} {value : α}
    (found : named read text = some (name, value)) : ∃ rest, read rest = some value := by
  unfold named at found
  split at found
  · rename_i before other behind
    obtain ⟨-, rfl⟩ := Prod.mk.inj (Option.some.inj found)
    exact exists_of_afterName behind
  · obtain ⟨other, read, same⟩ := Option.map_eq_some_iff.mp found
    obtain ⟨-, rfl⟩ := Prod.mk.inj same
    exact ⟨text, read⟩

theorem group_isWellFormed (trimmed : Text.IsTrimmed text) (found : group? text = some declaration) :
    declaration.IsWellFormed := by
  obtain ⟨rest, behind, rfl⟩ := Option.map_eq_some_iff.mp found
  rw [afterStart_eq behind] at trimmed
  -- No white space ends the text, so something stands behind the one at the end of the keyword.
  apply Text.isPhrase_trim
  rcases List.eq_nil_or_concat' rest with rfl | ⟨front, last, rfl⟩
  · have space := @Text.IsTrimmed.last_solid ' ' "Group".toList trimmed
    cases space
  · refine ⟨last, List.mem_append_right front (List.mem_singleton_self last), ?_⟩
    rw [← List.append_assoc] at trimmed
    exact trimmed.last_solid

theorem action_isWellFormed (found : action? text = some declaration) : declaration.IsWellFormed := by
  obtain ⟨⟨name, word, uri⟩, read, made⟩ := Option.bind_eq_some_iff.mp found
  obtain ⟨method, -, same⟩ := Option.bind_eq_some_iff.mp made
  obtain rfl := Option.some.inj same
  obtain ⟨rest, inside⟩ := exists_of_named read
  obtain ⟨inner, -, capitals⟩ := Option.bind_eq_some_iff.mp inside
  exact isTarget_capitals capitals

theorem resource_isWellFormed (found : resource? text = some declaration) :
    declaration.IsWellFormed := by
  obtain ⟨⟨name, uri⟩, read, made⟩ := Option.bind_eq_some_iff.mp found
  simp only at made
  split at made
  · cases made
  · obtain rfl := Option.some.inj made
    obtain ⟨rest, inside⟩ := exists_of_named read
    obtain ⟨inner, -, target⟩ := Option.bind_eq_some_iff.mp inside
    exact isTarget_uri target

theorem endpoint_isWellFormed (found : endpoint? text = some declaration) :
    declaration.IsWellFormed := by
  obtain ⟨⟨word, uri⟩, read, made⟩ := Option.bind_eq_some_iff.mp found
  obtain ⟨method, -, made⟩ := Option.bind_eq_some_iff.mp made
  obtain ⟨target, some, same⟩ := Option.bind_eq_some_iff.mp made
  obtain rfl := Option.some.inj same
  exact isTarget_capitals read target some

theorem ofHeading_isWellFormed (trimmed : Text.IsTrimmed text) : (ofHeading text).IsWellFormed := by
  unfold ofHeading
  cases found : group? text <|> action? text <|> resource? text <|> endpoint? text with
  | none => exact trivial
  | some declaration =>
    rcases (Option.orElse_eq_some _ _ _).mp found with group | ⟨-, found⟩
    · exact group_isWellFormed trimmed group
    · rcases (Option.orElse_eq_some _ _ _).mp found with action | ⟨-, found⟩
      · exact action_isWellFormed action
      · rcases (Option.orElse_eq_some _ _ _).mp found with resource | ⟨-, endpoint⟩
        · exact resource_isWellFormed resource
        · exact endpoint_isWellFormed endpoint

end Declaration

def Signature.IsWellFormed : Signature → Prop
  | request name => ∀ text ∈ name, IsPhrase text
  | response status => 100 ≤ status ∧ status ≤ 599

namespace PayloadItem

variable {rest : Text} {item : PayloadItem}

theorem isPhrase_media {media : Option Text} :
    ∀ text ∈ media >>= Text.nonEmpty, IsPhrase text := by
  intro text member
  obtain ⟨raw, -, found⟩ := Option.bind_eq_some_iff.mp member
  exact Text.nonEmpty_isPhrase found

theorem range_of_status {token : Text} {status : Nat} (found : status? token = some status) :
    100 ≤ status ∧ status ≤ 599 := by
  simp only [status?] at found
  split at found
  · rename_i conditions
    obtain rfl := Option.some.inj found
    simp only [Bool.and_eq_true, decide_eq_true_eq] at conditions
    exact ⟨conditions.1.2, conditions.2⟩
  · cases found

theorem media_of_response {token : Text} {media : Option Text}
    (found : response? rest = some (token, media)) : ∀ text ∈ media, IsPhrase text := by
  obtain ⟨⟨before, raw⟩, -, found⟩ := Option.bind_eq_some_iff.mp found
  simp only at found
  split at found
  · cases found
  · obtain ⟨-, rfl⟩ := Prod.mk.inj (Option.some.inj found)
    exact isPhrase_media

theorem ofRest_isWellFormed {kind : PayloadKind} (read : ofRest kind rest = .ok item) :
    item.signature.IsWellFormed ∧ ∀ media ∈ item.mediaType, IsPhrase media := by
  cases kind with
  | request =>
    simp only [ofRest] at read
    split at read
    · rename_i found
      obtain rfl := Except.ok.inj read
      obtain ⟨⟨before, raw⟩, -, same⟩ := Option.bind_eq_some_iff.mp found
      obtain rfl := Option.some.inj same
      exact ⟨fun name named => Text.nonEmpty_isPhrase named, isPhrase_media⟩
    · cases read
  | response =>
    simp only [ofRest] at read
    split at read
    · cases read
    · rename_i media found
      obtain rfl := Except.ok.inj read
      exact ⟨⟨by decide, by decide⟩, media_of_response found⟩
    · rename_i token media found
      split at read
      · rename_i status digits
        obtain rfl := Except.ok.inj read
        exact ⟨range_of_status digits, media_of_response found⟩
      · cases read

end PayloadItem
end ApiBlueprint

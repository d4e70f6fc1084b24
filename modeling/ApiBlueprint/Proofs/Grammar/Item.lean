import ApiBlueprint.Proofs.Grammar.Declared
import ApiBlueprint.Proofs.Text.Split

/-! The line that opens a payload, read back: its kind, its name or status, and its media type. -/

namespace ApiBlueprint

open Render

namespace PayloadItem

theorem parenthesis_spaced {subject : Text} {media : Option Text} (free : '(' ∉ subject)
    (canonical : ∀ text ∈ media, IsMediaType text) :
    ∃ blank, (∀ c ∈ blank, Text.isSpace c = true) ∧
      parenthesis? (subject ++ spaced (media.map parentheses)) = some (subject ++ blank, media) := by
  cases media with
  | none =>
    refine ⟨[], by simp, ?_⟩
    have noBracket : Text.splitFirst (· = '(') subject = none :=
      Text.splitFirst_none fun c member => by
        have other : c ≠ '(' := fun same => free (same ▸ member)
        simp [other]
    simp [spaced, parenthesis?, noBracket]
  | some media =>
    have bare := (canonical media rfl).bare
    refine ⟨[' '], by decide, ?_⟩
    have opened : Text.splitFirst (· = '(') (subject ++ [' '] ++ '(' :: (media ++ [')'])) =
        some (subject ++ [' '], media ++ [')']) := by
      refine Text.splitFirst_append (fun c member => ?_) (by decide)
      rcases List.mem_append.mp member with inside | space
      · have other : c ≠ '(' := fun same => free (same ▸ inside)
        simp [other]
      · rw [List.mem_singleton.mp space]
        decide
    have closed : Text.splitFirst (· = ')') (media ++ [')']) = some (media, []) := by
      refine Text.splitFirst_append (fun c member => ?_) (by decide)
      have other : c ≠ ')' := fun same => bare.2 (same ▸ member)
      simp [other]
    have text : subject ++ spaced ((some media).map parentheses) =
        subject ++ [' '] ++ '(' :: (media ++ [')']) := by
      simp [spaced, parentheses]
    rw [text, parenthesis?, opened]
    simp only [closed]
    rfl

theorem nonEmpty_media {media : Option Text} (canonical : ∀ text ∈ media, IsMediaType text) :
    media >>= Text.nonEmpty = media := by
  cases media with
  | none => rfl
  | some media =>
    have isMediaType := canonical media rfl
    have kept := @Text.nonEmpty_pad [] media [] (by simp) (by simp) isMediaType.trimmed
      isMediaType.nonempty
    simpa using kept

theorem nonEmpty_spaced {name : Option Text} {blank : Text} (canonical : ∀ text ∈ name, IsName text)
    (white : ∀ c ∈ blank, Text.isSpace c = true) : Text.nonEmpty (spaced name ++ blank) = name := by
  cases name with
  | none =>
    have nothing : Text.trim blank = [] := by
      have padded := @Text.trim_pad [] [] blank (by simp) white
      exact padded
    simp [spaced, Text.nonEmpty, nothing]
  | some name =>
    have isName := canonical name rfl
    exact @Text.nonEmpty_pad [' '] name blank (by decide) white isName.squeezed.trimmed isName.nonempty

theorem request_spaced {name media : Option Text} (canonical : ∀ text ∈ name, IsName text)
    (isMedia : ∀ text ∈ media, IsMediaType text) :
    request? (spaced name ++ spaced (media.map parentheses)) = some ⟨.request name, media⟩ := by
  have free : '(' ∉ spaced name := by
    cases name with
    | none => simp [spaced]
    | some name =>
      have quiet := (canonical name rfl).calm
      simp only [spaced, Option.elim_some, List.mem_cons, not_or]
      exact ⟨by decide, fun member => CommonMark.calm_ne (quiet '(' member) (by decide) rfl⟩
  obtain ⟨blank, white, split⟩ := parenthesis_spaced free isMedia
  rw [request?, split]
  simp only [Option.bind_eq_bind, Option.bind_some, nonEmpty_spaced canonical white]
  exact congrArg (fun media => some (PayloadItem.mk (.request name) media)) (nonEmpty_media isMedia)

theorem status_digits {status : Nat} (least : 100 ≤ status) (most : status ≤ 599) :
    status? (Text.ofNat status) = some status ∧ (Text.ofNat status).all Text.isDigit = true ∧
      Text.ofNat status ≠ [] := by
  have all : ∀ n < 600, 100 ≤ n → status? (Text.ofNat n) = some n ∧
      (Text.ofNat n).all Text.isDigit = true ∧ Text.ofNat n ≠ [] := by
    decide +kernel
  exact all status (by omega) least

theorem digit_calm {c : Char} (digit : Text.isDigit c = true) : CommonMark.isCalm c = true := by
  simp [CommonMark.isCalm, Text.isAlphanumeric, digit]

theorem response_spaced {status : Nat} {media : Option Text} (least : 100 ≤ status)
    (most : status ≤ 599) (isMedia : ∀ text ∈ media, IsMediaType text) :
    response? (spaced (some (Text.ofNat status)) ++ spaced (media.map parentheses)) =
      some (Text.ofNat status, media) := by
  obtain ⟨-, digits, nonempty⟩ := status_digits least most
  rw [List.all_eq_true] at digits
  have solid : ∀ c ∈ Text.ofNat status, Text.isSpace c = false := fun c member =>
    alphanumeric_solid (by simp [Text.isAlphanumeric, digits c member])
  have free : '(' ∉ spaced (some (Text.ofNat status)) := by
    simp only [spaced, Option.elim_some, List.mem_cons, not_or]
    exact ⟨by decide, fun member => CommonMark.calm_ne (digit_calm (digits '(' member)) (by decide) rfl⟩
  obtain ⟨blank, white, split⟩ := parenthesis_spaced free isMedia
  have token : Text.trim (spaced (some (Text.ofNat status)) ++ blank) = Text.ofNat status := by
    have padded := @Text.trim_pad [' '] (Text.ofNat status) blank (by decide) white
    have trimmed : Text.IsTrimmed (Text.ofNat status) := (Text.isSqueezed_solid nonempty solid).trimmed
    rw [trimmed] at padded
    exact padded
  have oneWord : (Text.ofNat status).any Text.isSpace = false := by
    rw [List.any_eq_false]
    intro c member
    simp [solid c member]
  rw [response?, split]
  simp only [Option.bind_eq_bind, Option.bind_some, token, oneWord]
  exact congrArg (fun media => some (Text.ofNat status, media)) (nonEmpty_media isMedia)

theorem ofRest_item {payload : Payload} (canonical : payload.IsCanonical) :
    ofRest payload.signature.payloadKind
        (spaced payload.signature.subject ++ spaced (payload.mediaType.map parentheses)) =
      .ok ⟨payload.signature, payload.mediaType⟩ := by
  have signature := canonical.signature
  cases equal : payload.signature with
  | request name =>
    rw [equal] at signature
    simp only [Signature.payloadKind, Signature.subject, ofRest, request_spaced signature canonical.media]
  | response status =>
    rw [equal] at signature
    obtain ⟨least, most⟩ := signature
    obtain ⟨read, -, nonempty⟩ := status_digits least most
    simp only [Signature.payloadKind, Signature.subject, ofRest, response_spaced least most canonical.media]
    cases digits : Text.ofNat status with
    | nil => exact absurd digits nonempty
    | cons c rest =>
      rw [digits] at read
      simp only [read]

theorem keyword_item (kind : PayloadKind) {rest : Text}
    (parted : rest.isEmpty = true ∨ rest.head?.any Text.isSpace = true) :
    keyword? ('+' :: ' ' :: (kind.keyword ++ rest)) = some (kind, rest) := by
  have marked : marked? ('+' :: ' ' :: (kind.keyword ++ rest)) = some (kind.keyword ++ rest) := by
    cases kind <;> rfl
  have ends : (rest.isEmpty || rest.head?.any Text.isSpace) = true := by simpa using parted
  rw [keyword?, marked]
  cases kind with
  | request =>
    have found : Text.afterStart "Request".toList (PayloadKind.request.keyword ++ rest) = some rest :=
      Declaration.afterStart_append _ rest
    rw [Option.bind_eq_bind, Option.bind_some, found]
    exact if_pos ends
  | response =>
    have found : Text.afterStart "Response".toList (PayloadKind.response.keyword ++ rest) = some rest :=
      Declaration.afterStart_append _ rest
    have other : Text.afterStart "Request".toList (PayloadKind.response.keyword ++ rest) = none := rfl
    rw [Option.bind_eq_bind, Option.bind_some, found, other]
    exact if_pos ends

end PayloadItem

end ApiBlueprint

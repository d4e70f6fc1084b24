import ApiBlueprint.Proofs.Path.Below

/-!
File names: a name in a folder is the last component there, and what is put behind the last point of a
name is its extension.
-/

namespace ApiBlueprint

open OsText (slash point)

namespace Path

variable {path folder : Path} {name stem extension : OsText}

theorem pieces_name (plain : (Component.name name).IsPlain) : (⟨name⟩ : Path).pieces = [name] := by
  have joined := pieces_joined (List.forall_mem_singleton.mpr plain)
  simpa [pieces, Text.joinWith, Component.bytes] using joined

/-- The name comes behind the folder, however this is spelled. -/
theorem components_join_name (plain : (Component.name name).IsPlain) :
    (folder.join ⟨name⟩).components = folder.components ++ [.name name] := by
  have relative := isAbsolute_name plain
  have pieces : (folder.join ⟨name⟩).pieces = folder.pieces ++ [name] := by
    rw [pieces_join relative, pieces_name plain]
  have reads : Component.ofPiece name = .name name := plain.reads
  cases absolute : folder.isAbsolute with
  | true =>
    rw [components_of_absolute (isAbsolute_join absolute), components_of_absolute absolute, pieces]
    simp [List.filter_append, reads]
  | false =>
    have relative' := isAbsolute_join_relative absolute relative
    cases split : folder.pieces with
    | nil =>
      have empty : folder.components = [] := by
        unfold Path.pieces at split
        simp only [components, absolute, split]
        rfl
      rw [split] at pieces
      rw [components_of_relative relative' pieces, empty, reads]
      rfl
    | cons first rest =>
      rw [split] at pieces
      rw [components_of_relative relative' pieces, components_of_relative absolute split]
      simp [List.filter_append, reads]

theorem fileName?_join_name (plain : (Component.name name).IsPlain) :
    (folder.join ⟨name⟩).fileName? = some name := by
  unfold fileName?
  rw [components_join_name plain, List.getLast?_concat]

theorem plain_of_fileName? (named : path.fileName? = some name) : (Component.name name).IsPlain := by
  unfold fileName? at named
  split at named
  · rename_i last
    obtain rfl := Option.some.inj named
    simpa using mem_components (List.mem_of_getLast? last)
  · cases named

theorem splitExtension_append (nonempty : stem ≠ []) (noPoint : point ∉ extension) :
    splitExtension (stem ++ point :: extension) = (stem, some extension) := by
  have free : ∀ c ∈ extension, decide (c = point) = false := by
    intro c member
    simpa using fun same : c = point => noPoint (same ▸ member)
  unfold splitExtension
  rw [Text.splitLast_append free (by decide)]
  cases stem with
  | nil => contradiction
  | cons c rest => rfl

theorem stem_of_name (nonempty : name ≠ []) :
    (splitExtension name).1 ≠ [] ∧ (splitExtension name).1 <+: name := by
  unfold splitExtension
  split
  · exact ⟨nonempty, List.prefix_rfl⟩
  · exact ⟨nonempty, List.prefix_rfl⟩
  · rename_i before after pointed split
    obtain ⟨c, rfl⟩ := Text.exists_of_splitLast split
    exact ⟨pointed, List.prefix_append _ _⟩

theorem stem_ne_nil (stemmed : path.stem? = some stem) : stem ≠ [] ∧ slash ∉ stem := by
  obtain ⟨name, named, rfl⟩ := Option.map_eq_some_iff.mp stemmed
  have plain := plain_of_fileName? named
  obtain ⟨nonempty, start⟩ := stem_of_name plain.nonempty
  exact ⟨nonempty, fun slash => plain.noSlash (start.subset slash)⟩

theorem plain_append_extension (noSlash : slash ∉ stem) (nonempty : extension ≠ [])
    (noPoint : point ∉ extension) (noSlash' : slash ∉ extension) :
    (Component.name (stem ++ point :: extension)).IsPlain := by
  refine ⟨by simp, by simp, by simp [Component.bytes], ?_, ?_⟩
  · have other : slash ≠ point := by decide
    simp [Component.bytes, noSlash, noSlash', other]
  · -- A single point would need an empty extension, and two points one that is a point.
    obtain ⟨c, rest, rfl⟩ := List.exists_cons_of_ne_nil nonempty
    have notCurrent : stem ++ point :: c :: rest ≠ [point] := by
      intro single
      have length := congrArg List.length single
      simp only [List.length_append, List.length_cons, List.length_nil] at length
      omega
    have notParent : stem ++ point :: c :: rest ≠ [point, point] := by
      intro double
      have length := congrArg List.length double
      simp only [List.length_append, List.length_cons, List.length_nil] at length
      obtain rfl : stem = [] := List.length_eq_zero_iff.mp (by omega)
      obtain ⟨-, same⟩ : point = point ∧ c :: rest = [point] := List.cons.inj double
      exact absurd (same ▸ List.mem_cons_self) noPoint
    simp only [Component.bytes, Component.ofPiece, notCurrent, notParent, if_false]

end Path
end ApiBlueprint

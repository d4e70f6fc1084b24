import ApiBlueprint.Include.Expand
import ApiBlueprint.Proofs.Text.Lines

/-! The lines of a text that is spliced in behind an indentation. -/

namespace ApiBlueprint
namespace Transclusion

def indentLine (indent line : Text) : Text := if Text.isBlank line then line else indent ++ line

theorem indentLine_blank {indent line : Text} (blank : Text.isBlank line = true) :
    indentLine indent line = line := if_pos blank

theorem indentLine_written {indent line : Text} (written : Text.isBlank line = false) :
    indentLine indent line = indent ++ line := if_neg (by simp [written])

theorem indentFollowingLines_eq {indent text first : Text} {rest : List Text}
    (lines : text.splitOn '\n' = first :: rest) :
    indentFollowingLines indent text = Text.joinWith ['\n'] (first :: rest.map (indentLine indent)) := by
  unfold indentFollowingLines
  split
  · rename_i empty
    have same : indentLine indent = id := by
      funext line
      rw [indentLine, List.isEmpty_iff.mp empty, List.nil_append, ite_self, id]
    rw [same, List.map_id, ← lines]
    exact (Text.joinWith_splitOn text).symm
  · rw [lines]
    rfl

theorem splitOn_indentFollowingLines {indent text first : Text} {rest : List Text}
    (oneLine : '\n' ∉ indent) (lines : text.splitOn '\n' = first :: rest) :
    (indentFollowingLines indent text).splitOn '\n' = first :: rest.map (indentLine indent) := by
  have each : ∀ line ∈ first :: rest, '\n' ∉ line := by
    rw [← lines]
    exact fun line member => Text.not_mem_of_mem_splitOn member
  obtain ⟨inFirst, inRest⟩ := List.forall_mem_cons.mp each
  rw [indentFollowingLines_eq lines]
  refine List.splitOn_intercalate '\n' ?_ (List.cons_ne_nil _ _)
  rw [List.forall_mem_cons]
  refine ⟨inFirst, ?_⟩
  intro line member
  obtain ⟨source, inside, rfl⟩ := List.mem_map.mp member
  unfold indentLine
  split
  · exact inRest source inside
  · simp [oneLine, inRest source inside]

theorem splitOn_indented {indent text first : Text} {rest : List Text} (oneLine : '\n' ∉ indent)
    (lines : text.splitOn '\n' = first :: rest) :
    (indent ++ indentFollowingLines indent text).splitOn '\n' =
      (indent ++ first) :: rest.map (indentLine indent) := by
  have alone : indent.splitOn '\n' = [] ++ [indent] := Text.splitOn_one_line oneLine
  exact Text.splitOn_append alone (splitOn_indentFollowingLines oneLine lines)

/-- The columns of an indentation reach as far on all lines that are spliced in behind it. -/
theorem splice_indented {indent : Text} (blank : ∀ c ∈ indent, c = ' ' ∨ c = '\t')
    (nested : Text) : ∀ line ∈ (indent ++ splice indent nested).splitOn '\n',
      Line.IsDeep (Line.indentWidth indent) line := by
  have oneLine : '\n' ∉ indent := fun member => by
    rcases blank '\n' member with space | tab
    · cases space
    · cases tab
  have deep (line : Text) : Line.indentWidth indent ≤ Line.indentWidth (indent ++ line) := by
    rw [Line.indentWidth_append blank]
    exact Nat.le_add_right _ _
  obtain ⟨first, rest, lines⟩ := Text.exists_first_line (trimTrailingNewline nested)
  rw [splice, splitOn_indented oneLine lines]
  rw [List.forall_mem_cons]
  refine ⟨Or.inr (deep first), ?_⟩
  intro line member
  obtain ⟨source, -, rfl⟩ := List.mem_map.mp member
  cases empty : Text.isBlank source with
  | true =>
    rw [indentLine_blank empty]
    exact Or.inl empty
  | false =>
    rw [indentLine_written empty]
    exact Or.inr (deep source)

theorem splice_indented_ending {indent ending : Text} (blank : ∀ c ∈ indent, c = ' ' ∨ c = '\t')
    (isEnding : Line.IsEnding ending) (nested : Text) :
    ∀ line ∈ (indent ++ splice indent nested ++ ending).splitOn '\n',
      Line.IsDeep (Line.indentWidth indent) line := by
  have deep := splice_indented blank nested
  obtain ⟨lines, last, parts⟩ := Text.exists_last_line (indent ++ splice indent nested)
  rw [parts, List.forall_mem_append, List.forall_mem_singleton] at deep
  rw [Text.splitOn_ending parts isEnding, List.forall_mem_append, List.forall_mem_singleton]
  exact ⟨deep.1, (Line.isDeep_ending_iff isEnding).mpr deep.2⟩

end Transclusion
end ApiBlueprint

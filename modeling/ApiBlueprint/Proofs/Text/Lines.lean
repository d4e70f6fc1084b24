import ApiBlueprint.Proofs.Text.Words
import ApiBlueprint.Text.Line

/-!
Lines of a text: those that line feeds separate, the carriage return that may end one, and how deep
one is indented.
-/

namespace ApiBlueprint

namespace Text

theorem splitOn_line (left right : Text) :
    (left ++ '\n' :: right).splitOn '\n' = left.splitOn '\n' ++ right.splitOn '\n' :=
  List.splitOnP_append_cons left right rfl

theorem splitOn_joinWith {texts : List Text} (some : texts ≠ []) :
    (joinWith ['\n'] texts).splitOn '\n' = texts.flatMap fun text => text.splitOn '\n' := by
  induction texts with
  | nil => contradiction
  | cons text texts ih =>
    rw [List.flatMap_cons]
    by_cases last : texts = []
    · rw [last, joinWith_singleton, List.flatMap_nil, List.append_nil]
    · rw [joinWith_cons text last, List.singleton_append, splitOn_line, ih last]

theorem joinWith_splitOn (text : Text) : joinWith ['\n'] (text.splitOn '\n') = text :=
  List.intercalate_splitOn '\n'

theorem splitOn_one_line {line : Text} (oneLine : '\n' ∉ line) : line.splitOn '\n' = [line] := by
  rw [List.splitOn_eq_splitOnP]
  apply List.splitOnP_eq_singleton
  intro c member
  have other : c ≠ '\n' := by
    rintro rfl
    exact oneLine member
  simpa using other

theorem exists_first_line (text : Text) : ∃ first rest, text.splitOn '\n' = first :: rest :=
  List.exists_cons_of_ne_nil (List.splitOn_ne_nil '\n' text)

theorem exists_last_line (text : Text) : ∃ above last, text.splitOn '\n' = above ++ [last] :=
  (List.eq_nil_or_concat' _).resolve_left (List.splitOn_ne_nil '\n' text)

/-- A text goes on in the last line of the text before it. By induction on that text. -/
theorem splitOn_append {left right last first : Text} {above below : List Text}
    (before : left.splitOn '\n' = above ++ [last]) (behind : right.splitOn '\n' = first :: below) :
    (left ++ right).splitOn '\n' = above ++ (last ++ first) :: below := by
  induction left generalizing above last with
  | nil =>
    obtain ⟨rfl, rfl⟩ : above = [] ∧ last = [] := by
      have single : [([] : Text)] = above ++ [last] := before
      cases above with
      | nil => exact ⟨rfl, (List.cons.inj single).1.symm⟩
      | cons line above => simp at single
    exact behind
  | cons c left ih =>
    obtain ⟨lines, final, parts⟩ := exists_last_line left
    have joined := ih parts
    rw [List.splitOn_eq_splitOnP] at before joined parts ⊢
    rw [List.splitOnP_cons_eq_if_modifyHead] at before
    rw [List.cons_append, List.splitOnP_cons_eq_if_modifyHead]
    by_cases feed : c = '\n'
    · rw [if_pos (by simpa using feed), parts, ← List.cons_append] at before
      obtain ⟨rfl, same⟩ := List.append_inj' before rfl
      obtain rfl := List.cons.inj same |>.1
      rw [if_pos (by simpa using feed), joined, List.cons_append]
    · rw [if_neg (by simpa using feed), parts] at before
      rw [if_neg (by simpa using feed), joined]
      cases lines with
      | nil =>
        have alone : [] ++ [c :: final] = above ++ [last] := before
        obtain ⟨rfl, same⟩ := List.append_inj' alone rfl
        obtain rfl := List.cons.inj same |>.1
        rfl
      | cons line lines =>
        rw [List.cons_append, List.modifyHead_cons, ← List.cons_append] at before
        obtain ⟨rfl, same⟩ := List.append_inj' before rfl
        obtain rfl := List.cons.inj same |>.1
        rfl

theorem length_splitOn (text : Text) : (text.splitOn '\n').length = text.count '\n' + 1 := by
  induction text with
  | nil => rfl
  | cons c text ih =>
    rw [List.splitOn_eq_splitOnP] at ih ⊢
    rw [List.splitOnP_cons_eq_if_modifyHead]
    by_cases feed : c = '\n'
    · rw [if_pos (by simpa using feed), List.length_cons, ih, feed, List.count_cons_self]
    · rw [if_neg (by simpa using feed), List.length_modifyHead, ih, List.count_cons_of_ne feed]

theorem flatMap_splitOn {lines : List Text} (oneLine : ∀ line ∈ lines, '\n' ∉ line) :
    (lines.flatMap fun line => line.splitOn '\n') = lines := by
  calc
    (lines.flatMap fun line => line.splitOn '\n') = lines.flatMap fun line => [line] :=
      List.flatMap_congr fun line member => splitOn_one_line (oneLine line member)
    _ = lines := List.flatMap_singleton' lines

end Text

theorem splitLines_texts (source : Text) :
    (splitLines source).map Line.text = (source.splitOn '\n').map Line.dropReturn := by
  have texts : ((source.splitOn '\n').zipIdx 1).map Prod.fst = source.splitOn '\n' :=
    List.zipIdx_map_fst 1 _
  calc
    (splitLines source).map Line.text =
        (((source.splitOn '\n').zipIdx 1).map Prod.fst).map Line.dropReturn := by
      rw [splitLines, List.map_map, List.map_map]
      rfl
    _ = (source.splitOn '\n').map Line.dropReturn := by rw [texts]

theorem splitLines_numbers (source : Text) :
    (splitLines source).map Line.number = List.range' 1 (splitLines source).length := by
  rw [splitLines, List.map_map, List.length_map, List.length_zipIdx, ← List.zipIdx_map_snd]
  rfl

theorem splitLines_rising (source : Text) :
    (splitLines source).Pairwise fun first second => first.number < second.number := by
  rw [← List.pairwise_map, splitLines_numbers]
  exact List.pairwise_lt_range'

namespace Line

/-- What a line of a source may have behind its text. -/
def IsEnding (ending : Text) : Prop := ending = [] ∨ ending = ['\r']

theorem exists_ending (raw : Text) : ∃ ending, IsEnding ending ∧ raw = dropReturn raw ++ ending := by
  unfold dropReturn
  split
  · rename_i last
    obtain ⟨front, rfl⟩ := List.getLast?_eq_some_iff.mp last
    exact ⟨['\r'], Or.inr rfl, by rw [List.dropLast_concat]⟩
  · exact ⟨[], Or.inl rfl, (List.append_nil raw).symm⟩

end Line

theorem Text.splitOn_ending {text last : Text} {lines : List Text} (parts : text.splitOn '\n' = lines ++ [last])
    {ending : Text} (isEnding : Line.IsEnding ending) :
    (text ++ ending).splitOn '\n' = lines ++ [last ++ ending] := by
  have own : '\n' ∉ ending := by
    rcases isEnding with rfl | rfl <;> decide
  exact splitOn_append parts (splitOn_one_line own)

namespace Line

theorem indentWidth_append {indent : Text} (blank : ∀ c ∈ indent, c = ' ' ∨ c = '\t') (text : Text) :
    indentWidth (indent ++ text) = indentWidth indent + indentWidth text := by
  induction indent with
  | nil => exact (Nat.zero_add _).symm
  | cons c indent ih =>
    obtain ⟨first, later⟩ := List.forall_mem_cons.mp blank
    rcases first with rfl | rfl
    · rw [List.cons_append, indentWidth, indentWidth, ih later]
      omega
    · rw [List.cons_append, indentWidth, indentWidth, ih later]
      omega

theorem indentWidth_other {c : Char} (noSpace : c ≠ ' ') (noTab : c ≠ '\t') (rest : Text) :
    indentWidth (c :: rest) = 0 := by
  rw [indentWidth.eq_def]
  split <;> simp_all

theorem indentWidth_ending (text : Text) {ending : Text} (isEnding : IsEnding ending) :
    indentWidth (text ++ ending) = indentWidth text := by
  rcases isEnding with rfl | rfl
  · rw [List.append_nil]
  · induction text with
    | nil => rfl
    | cons c text ih =>
      by_cases space : c = ' '
      · rw [space, List.cons_append, indentWidth, indentWidth, ih]
      · by_cases tab : c = '\t'
        · rw [tab, List.cons_append, indentWidth, indentWidth, ih]
        · rw [List.cons_append, indentWidth_other space tab, indentWidth_other space tab]

theorem isBlank_ending (text : Text) {ending : Text} (isEnding : IsEnding ending) :
    Text.isBlank (text ++ ending) = Text.isBlank text := by
  have blank : Text.isBlank ending = true := by
    rcases isEnding with rfl | rfl <;> decide
  unfold Text.isBlank at blank ⊢
  rw [List.all_append, blank, Bool.and_true]

theorem isBlank_dropReturn (raw : Text) : Text.isBlank (dropReturn raw) = Text.isBlank raw := by
  obtain ⟨ending, isEnding, same⟩ := exists_ending raw
  conv_rhs => rw [same, isBlank_ending _ isEnding]

def IsDeep (width : Nat) (text : Text) : Prop := Text.isBlank text = true ∨ width ≤ indentWidth text

theorem isDeep_ending_iff {width : Nat} {text ending : Text} (isEnding : IsEnding ending) :
    IsDeep width (text ++ ending) ↔ IsDeep width text := by
  rw [IsDeep, IsDeep, isBlank_ending text isEnding, indentWidth_ending text isEnding]

theorem isDeep_dropReturn {width : Nat} {raw : Text} : IsDeep width (dropReturn raw) ↔ IsDeep width raw := by
  obtain ⟨ending, isEnding, same⟩ := exists_ending raw
  have whole := @isDeep_ending_iff width (dropReturn raw) ending isEnding
  rw [← same] at whole
  exact whole.symm

end Line
end ApiBlueprint

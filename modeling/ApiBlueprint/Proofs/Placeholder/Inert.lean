import ApiBlueprint.Proofs.Fixture.Passage
import ApiBlueprint.Proofs.Placeholder.Alphabet

/-!
Inert texts, which have a character and none that opens or closes a brace, a string, an escape or a
line. The text of every placeholder and every value drawn for it is inert.
-/

namespace ApiBlueprint

def IsInertCharacter (c : Char) : Prop := Span.IsPlain c ∧ c ≠ '\\' ∧ c ≠ '\n'

instance (c : Char) : Decidable (IsInertCharacter c) := inferInstanceAs (Decidable (_ ∧ _ ∧ _))

structure IsInert (text : Text) : Prop where
  nonempty : text ≠ []
  characters : ∀ c ∈ text, IsInertCharacter c

instance (text : Text) : Decidable (IsInert text) :=
  decidable_of_iff (text ≠ [] ∧ ∀ c ∈ text, IsInertCharacter c)
    ⟨fun ⟨nonempty, characters⟩ => ⟨nonempty, characters⟩,
      fun ⟨nonempty, characters⟩ => ⟨nonempty, characters⟩⟩

namespace Placeholder

theorem inert_of_isValueCharacter {c : Char} (isValue : isValueCharacter c = true) :
    IsInertCharacter c := by
  refine ⟨⟨?_, ?_, ?_⟩, ?_, ?_⟩ <;> rintro rfl <;> revert isValue <;> decide

/-- No draw can open or close anything in the text around it. -/
theorem draw_isInert (placeholder : Placeholder) (stream : RandomStream) :
    IsInert (placeholder.draw stream).1 := by
  obtain ⟨nonempty, characters⟩ := draw_isOver placeholder stream
  exact ⟨nonempty, fun c member => inert_of_isValueCharacter (characters c member)⟩

end Placeholder
end ApiBlueprint

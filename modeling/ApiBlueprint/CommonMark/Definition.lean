import ApiBlueprint.CommonMark.Container
import ApiBlueprint.CommonMark.Link

/-!
Definitions of link labels, which stand between other blocks. What they lead to has no text, so that
only their labels are kept.
-/

namespace ApiBlueprint.CommonMark

def breaksText (inside : Bool) (text : Text) : Bool :=
  (afterLineEnd? text).isSome || (afterRule? text).isSome || (headingDepth? text).isSome ||
    (fence? text).isSome || Text.startsWith ['>', ' '] text || breaksByItem inside text ||
    (text.head? = some '<' && (Html.breakingEnd? (text.drop 1)).isSome)

namespace Definition

def labelMarks (containers : List Container) (line : Text) : Option Text :=
  let (count, behind) := Container.enter containers { rest := line }
  if breaksText (count = containers.length) behind.rest then none else some behind.rest

/-- The rest behind white space with at most one line end, and the number of line ends; `fuel` bounds
the lines. -/
def afterGap? (containers : List Container) (ends : Nat) : Nat → Text → Option (Text × Nat)
  | 0, _ => none
  | fuel + 1, text =>
    let text := skipBlank text
    match afterLineEnd? text with
    | none => some (text, ends)
    | some line =>
      let (count, behind) := Container.enter containers { rest := line }
      if 1 ≤ ends || count ≠ containers.length then none
      else afterGap? containers (ends + 1) fuel behind.rest

/-- The rest behind a definition from its destination on. A title that is not alone on its lines does
not belong to it. -/
def afterTarget? (containers : List Container) (text : Text) : Option Text := do
  let behind ← Link.afterDestination? 1 text
  if behind.length = text.length then none
  else
    match afterGap? containers 0 3 behind with
    | none => return behind
    | some (next, ends) =>
      if next.length = behind.length then none
      else
        let titled := do
          let first ← next.head?
          let last ← Link.afterDefinitionTitle? (← Link.titleEnd? first) (next.drop 1)
          afterBlankLine? last
        match titled with
        | some after => return after
        | none => if ends = 0 then none else return behind

def read? (containers : List Container) (text : Text) : Option (Text × Text) := do
  let (label, rest) ← Link.label? (labelMarks containers) text
  match rest with
  | ':' :: rest =>
    let (target, _) ← afterGap? containers 0 3 rest
    let after ← afterTarget? containers target
    return (label, (afterBlankLine? after).getD after)
  | _ => none

end Definition
end ApiBlueprint.CommonMark

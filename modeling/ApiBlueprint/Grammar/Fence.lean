import ApiBlueprint.Text.Line

/-! Code fences: where one opens, and which line closes it. -/

namespace ApiBlueprint

structure Fence where
  marker : Char
  length : Nat
  openedAt : Nat
  deriving DecidableEq, Repr

namespace Fence

def isMarker (c : Char) : Bool := c = '\x60' || c = '~'

/-- A fence opens with three or more markers, indented by at most three columns. -/
def opening? (line : Line) : Option Fence :=
  if line.indent > 3 then none
  else
    match Line.dedent 3 line.text with
    | [] => none
    | marker :: rest =>
      let length := (rest.takeWhile (· = marker)).length + 1
      if isMarker marker && 3 ≤ length then some ⟨marker, length, line.number⟩ else none

def closes (fence : Fence) (line : Line) : Bool :=
  let text := Text.trim line.text
  line.indent ≤ 3 && text ≠ [] && text.all (· = fence.marker) && fence.length ≤ text.length

/-- Whether a line belongs to a fenced block, and the fence that is open after it. -/
def advance (opened : Option Fence) (line : Line) : Bool × Option Fence :=
  match opened with
  | some fence => (true, if fence.closes line then none else some fence)
  | none =>
    match opening? line with
    | some fence => (true, some fence)
    | none => (false, none)

end Fence
end ApiBlueprint

import ApiBlueprint.Fixture.Span
import ApiBlueprint.Json.Reader
import ApiBlueprint.Text.Line

/-! The JSON values that stand between braces in a text. -/

namespace ApiBlueprint

inductive FixtureFault where
  | unclosed
  | json (error : JsonError)
  deriving DecidableEq, Repr

/-- A span that is no JSON value: its text, or the first line of it if it is never closed. -/
structure FixtureError where
  fragment : Text
  line : Nat
  fault : FixtureFault
  deriving DecidableEq, Repr

def FixtureFault.message : FixtureFault → Text
  | unclosed => "opening brace is never closed".toList
  | json error => error.message

namespace Span

def firstLine (text : Text) : Text :=
  let line := text.takeWhile (· ≠ '\n')
  if line.length < text.length then Line.dropReturn line else line

def value (span : Span) : Except FixtureError Json :=
  if span.closed then
    (Json.read span.text).mapError fun error => ⟨span.text, span.line, .json error⟩
  else .error ⟨firstLine span.text, span.line, .unclosed⟩

end Span

/-- The values of all spans of a text, in order; the first faulty span is the error. -/
def extractFixtures (text : Text) : Except FixtureError (List Json) :=
  (Span.scan text).mapM Span.value

end ApiBlueprint

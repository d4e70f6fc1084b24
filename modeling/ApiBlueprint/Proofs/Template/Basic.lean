import ApiBlueprint.Json.Writer
import ApiBlueprint.Proofs.Fixture.Interpolation
import ApiBlueprint.Proofs.Placeholder.Bare

/-!
Templates of JSON values: values with placeholders inside their strings, and bare ones in the place
of numbers and booleans. A template is written as tokens with any white space between them, and a
stream of random words fills it.
-/

namespace ApiBlueprint

inductive TemplatePart where
  | literal (text : Text)
  | slot (placeholder : Placeholder)
  deriving DecidableEq, Repr

namespace TemplatePart

def spelled : TemplatePart → Text
  | literal text => text
  | slot placeholder => placeholder.mark

def draw (part : TemplatePart) (stream : RandomStream) : Text × RandomStream :=
  match part with
  | literal text => (text, stream)
  | slot placeholder => placeholder.draw stream

/-- The part as it is written inside quotes. -/
def escaped : TemplatePart → TemplatePart
  | literal text => literal (text.flatMap Json.writeCharacter)
  | slot placeholder => slot placeholder

def IsBarless : TemplatePart → Prop
  | literal text => '|' ∉ text
  | slot _ => True

def drawAll : List TemplatePart → RandomStream → Text × RandomStream
  | [], stream => ([], stream)
  | part :: rest, stream =>
    let (text, stream) := part.draw stream
    let (more, stream) := drawAll rest stream
    (text ++ more, stream)

def sign (c : Char) : List TemplatePart := [literal [c]]

def quoted (parts : List TemplatePart) : List TemplatePart :=
  literal ['"'] :: (parts.map escaped ++ [literal ['"']])

end TemplatePart

inductive Template where
  | null
  | boolean (value : Bool)
  | number (literal : NumberLiteral)
  | string (parts : List TemplatePart)
  | bare (placeholder : BarePlaceholder)
  | array (items : List Template)
  | object (members : List (Text × Template))

namespace Template

open TemplatePart (sign quoted drawAll)

mutual

def tokens : Template → List (List TemplatePart)
  | null => [[.literal "null".toList]]
  | boolean value => [[.literal (if value then "true".toList else "false".toList)]]
  | number literal => [[.literal literal.text]]
  | string parts => [quoted parts]
  | bare placeholder => [[.slot placeholder.kind]]
  | array [] => [sign '[', sign ']']
  | array (first :: rest) => sign '[' :: tokens first ++ itemTokens rest ++ [sign ']']
  | object [] => [sign '{', sign '}']
  | object ((key, value) :: rest) =>
    sign '{' :: quoted [.literal key] :: sign ':' :: tokens value ++ memberTokens rest ++ [sign '}']

def itemTokens : List Template → List (List TemplatePart)
  | [] => []
  | item :: rest => sign ',' :: tokens item ++ itemTokens rest

def memberTokens : List (Text × Template) → List (List TemplatePart)
  | [] => []
  | (key, value) :: rest =>
    sign ',' :: quoted [.literal key] :: sign ':' :: tokens value ++ memberTokens rest

end

/-- Keys are distinct, no text in it has a bar, and containers nest at most `depth` deep. -/
inductive Fits : Nat → Template → Prop
  | null {depth : Nat} : Fits depth null
  | boolean {depth : Nat} (value : Bool) : Fits depth (boolean value)
  | number {depth : Nat} (literal : NumberLiteral) : Fits depth (number literal)
  | string {depth : Nat} {parts : List TemplatePart} (barless : ∀ part ∈ parts, part.IsBarless) :
    Fits depth (string parts)
  | bare {depth : Nat} (placeholder : BarePlaceholder) : Fits depth (bare placeholder)
  | array {depth : Nat} {items : List Template} (each : ∀ item ∈ items, Fits depth item) :
    Fits (depth + 1) (array items)
  | object {depth : Nat} {members : List (Text × Template)} (distinct : (members.map Prod.fst).Nodup)
    (barless : ∀ member ∈ members, '|' ∉ member.1)
    (each : ∀ member ∈ members, Fits depth member.2) : Fits (depth + 1) (object members)

mutual

/-- The value of a template with what is drawn from a stream, from left to right, in the place of its
placeholders; and the stream after it. The members of an object come in the order of their keys. -/
inductive Fills : Template → RandomStream → Json → RandomStream → Prop
  | null {stream : RandomStream} : Fills null stream .null stream
  | boolean (value : Bool) {stream : RandomStream} :
    Fills (boolean value) stream (.boolean value) stream
  | number (literal : NumberLiteral) {stream : RandomStream} :
    Fills (number literal) stream (.number literal.value) stream
  | string (parts : List TemplatePart) {stream : RandomStream} :
    Fills (string parts) stream (.string (drawAll parts stream).1) (drawAll parts stream).2
  | bare (placeholder : BarePlaceholder) {stream : RandomStream} :
    Fills (bare placeholder) stream (placeholder.value stream) (placeholder.kind.draw stream).2
  | array {items : List Template} {values : List Json} {stream after : RandomStream}
    (each : FillsItems items stream values after) : Fills (array items) stream (.array values) after
  | object {members : List (Text × Template)} {values sorted : List (Text × Json)}
    {stream after : RandomStream} (each : FillsMembers members stream values after)
    (order : Json.IsSorted sorted) (all : sorted.Perm values) :
    Fills (object members) stream (.object sorted) after

inductive FillsItems : List Template → RandomStream → List Json → RandomStream → Prop
  | nil {stream : RandomStream} : FillsItems [] stream [] stream
  | cons {item : Template} {rest : List Template} {value : Json} {values : List Json}
    {stream middle after : RandomStream} (first : Fills item stream value middle)
    (more : FillsItems rest middle values after) :
    FillsItems (item :: rest) stream (value :: values) after

inductive FillsMembers :
    List (Text × Template) → RandomStream → List (Text × Json) → RandomStream → Prop
  | nil {stream : RandomStream} : FillsMembers [] stream [] stream
  | cons {key : Text} {template : Template} {rest : List (Text × Template)} {value : Json}
    {values : List (Text × Json)} {stream middle after : RandomStream}
    (first : Fills template stream value middle) (more : FillsMembers rest middle values after) :
    FillsMembers ((key, template) :: rest) stream ((key, value) :: values) after

end

end Template

/-- The text is that of the tokens with white space before, between and behind them. -/
inductive Laid : List Text → Text → Prop
  | nil {blank : Text} (spaces : ∀ c ∈ blank, JsonReader.isSpace c = true) : Laid [] blank
  | cons {blank token text : Text} {tokens : List Text}
    (spaces : ∀ c ∈ blank, JsonReader.isSpace c = true) (rest : Laid tokens text) :
    Laid (token :: tokens) (blank ++ (token ++ text))

def Template.IsSpelledBy (template : Template) (text : Text) : Prop :=
  Laid (template.tokens.map fun token => token.flatMap TemplatePart.spelled) text

end ApiBlueprint

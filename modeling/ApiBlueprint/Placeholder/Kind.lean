import ApiBlueprint.Decimal.Binary64
import ApiBlueprint.Placeholder.Calendar
import ApiBlueprint.Random.Uniform

/-! The kinds of placeholders and the random text that each stands for. -/

namespace ApiBlueprint

inductive Placeholder where
  | word | sentence | paragraph
  | firstName | lastName | fullName | email | age
  | guid | boolean
  | integer | decimal
  | isoDate
  deriving DecidableEq, Repr

namespace Placeholder

def all : List Placeholder :=
  [word, sentence, paragraph, firstName, lastName, fullName, email, age, guid, boolean, integer,
    decimal, isoDate]

def token : Placeholder → Text
  | word => "text.word".toList
  | sentence => "text.sentence".toList
  | paragraph => "text.paragraph".toList
  | firstName => "person.first".toList
  | lastName => "person.last".toList
  | fullName => "person.name".toList
  | email => "person.email".toList
  | age => "person.age".toList
  | guid => "misc.guid".toList
  | boolean => "misc.bool".toList
  | integer => "number.int".toList
  | decimal => "number.float".toList
  | isoDate => "date.iso".toList

def ofToken? (token : Text) : Option Placeholder :=
  all.find? fun placeholder => placeholder.token = token

theorem of_token_token (placeholder : Placeholder) : ofToken? placeholder.token = some placeholder := by
  cases placeholder <;> decide

def vocabulary : List Text :=
  ["lorem", "ipsum", "dolor", "sit", "amet", "consectetur", "adipiscing", "elit", "sed", "do",
    "eiusmod", "tempor", "incididunt", "ut", "labore", "et", "dolore", "magna", "aliqua", "enim",
    "minim", "veniam", "quis", "nostrud", "exercitation", "ullamco", "laboris", "nisi", "aliquip",
    "commodo"].map String.toList

def firstNames : List Text :=
  ["Ada", "Alan", "Barbara", "Claude", "Donald", "Edsger", "Frances", "Grace", "Hedy", "Ivan",
    "John", "Katherine", "Linus", "Margaret", "Niklaus", "Radia", "Tony", "Yukihiro"].map
    String.toList

def lastNames : List Text :=
  ["Allen", "Backus", "Dijkstra", "Hamilton", "Hoare", "Hopper", "Johnson", "Kay", "Knuth",
    "Lamarr", "Liskov", "Lovelace", "Matsumoto", "Perlman", "Ritchie", "Sutherland", "Torvalds",
    "Wirth"].map String.toList

def domains : List Text :=
  ["example.com", "example.org", "example.net", "mail.test"].map String.toList

def pickWord : RandomStream → Text × RandomStream := RandomStream.pick [] vocabulary

def capitalize : Text → Text
  | [] => []
  | c :: rest => c.toUpper :: rest

def joinWords (words : List Text) : Text := Text.joinWith [' '] words

def drawSentence (stream : RandomStream) : Text × RandomStream :=
  let (count, stream) := stream.below 7
  let (words, stream) := RandomStream.repeated pickWord (count + 6) stream
  (capitalize (joinWords words) ++ ['.'], stream)

def drawParagraph (stream : RandomStream) : Text × RandomStream :=
  let (count, stream) := stream.below 3
  let (sentences, stream) := RandomStream.repeated drawSentence (count + 3) stream
  (joinWords sentences, stream)

def drawFullName (stream : RandomStream) : Text × RandomStream :=
  let (first, stream) := stream.pick [] firstNames
  let (last, stream) := stream.pick [] lastNames
  (first ++ ' ' :: last, stream)

def drawEmail (stream : RandomStream) : Text × RandomStream :=
  let (first, stream) := stream.pick [] firstNames
  let (last, stream) := stream.pick [] lastNames
  let (domain, stream) := stream.pick [] domains
  (first.map Text.lower ++ '.' :: last.map Text.lower ++ '@' :: domain, stream)

def hexDigit (n : Nat) : Char := Char.ofNat (if n < 10 then n + 48 else n + 87)

def hexByte (byte : Nat) : Text := [hexDigit (byte / 16), hexDigit (byte % 16)]

/-- The bytes of a random identifier: version 4 in byte 6, the variant in byte 8. -/
def markVersion (bytes : List Nat) : List Nat :=
  (bytes.modify 6 fun byte => byte % 16 + 0x40).modify 8 fun byte => byte % 64 + 0x80

def renderGuid (bytes : List Nat) : Text :=
  let digits (start count : Nat) : Text := ((bytes.drop start).take count).flatMap hexByte
  Text.joinWith ['-'] [digits 0 4, digits 4 2, digits 6 2, digits 8 2, digits 10 6]

def drawByte (stream : RandomStream) : Nat × RandomStream :=
  let (drawn, stream) := stream.nextWord
  (drawn % 256, stream)

def drawGuid (stream : RandomStream) : Text × RandomStream :=
  let (bytes, stream) := RandomStream.repeated drawByte 16 stream
  (renderGuid (markVersion bytes), stream)

/-- A magnitude with two decimal places; a half goes to the even neighbour. -/
def twoPlaces (x : Magnitude) : Text :=
  let (numerator, denominator) := x.toRatio
  let hundredths := roundRatio (numerator * 100) denominator
  Text.ofNat (hundredths / 100) ++ '.' :: Instant.padded 2 (hundredths % 100)

def earliestDate : Nat := 946684800

def dateSpan : Nat := 788400000

def drawDate (stream : RandomStream) : Text × RandomStream :=
  let drawn := stream.belowLong dateSpan
  (((Instant.ofTimestamp? (earliestDate + drawn.1)).map Instant.render).getD [], drawn.2)

def draw (placeholder : Placeholder) (stream : RandomStream) : Text × RandomStream :=
  match placeholder with
  | word => pickWord stream
  | sentence => drawSentence stream
  | paragraph => drawParagraph stream
  | firstName => stream.pick [] firstNames
  | lastName => stream.pick [] lastNames
  | fullName => drawFullName stream
  | email => drawEmail stream
  | age =>
    let (years, stream) := stream.below 73
    (Text.ofNat (years + 18), stream)
  | guid => drawGuid stream
  | boolean =>
    let (heads, stream) := stream.coin
    (if heads then "true".toList else "false".toList, stream)
  | integer =>
    let (n, stream) := stream.below 10000
    (Text.ofNat n, stream)
  | decimal =>
    let (x, stream) := stream.magnitudeBelow 1000
    (twoPlaces x, stream)
  | isoDate => drawDate stream

end Placeholder
end ApiBlueprint

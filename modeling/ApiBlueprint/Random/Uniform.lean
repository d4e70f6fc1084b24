import ApiBlueprint.Decimal.Binary64
import ApiBlueprint.Random.Stream

/-!
Uniform draws from a stream. A draw below a bound multiplies a word by the bound and keeps the upper
half; words whose lower half lies beyond a zone are drawn again.
-/

namespace ApiBlueprint.RandomStream

/-- The greatest lower half that is accepted: one less than the bound shifted up to `bits` bits. -/
def zone (bits bound : Nat) : Nat := (bound <<< (bits - 1 - bound.log2)) - 1

/-- The number of words after which a draw settles on zero; a stream never gets there in practice,
for at least half of all words are accepted. -/
def attempts : Nat := 4096

def drawBelow (bits : Nat) (draw : RandomStream → Nat × RandomStream) (bound : Nat) :
    Nat → RandomStream → Nat × RandomStream
  | 0, stream => (0, stream)
  | fuel + 1, stream =>
    let (word, stream) := draw stream
    let product := word * bound
    if product % Nat.pow 2 bits ≤ zone bits bound then (product / Nat.pow 2 bits, stream)
    else drawBelow bits draw bound fuel stream

def nextWord (stream : RandomStream) : Nat × RandomStream :=
  let (word, stream) := stream.word
  (word.toNat, stream)

def nextLongWord (stream : RandomStream) : Nat × RandomStream :=
  let (word, stream) := stream.longWord
  (word.toNat, stream)

def below (bound : Nat) (stream : RandomStream) : Nat × RandomStream :=
  drawBelow 32 nextWord bound attempts stream

def belowLong (bound : Nat) (stream : RandomStream) : Nat × RandomStream :=
  drawBelow 64 nextLongWord bound attempts stream

def coin (stream : RandomStream) : Bool × RandomStream :=
  let (word, stream) := stream.nextLongWord
  (word < Nat.pow 2 63, stream)

def magnitudeBelow (high : Nat) (stream : RandomStream) : Magnitude × RandomStream :=
  let (word, stream) := stream.nextLongWord
  ((Magnitude.ofRatio (word / Nat.pow 2 12) (Nat.pow 2 52)).mul (Magnitude.ofNat high), stream)

def pick {α : Type} (fallback : α) (choices : List α) (stream : RandomStream) : α × RandomStream :=
  let (index, stream) := below choices.length stream
  (choices.getD index fallback, stream)

def repeated {α : Type} (draw : RandomStream → α × RandomStream) :
    Nat → RandomStream → List α × RandomStream
  | 0, stream => ([], stream)
  | count + 1, stream =>
    let (first, stream) := draw stream
    let (rest, stream) := repeated draw count stream
    (first :: rest, stream)

end ApiBlueprint.RandomStream

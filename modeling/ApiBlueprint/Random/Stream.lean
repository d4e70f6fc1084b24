/-!
A stream of 32-bit words: ChaCha with twelve rounds, a key made from a seed, and block counters
from zero.
-/

namespace ApiBlueprint

/-- A stream at a position, which counts the words already drawn. -/
structure RandomStream where
  key : List UInt32
  position : Nat := 0
  deriving DecidableEq, Repr

namespace RandomStream

def rotateLeft (word : UInt32) (count : UInt32) : UInt32 :=
  (word <<< count) ||| (word >>> (32 - count))

def rotateRight (word : UInt32) (count : UInt32) : UInt32 :=
  (word >>> count) ||| (word <<< ((32 - count) % 32))

/-- The words of a key, from a linear congruential generator with permuted output. -/
def keyWords (state : UInt64) : Nat → List UInt32
  | 0 => []
  | count + 1 =>
    let next := state * 6364136223846793005 + 11634580027462260723
    let mixed := (((next >>> 18) ^^^ next) >>> 27).toUInt32
    rotateRight mixed (next >>> 59).toUInt32 :: keyWords next count

def seeded (seed : UInt64) : RandomStream := ⟨keyWords seed 8, 0⟩

def quarterRound (block : Array UInt32) (a b c d : Nat) : Array UInt32 :=
  let at' (i : Nat) : UInt32 := block.getD i 0
  let wa := at' a + at' b
  let wd := rotateLeft (at' d ^^^ wa) 16
  let wc := at' c + wd
  let wb := rotateLeft (at' b ^^^ wc) 12
  let wa := wa + wb
  let wd := rotateLeft (wd ^^^ wa) 8
  let wc := wc + wd
  let wb := rotateLeft (wb ^^^ wc) 7
  (((block.setIfInBounds a wa).setIfInBounds b wb).setIfInBounds c wc).setIfInBounds d wd

def doubleRound (block : Array UInt32) : Array UInt32 :=
  let block := quarterRound block 0 4 8 12
  let block := quarterRound block 1 5 9 13
  let block := quarterRound block 2 6 10 14
  let block := quarterRound block 3 7 11 15
  let block := quarterRound block 0 5 10 15
  let block := quarterRound block 1 6 11 12
  let block := quarterRound block 2 7 8 13
  quarterRound block 3 4 9 14

def constants : List UInt32 := [0x61707865, 0x3320646e, 0x79622d32, 0x6b206574]

def initialBlock (key : List UInt32) (counter : UInt64) : Array UInt32 :=
  (constants ++ key ++ [counter.toUInt32, (counter >>> 32).toUInt32, 0, 0]).toArray

def block (key : List UInt32) (counter : UInt64) : Array UInt32 :=
  let start := initialBlock key counter
  (Nat.repeat doubleRound 6 start).zipWith (· + ·) start

def wordAt (key : List UInt32) (position : Nat) : UInt32 :=
  (block key (UInt64.ofNat (position / 16))).getD (position % 16) 0

def word (stream : RandomStream) : UInt32 × RandomStream :=
  (wordAt stream.key stream.position, { stream with position := stream.position + 1 })

def longWord (stream : RandomStream) : UInt64 × RandomStream :=
  let (low, stream) := stream.word
  let (high, stream) := stream.word
  (high.toUInt64 <<< 32 ||| low.toUInt64, stream)

end RandomStream
end ApiBlueprint

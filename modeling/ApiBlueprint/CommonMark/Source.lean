import ApiBlueprint.Text.Basic

/-! A text with positions in it: a position is the number of characters before it. -/

namespace ApiBlueprint.CommonMark

structure Source where
  text : Text
  size : Nat := text.length
  deriving DecidableEq, Repr

namespace Source

def positionOf (source : Source) (rest : Text) : Nat := source.size - rest.length

def slice (source : Source) (start stop : Nat) : Text := (source.text.drop start).take (stop - start)

def before? (source : Source) (position : Nat) : Option Char :=
  if position = 0 then none else source.text[position - 1]?

def runBefore (source : Source) (position : Nat) (test : Char → Bool) : Nat :=
  ((source.text.take position).reverse.takeWhile test).length

end Source
end ApiBlueprint.CommonMark

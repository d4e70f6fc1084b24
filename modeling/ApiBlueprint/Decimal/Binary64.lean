import ApiBlueprint.Decimal.Rounding

/-!
Magnitudes of finite binary64 numbers as `significand * 2 ^ exponent`, with exact arithmetic and
one rounding at the end of each operation.
-/

namespace ApiBlueprint

/-- The significand has at most 53 bits; the exponent is the smallest that this allows, and at
least -1074. -/
structure Magnitude where
  significand : Nat
  exponent : Int
  deriving DecidableEq, Repr

namespace Magnitude

def zero : Magnitude := ⟨0, -1074⟩

def shifted (value : Nat) (exponent : Int) : Nat × Nat :=
  if 0 ≤ exponent then (value <<< exponent.toNat, 1) else (value, 1 <<< (-exponent).toNat)

def toRatio (x : Magnitude) : Nat × Nat := shifted x.significand x.exponent

def quotientAt (numerator denominator : Nat) (exponent : Int) : Nat :=
  let (up, down) := shifted 1 exponent
  roundRatio (numerator * down) (denominator * up)

/-- The nearest magnitude to a ratio, without a bound above; a half goes to the even significand. -/
def ofRatio (numerator denominator : Nat) : Magnitude :=
  if numerator = 0 then zero
  else
    let estimate : Int := (numerator.log2 : Int) - denominator.log2 - 52
    let (up, down) := shifted 1 estimate
    let quotient := numerator * down / (denominator * up)
    let fitting := if quotient < Nat.pow 2 52 then estimate - 1 else estimate
    let exponent := max fitting (-1074)
    let significand := quotientAt numerator denominator exponent
    if significand = Nat.pow 2 53 then ⟨Nat.pow 2 52, exponent + 1⟩ else ⟨significand, exponent⟩

def ofNat (n : Nat) : Magnitude := ofRatio n 1

def isInfinite (x : Magnitude) : Bool := 971 < x.exponent

def mul (x y : Magnitude) : Magnitude :=
  let (a, b) := x.toRatio
  let (c, d) := y.toRatio
  ofRatio (a * c) (b * d)

def div (x y : Magnitude) : Magnitude :=
  let (a, b) := x.toRatio
  let (c, d) := y.toRatio
  ofRatio (a * d) (b * c)

def powerOfTen (n : Nat) : Magnitude := ofNat (Nat.pow 10 n)

/-- Scales by a power of ten with one rounding for each factor of at most `10 ^ 308`; `none` above
the largest finite number. -/
def scaleByTen (x : Magnitude) (exponent : Int) : Option Magnitude :=
  if exponent < -308 then
    if x.significand = 0 then some x else scaleByTen (x.div (powerOfTen 308)) (exponent + 308)
  else if exponent < 0 then some (x.div (powerOfTen (-exponent).toNat))
  else if exponent ≤ 308 then
    let product := x.mul (powerOfTen exponent.toNat)
    if product.isInfinite then none else some product
  else if x.significand = 0 then some x else none
  termination_by (-exponent).toNat
  decreasing_by omega

end Magnitude

structure Binary64 where
  negative : Bool
  magnitude : Magnitude
  deriving DecidableEq, Repr

end ApiBlueprint

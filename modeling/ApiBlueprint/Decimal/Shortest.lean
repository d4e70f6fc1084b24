import ApiBlueprint.Decimal.Binary64
import ApiBlueprint.Text.Basic

/-!
The decimal text of a binary64 number: the fewest digits that read back as the number, and the
nearest such digits.
-/

namespace ApiBlueprint

/-- `digits` before the decimal point times ten to the `exponent`. -/
structure DecimalDigits where
  digits : Nat
  exponent : Int
  deriving DecidableEq, Repr

namespace Magnitude

/-- Four times the magnitude and the ends of the interval of reals that round to it, in units of a
quarter of the last binary place. -/
structure Interval where
  low : Nat
  value : Nat
  high : Nat
  closed : Bool

def interval (x : Magnitude) : Interval :=
  let low := if x.significand = Nat.pow 2 52 && -1074 < x.exponent then 4 * x.significand - 1
    else 4 * x.significand - 2
  ⟨low, 4 * x.significand, 4 * x.significand + 2, x.significand % 2 = 0⟩

def tenTo (exponent : Int) : Nat × Nat :=
  if 0 ≤ exponent then (Nat.pow 10 exponent.toNat, 1) else (1, Nat.pow 10 (-exponent).toNat)

def leadingExponent (x : Magnitude) : Int :=
  let binary : Int := x.significand.log2 + x.exponent
  let estimate := Int.fdiv (binary * 30103) 100000
  let (numerator, denominator) := x.toRatio
  let reaches (exponent : Int) : Bool :=
    let (up, down) := tenTo exponent
    denominator * up ≤ numerator * down
  if reaches (estimate + 1) then estimate + 1
  else if reaches estimate then estimate
  else estimate - 1

def onGrid (x : Magnitude) (exponent : Int) : Option Nat :=
  let bounds := x.interval
  let (up, down) := tenTo exponent
  let (scale, unit) := shifted 1 (x.exponent - 2)
  let inside (candidate : Nat) : Bool :=
    let point := candidate * up * unit
    let low := bounds.low * scale * down
    let high := bounds.high * scale * down
    if bounds.closed then low ≤ point && point ≤ high else low < point && point < high
  let value := bounds.value * scale * down
  let step := up * unit
  let floor := value / step
  let nearest := roundRatio value step
  let other := if nearest = floor then floor + 1 else floor
  if inside nearest then some nearest else if inside other then some other else none

/-- Tries grids of `count` digits and more, `tries` of them. -/
def searchDigits (x : Magnitude) (leading : Int) : Nat → Nat → DecimalDigits
  | 0, count => ⟨x.significand, leading - count⟩
  | tries + 1, count =>
    let exponent := leading + 1 - count
    match x.onGrid exponent with
    | some digits => ⟨digits, exponent⟩
    | none => searchDigits x leading tries (count + 1)

def shortest (x : Magnitude) : DecimalDigits :=
  if x.significand = 0 then ⟨0, 0⟩ else x.searchDigits x.leadingExponent 17 1

end Magnitude

structure DecimalLayout where
  leastPositional : Int
  greatestPositional : Int

namespace DecimalLayout

def trimZeros (digits : Text) : Text := Text.dropEndWhile (· = '0') digits

def signed (exponent : Int) : Text :=
  (if exponent < 0 then '-' else '+') :: Text.ofNat exponent.natAbs

def positional (digits : Text) (point : Int) : Text :=
  if point ≤ 0 then "0.".toList ++ List.replicate (-point).toNat '0' ++ digits
  else
    let whole := point.toNat
    if digits.length ≤ whole then
      digits ++ List.replicate (whole - digits.length) '0' ++ ".0".toList
    else digits.take whole ++ '.' :: digits.drop whole

def scientific (digits : Text) (exponent : Int) : Text :=
  match digits with
  | [] => []
  | [digit] => digit :: 'e' :: signed exponent
  | digit :: rest => digit :: '.' :: rest ++ 'e' :: signed exponent

def render (layout : DecimalLayout) (number : DecimalDigits) : Text :=
  let all := Text.ofNat number.digits
  let digits := trimZeros all
  if digits.isEmpty then "0.0".toList
  else
    let point := number.exponent + all.length
    if layout.leastPositional ≤ point - 1 && point - 1 ≤ layout.greatestPositional then
      positional digits point
    else scientific digits (point - 1)

end DecimalLayout

def Binary64.render (layout : DecimalLayout) (x : Binary64) : Text :=
  let text := layout.render x.magnitude.shortest
  if x.negative then '-' :: text else text

end ApiBlueprint

/-! Rounding a ratio of naturals to the nearest natural, a half to the even neighbour. -/

namespace ApiBlueprint

def roundRatio (numerator denominator : Nat) : Nat :=
  let quotient := numerator / denominator
  let remainder := numerator % denominator
  if 2 * remainder < denominator then quotient
  else if denominator < 2 * remainder then quotient + 1
  else quotient + quotient % 2

end ApiBlueprint

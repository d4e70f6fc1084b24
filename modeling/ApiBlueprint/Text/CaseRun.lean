import ApiBlueprint.Text.Basic

/-! Runs of characters of which each has a counterpart in another case. -/

namespace ApiBlueprint

/-- Every `step`-th character from `first` to `last` has a counterpart, from `target` on. -/
structure CaseRun where
  first : Nat
  last : Nat
  step : Nat
  target : Nat
  deriving DecidableEq, Repr

namespace CaseRun

def counterpart? (run : CaseRun) (code : Nat) : Option Nat :=
  if run.first ≤ code && code ≤ run.last && (code - run.first) % run.step = 0 then
    some (run.target + (code - run.first))
  else none

def convert (runs : List CaseRun) (c : Char) : Char :=
  ((runs.findSome? fun run => run.counterpart? c.toNat).map Char.ofNat).getD c

end CaseRun
end ApiBlueprint

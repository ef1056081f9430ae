set_option autoImplicit false

/-! Case mappings of Unicode as runs of code points that move by the same distance. -/
namespace Hexaglyph

/-- The code points `first`, `first + step`, … `last`; the first maps to `target`, and the others keep
their distance from it. -/
structure CaseRun where
  first : Nat
  last : Nat
  step : Nat
  target : Nat

namespace CaseRun

def image? (run : CaseRun) (code : Nat) : Option Nat :=
  if run.first ≤ code ∧ code ≤ run.last ∧ (code - run.first) % run.step = 0 then
    some (run.target + (code - run.first))
  else none

/-- A character that is in none of the runs stays as it is. -/
def map (runs : List CaseRun) (c : Char) : Char :=
  match runs.findSome? (·.image? c.toNat) with
  | some code => Char.ofNat code
  | none => c

end CaseRun
end Hexaglyph

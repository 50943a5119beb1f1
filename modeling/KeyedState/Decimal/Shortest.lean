import KeyedState.Decimal.Binary64

/-!
# The fewest digits that read back

A number of the binary format stands for the interval of reals that round to it. `shortest` finds
the decimal with the fewest digits in that interval and, among those of that length, the one
nearest to the number itself. The search runs over the decimal grids, coarse to fine: on each it
tests the two neighbours of the number in exact arithmetic.
-/

namespace KeyedState

/-- The positive decimal `digits * 10 ^ exponent`. -/
structure Decimal where
  /-- The digits, read as one natural number. -/
  digits : Nat
  /-- The power of ten. -/
  exponent : Int
deriving DecidableEq

namespace Decimal

/-- The numerator of the decimal. -/
def num (d : Decimal) : Nat := d.digits * Nat.pow 10 d.exponent.toNat

/-- The denominator of the decimal, a power of ten. -/
def den (d : Decimal) : Nat := Nat.pow 10 (-d.exponent).toNat

/-- The same decimal without zeros at the end of its digits. -/
def trim (d : Decimal) : Decimal :=
  if h : d.digits ≠ 0 ∧ d.digits % 10 = 0 then
    trim ⟨d.digits / 10, d.exponent + 1⟩
  else d
termination_by d.digits
decreasing_by
  have := h.1
  show d.digits / 10 < d.digits
  omega

end Decimal

namespace Binary64

/-- Whether the decimal lies in the interval of reals that round to the magnitude of `x`. The
ends, halfway to the neighbours, belong to it exactly when the significand is even. -/
def readsBack (x : Binary64) (d : Decimal) : Bool :=
  -- everything is measured in quarters of a unit in the last place
  let lower := if x.significand = leastFull ∧ -1074 < x.exponent then 1 else 2
  let value := d.num * (4 * x.den)
  let unit := d.den * Nat.pow 2 x.exponent.toNat
  let lo := (4 * x.significand - lower) * unit
  let hi := (4 * x.significand + 2) * unit
  if x.significand % 2 = 0 then lo ≤ value && value ≤ hi else lo < value && value < hi

/-- The least `k` for which the magnitude of `x` is below `10 ^ k`, searched upwards from `k`. -/
def scaleFrom (x : Binary64) (k : Int) : Nat → Int
  | 0 => k
  | n + 1 =>
    if x.num * Nat.pow 10 (-k).toNat < x.den * Nat.pow 10 k.toNat then k else scaleFrom x (k + 1) n

/-- The least `k` for which the magnitude of `x` is below `10 ^ k`. -/
def scale (x : Binary64) : Int :=
  -- three tenths of the binary logarithm undershoot the decimal one by at most a few units
  let bits : Int := (x.significand.log2 : Int) + x.exponent
  scaleFrom x (Int.fdiv (bits * 3) 10 - 40) 80

/-- The nearer of the two neighbours of `x` on the grid `10 ^ e`, among those that read back. -/
def onGrid? (x : Binary64) (e : Int) : Option Decimal :=
  let num := x.num * Nat.pow 10 (-e).toNat
  let den := x.den * Nat.pow 10 e.toNat
  let below : Decimal := ⟨num / den, e⟩
  let above : Decimal := ⟨num / den + 1, e⟩
  match x.readsBack below, x.readsBack above with
  | true, true =>
    let twice := 2 * (num % den)
    if twice < den ∨ (twice = den ∧ below.digits % 2 = 0) then some below else some above
  | true, false => some below
  | false, true => some above
  | false, false => none

/-- The shortest decimal that reads back to the magnitude of a number that is not zero. Seventeen
digits always suffice; the exact value stands at the end of the search. -/
def shortest (x : Binary64) : Decimal :=
  let k := x.scale
  let found := (List.range 17).findSome? fun n => x.onGrid? (k - (n + 1 : Nat))
  (found.getD ⟨x.num * Nat.pow 10 (-x.exponent).toNat / x.den, -((-x.exponent).toNat : Int)⟩).trim

end Binary64

end KeyedState

import KeyedState.Decimal.Integer
import KeyedState.Json.Basic

/-!
# Number literals

A number literal without point and exponent is an exact integer when it fits 64 bits, signed or
unsigned. Any other is read as a floating-point number: the digits that fit an unsigned 64-bit
integer make up the significand, which is rounded and then scaled by the power of ten in steps of
correctly rounded operations. A magnitude beyond the format is no value.
-/

namespace KeyedState

namespace Json

/-- The parts of a number literal. -/
structure Literal where
  /-- Whether a minus sign stands in front. -/
  negative : Bool
  /-- The digits before the point. -/
  whole : List Nat
  /-- The digits after the point; no point when there is none. -/
  fraction : List Nat
  /-- The exponent, with its sign. -/
  exponent : Option (Bool × List Nat)
deriving DecidableEq

namespace Literal

/-- The number of the digits, most significant first. -/
def ofDigits (ds : List Nat) : Nat := ds.foldl (fun n d => 10 * n + d) 0

/-- The literal as an exact integer. Zero with a minus sign is none, as it is not the integer
zero. -/
def integer? (l : Literal) : Option Int :=
  if l.fraction.isEmpty && l.exponent.isNone then
    let n := ofDigits l.whole
    if l.negative then (if n = 0 ∨ maxI64 + 1 < n then none else some (-(n : Int)))
    else if n ≤ maxU64 then some n else none
  else none

/-- Takes up digits while the significand fits: the significand, and the digits left. -/
def accumulate (significand : Nat) : List Nat → Nat × List Nat
  | [] => (significand, [])
  | d :: ds =>
    if 10 * significand + d ≤ maxU64 then accumulate (10 * significand + d) ds
    else (significand, d :: ds)

/-- The exponents that are read at all. -/
def exponentLimit : Nat := 2147483647

/-- A power of ten of the format. -/
def powerOfTen (e : Nat) : Binary64 := (Binary64.ofRatio? false (Nat.pow 10 e) 1).getD default

/-- Scales a number below `2 ^ 64` by a power of ten, in steps of at most `10 ^ 308` downwards. -/
def scale (x : Binary64) (e : Int) : Option Binary64 :=
  if 0 ≤ e then
    if x.isZero then some x
    else if e ≤ 308 then x.mul? (powerOfTen e.toNat)
    else none
  else if x.isZero then some x
  else if -308 ≤ e then x.div? (powerOfTen (-e).toNat)
  -- two whole steps end at zero
  else (x.div? (powerOfTen 308)).bind fun y =>
    if y.isZero then some y
    else if -616 ≤ e then y.div? (powerOfTen (-e - 308).toNat)
    else some (.zero x.negative)

/-- The literal as a floating-point number. -/
def real? (l : Literal) : Option Binary64 :=
  let (significand, dropped) := accumulate 0 l.whole
  let (significand, ignored) := accumulate significand l.fraction
  let places : Int := dropped.length - (l.fraction.length - ignored.length : Nat)
  let rounded := (Binary64.ofRatio? l.negative significand 1).getD default
  match l.exponent with
  | none => scale rounded places
  | some (minus, digits) =>
    let e := ofDigits digits
    if exponentLimit < e then
      if significand ≠ 0 ∧ ¬ minus then none else some (.zero l.negative)
    else scale rounded (if minus then places - e else places + e)

/-- The value of a literal; none when its magnitude is too large. -/
def value? (l : Literal) : Option Json :=
  match l.integer? with
  | some n => some (.int n)
  | none => l.real?.map .real

end Literal

end Json

end KeyedState

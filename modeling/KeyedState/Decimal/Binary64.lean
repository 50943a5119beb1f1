/-!
# Finite binary floating-point numbers

A `Binary64` is a sign and a magnitude `significand * 2 ^ exponent` in the canonical form of the
64-bit format: 53 bits of significand, exponents from -1074 to 971, and the full 53 bits wherever
the exponent is above the least one. All arithmetic is exact on naturals and then rounded once,
to the nearest number of the format, a half going to the even significand.
-/

namespace KeyedState

namespace Binary64

/-- The least significand with all 53 bits, `2 ^ 52`. -/
def leastFull : Nat := 4503599627370496

/-- The significand has all its 53 bits, or the exponent is the least one. -/
def Canonical (significand : Nat) (exponent : Int) : Prop :=
  (significand < leastFull ∧ exponent = -1074) ∨
    (leastFull ≤ significand ∧ significand < 2 * leastFull ∧ -1074 ≤ exponent ∧ exponent ≤ 971)

instance (m : Nat) (q : Int) : Decidable (Canonical m q) :=
  inferInstanceAs (Decidable ((m < leastFull ∧ q = -1074) ∨
    (leastFull ≤ m ∧ m < 2 * leastFull ∧ -1074 ≤ q ∧ q ≤ 971)))

end Binary64

/-- A finite number of the 64-bit binary format, zeros of both signs included. -/
structure Binary64 where
  /-- Whether the sign is a minus. -/
  negative : Bool
  /-- The significand, below `2 ^ 53`. -/
  significand : Nat
  /-- The exponent of two. -/
  exponent : Int
  /-- The representation is canonical. -/
  canonical : Binary64.Canonical significand exponent
deriving DecidableEq

namespace Binary64

/-- The quotient of two naturals, rounded to the nearest natural, a half to the even one. -/
def roundHalfEven (num den : Nat) : Nat :=
  let q := num / den
  let r := num % den
  if 2 * r < den then q
  else if den < 2 * r then q + 1
  else if q % 2 = 0 then q else q + 1

/-- The zero of the given sign. -/
def zero (negative : Bool) : Binary64 where
  negative
  significand := 0
  exponent := -1074
  canonical := .inl ⟨by decide, rfl⟩

instance : Inhabited Binary64 := ⟨zero false⟩

/-- The numerator of `num / den / 2 ^ q`. -/
def scaledNum (num : Nat) (q : Int) : Nat := num * Nat.pow 2 (-q).toNat

/-- The denominator of `num / den / 2 ^ q`. -/
def scaledDen (den : Nat) (q : Int) : Nat := den * Nat.pow 2 q.toNat

/-- The exponent at which the significand of `num / den` has 53 bits, but at least the least
exponent of the format. -/
def exponentOf (num den : Nat) : Int :=
  let q : Int := (num.log2 : Int) - den.log2 - 52
  -- the quotient now has 52 or 53 bits before the point
  let q := if scaledNum num q / scaledDen den q < leastFull then q - 1 else q
  max q (-1074)

/-- The number of the format nearest to `num / den`, or `none` when that is too large. -/
def ofRatio? (negative : Bool) (num den : Nat) : Option Binary64 :=
  if num = 0 then some (zero negative)
  else
    let q := exponentOf num den
    let m := roundHalfEven (scaledNum num q) (scaledDen den q)
    -- rounding up may have reached the next power of two
    let (m, q) := if m = 2 * leastFull then (leastFull, q + 1) else (m, q)
    if h : Canonical m q then some ⟨negative, m, q, h⟩ else none

/-- The numerator of the magnitude. -/
def num (x : Binary64) : Nat := x.significand * Nat.pow 2 x.exponent.toNat

/-- The denominator of the magnitude, a power of two. -/
def den (x : Binary64) : Nat := Nat.pow 2 (-x.exponent).toNat

/-- Whether the number is a zero, of either sign. -/
def isZero (x : Binary64) : Bool := x.significand = 0

/-- The product of a number and a positive one, rounded; `none` when it is too large. -/
def mul? (x y : Binary64) : Option Binary64 :=
  ofRatio? x.negative (x.num * y.num) (x.den * y.den)

/-- The quotient of a number by a positive one, rounded; `none` when it is too large. -/
def div? (x y : Binary64) : Option Binary64 :=
  ofRatio? x.negative (x.num * y.den) (x.den * y.num)

/-- The magnitude rounded to a natural, a half going up. -/
def roundedMagnitude (x : Binary64) : Nat :=
  (2 * x.num + x.den) / (2 * x.den)

end Binary64

end KeyedState

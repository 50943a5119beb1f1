import KeyedState.Decimal.Shortest

/-!
# Layout of decimal digits

Which digits stand for a number is settled by `Binary64.shortest`; a `Layout` says how they are
laid out: for which exponents positionally and otherwise with a power of ten, and whether a whole
number keeps a fraction `.0`.
-/

namespace KeyedState

/-- The decisions of a number format. Exponents are those of the leading digit. -/
structure Decimal.Layout where
  /-- The exponents written positionally run from here; without a bound, all small ones do. -/
  leastPositional : Option Int
  /-- The exponents written with a power of ten start here; without a bound, none does. -/
  leastScientific : Option Int
  /-- A number without a fraction is written with `.0`. -/
  pointZero : Bool

namespace Decimal

/-- Digits and point of `digits * 10 ^ exponent`, all places written out. -/
def positional (pointZero : Bool) (d : Decimal) : String :=
  let text := Nat.toDigits 10 d.digits
  if 0 ≤ d.exponent then
    String.ofList (text ++ List.replicate d.exponent.toNat '0') ++ (if pointZero then ".0" else "")
  else
    let places := (-d.exponent).toNat
    let text := List.replicate (places + 1 - text.length) '0' ++ text
    let (whole, fraction) := text.splitAt (text.length - places)
    String.ofList whole ++ "." ++ String.ofList fraction

/-- The exponent of the leading digit. -/
def leadingExponent (d : Decimal) : Int :=
  d.exponent + (Nat.toDigits 10 d.digits).length - 1

/-- One digit, the others after a point, and the power of ten with its sign. -/
def scientific (d : Decimal) : String :=
  let e := d.leadingExponent
  let mantissa := match Nat.toDigits 10 d.digits with
    | [] => ""
    | [c] => String.ofList [c]
    | c :: cs => String.ofList (c :: '.' :: cs)
  mantissa ++ "e" ++ (if e < 0 then "-" else "+") ++ toString e.natAbs

/-- The digits laid out as the layout says. -/
def render (n : Layout) (d : Decimal) : String :=
  let e := d.leadingExponent
  if n.leastPositional.all (· ≤ e) && n.leastScientific.all (e < ·) then
    d.positional n.pointZero
  else d.scientific

end Decimal

/-- The shortest digits that read back, laid out as the layout says, after the sign. -/
def Binary64.render (n : Decimal.Layout) (x : Binary64) : String :=
  (if x.negative then "-" else "") ++
    if x.isZero then (if n.pointZero then "0.0" else "0") else x.shortest.render n

end KeyedState

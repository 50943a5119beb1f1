import KeyedState.Decimal.Layout
import KeyedState.Decimal.Integer
import KeyedState.Text.Search

/-!
# Numbers of settings

A setting that is a floating-point number may be infinite or no number at all. `FloatSetting.parse?`
reads the usual decimal notation and the words for the special values.
-/

namespace KeyedState

/-- A floating-point number, infinities and the value that is no number included. -/
inductive FloatSetting where
  /-- A finite number. -/
  | finite (x : Binary64)
  /-- An infinity. -/
  | infinite (negative : Bool)
  /-- No number. -/
  | nan
deriving DecidableEq

namespace FloatSetting

/-- How finite numbers are written: all places, and no point behind a whole number. -/
def layout : Decimal.Layout := ⟨none, none, false⟩

/-- The text of a number. -/
def text : FloatSetting → String
  | .finite x => x.render layout
  | .infinite negative => if negative then "-inf" else "inf"
  | .nan => "NaN"

/-- The number rounded to an unsigned 64-bit integer, a half going up. What is below or above the
range becomes its end, and no number becomes zero. -/
def toU64 : FloatSetting → U64
  | .finite x =>
    if x.negative then .zero else (U64.ofInt? x.roundedMagnitude).getD .largest
  | .infinite negative => if negative then .zero else .largest
  | .nan => .zero

/-- Whether the number differs from zero. -/
def isNonzero : FloatSetting → Bool
  | .finite x => !x.isZero
  | _ => true

/-- The digits at the start, and what follows them. -/
def digits : List Char → List Nat × List Char
  | [] => ([], [])
  | c :: cs =>
    match Integer.digit? c with
    | none => ([], c :: cs)
    | some d =>
      let (ds, rest) := digits cs
      (d :: ds, rest)

/-- The value of an exponent: what follows the letter, to its end. -/
def exponent? (cs : List Char) : Option Int :=
  let (minus, cs) := match cs with
    | '-' :: cs => (true, cs)
    | '+' :: cs => (false, cs)
    | cs => (false, cs)
  match digits cs with
  | ([], _) => none
  | (ds, []) =>
    let n : Nat := ds.foldl (fun n d => 10 * n + d) 0
    some (if minus then -(n : Int) else n)
  | _ => none

/-- The number nearest to a significand times a power of ten. -/
def ofDecimal (negative : Bool) (ds : List Nat) (e : Int) : FloatSetting :=
  let n : Nat := ds.foldl (fun n d => 10 * n + d) 0
  let size : Int := (Nat.toDigits 10 n).length + e
  if n = 0 ∨ size < -400 then .finite (.zero negative)
  else if 400 < size then .infinite negative
  else match Binary64.ofRatio? negative (n * Nat.pow 10 e.toNat) (Nat.pow 10 (-e).toNat) with
    | some x => .finite x
    | none => .infinite negative

/-- Reads a number from behind its sign. -/
def parseMagnitude? (negative : Bool) (cs : List Char) : Option FloatSetting :=
  let word := String.ofList cs
  if sameAsciiCase word "inf" || sameAsciiCase word "infinity" then some (.infinite negative)
  else if sameAsciiCase word "nan" then some .nan
  else
    let (whole, cs) := digits cs
    let (fraction, cs) := match cs with
      | '.' :: cs => digits cs
      | cs => ([], cs)
    if whole.isEmpty && fraction.isEmpty then none
    else
      let e := match cs with
        | [] => some 0
        | c :: cs => if c = 'e' ∨ c = 'E' then exponent? cs else none
      e.map fun e => ofDecimal negative (whole ++ fraction) (e - fraction.length)

/-- Reads a number. -/
def parse? (text : String) : Option FloatSetting :=
  match text.toList with
  | '-' :: cs => parseMagnitude? true cs
  | '+' :: cs => parseMagnitude? false cs
  | cs => parseMagnitude? false cs

end FloatSetting

end KeyedState

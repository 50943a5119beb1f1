import KeyedState.Decimal.Integer

/-!
# Durations

A `Duration` is a number of nanoseconds; its whole seconds fit an unsigned 64-bit integer.
`Duration.text` writes it in the largest unit of which it has one.
-/

namespace KeyedState

/-- The nanoseconds of one second. -/
def nanosPerSecond : Nat := 1000000000

/-- A length of time. -/
structure Duration where
  /-- All nanoseconds. -/
  nanos : Nat
  /-- The whole seconds fit 64 bits. -/
  nanos_lt : nanos < 18446744073709551616 * nanosPerSecond
deriving DecidableEq

namespace Duration

/-- The whole seconds. -/
def seconds (d : Duration) : Nat := d.nanos / nanosPerSecond

/-- The nanoseconds beyond the whole seconds. -/
def subsecond (d : Duration) : Nat := d.nanos % nanosPerSecond

/-- The duration of so many nanoseconds, if it is not too long. -/
def ofNanos? (n : Nat) : Option Duration :=
  if h : n < 18446744073709551616 * nanosPerSecond then some ⟨n, h⟩ else none

/-- The duration of whole seconds and further nanoseconds, if it is not too long. -/
def of? (seconds nanos : Nat) : Option Duration := ofNanos? (seconds * nanosPerSecond + nanos)

/-- No time at all. -/
def zero : Duration := ⟨0, by decide⟩

instance : Inhabited Duration := ⟨zero⟩

/-- The duration of a 64-bit number of seconds. -/
def ofSeconds (n : U64) : Duration :=
  ⟨n.val * nanosPerSecond, Nat.mul_lt_mul_of_pos_right n.isLt (by decide)⟩

/-- The duration of a 64-bit number of milliseconds. -/
def ofMillis (n : U64) : Duration :=
  ⟨n.val * 1000000, by have := n.isLt; unfold nanosPerSecond; omega⟩

/-- A number in decimal digits, with the leading zeros of a given width. -/
def padded (width n : Nat) : List Char :=
  let ds := Nat.toDigits 10 n
  List.replicate (width - ds.length) '0' ++ ds

/-- A whole number of units and a fraction with so many places, without zeros at its end. -/
def decimal (whole fraction places : Nat) : String :=
  let ds := ((padded places fraction).reverse.dropWhile (· == '0')).reverse
  toString whole ++ if fraction = 0 then "" else "." ++ String.ofList ds

/-- The duration in the largest unit of which it has one. -/
def text (d : Duration) : String :=
  if 1000000000 ≤ d.nanos then decimal (d.nanos / 1000000000) (d.nanos % 1000000000) 9 ++ "s"
  else if 1000000 ≤ d.nanos then decimal (d.nanos / 1000000) (d.nanos % 1000000) 6 ++ "ms"
  else if 1000 ≤ d.nanos then decimal (d.nanos / 1000) (d.nanos % 1000) 3 ++ "µs"
  else decimal d.nanos 0 0 ++ "ns"

end Duration

end KeyedState

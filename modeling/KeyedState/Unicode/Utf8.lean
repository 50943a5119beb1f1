import KeyedState.Unicode.CharSet

/-!
# Code points as bytes

`Utf8.encode` gives the bytes of a code point. `Utf8.strings` cuts intervals of code points into
parts that are products of intervals of bytes: such a part holds the code points whose first byte
is in the first interval, whose second byte is in the second one, and so on.
-/

namespace KeyedState

namespace Utf8

/-- The bytes of a code point. -/
def encode (n : Nat) : List Nat :=
  if n < 0x80 then [n]
  else if n < 0x800 then [0xC0 + n / 64, 0x80 + n % 64]
  else if n < 0x10000 then [0xE0 + n / 4096, 0x80 + n / 64 % 64, 0x80 + n % 64]
  else [0xF0 + n / 262144, 0x80 + n / 4096 % 64, 0x80 + n / 64 % 64, 0x80 + n % 64]

/-- The number of bytes of a code point. -/
def width (n : Nat) : Nat := (encode n).length

/-- Where an interval of code points must be cut before it is a product of intervals of bytes: the
last code point of the first part. -/
def cut? (lo hi : Nat) : Option Nat :=
  (([0x7F, 0x7FF, 0xFFFF].find? fun n => lo ≤ n && n < hi)).or <|
    [64, 4096, 262144].findSome? fun m =>
      if hi < 0x80 ∨ lo / m = hi / m then none
      else if lo % m ≠ 0 then some (lo / m * m + (m - 1))
      else if hi % m ≠ m - 1 then some (hi / m * m - 1)
      else none

/-- The parts of an interval of code points, each as intervals of bytes. `fuel` bounds the number
of cuts that are made within each other. -/
def parts : Nat → Nat → Nat → List (List (Nat × Nat))
  | 0, _, _ => []
  | fuel + 1, lo, hi =>
    match cut? lo hi with
    | none => [(encode lo).zip (encode hi)]
    | some n => parts fuel lo n ++ parts fuel (n + 1) hi

/-- The parts of intervals of code points, each as intervals of bytes. -/
def strings (ranges : List (Nat × Nat)) : List (List (Nat × Nat)) :=
  ranges.flatMap fun r => parts 32 r.1 r.2

end Utf8

/-- The intervals of the set without the code points that are reserved for pairs of code units;
disjoint, not adjacent and in increasing order. -/
def CharSet.scalarRanges (s : CharSet) : List (Nat × Nat) :=
  (s.diff (.range 0xD800 0xDFFF)).normalRanges

end KeyedState

/-!
# Integers read from text

An integer is an optional sign and one or more ASCII digits, and it must fit a range. Digits are
taken one at a time, so of a character that is no digit and a value out of range the one that
comes first is reported.
-/

namespace KeyedState

/-- Why a text is no integer of the wanted range. -/
inductive IntegerFault where
  /-- There is no character. -/
  | empty
  /-- A character is no digit, or the sign is not allowed or stands alone. -/
  | invalidDigit
  /-- The value exceeds the range. -/
  | tooLarge
  /-- The value is below the range. -/
  | tooSmall
deriving DecidableEq

/-- The wording of a fault. -/
def IntegerFault.message : IntegerFault → String
  | .empty => "cannot parse integer from empty string"
  | .invalidDigit => "invalid digit found in string"
  | .tooLarge => "number too large to fit in target type"
  | .tooSmall => "number too small to fit in target type"

namespace Integer

/-- The value of an ASCII digit. -/
def digit? (c : Char) : Option Nat :=
  if '0' ≤ c ∧ c ≤ '9' then some (c.toNat - 48) else none

/-- Reads digits after a prefix of value `acc`; `overflow` is reported once the value exceeds
`limit`. -/
def readDigits (limit : Nat) (overflow : IntegerFault) :
    (acc : Nat) → acc ≤ limit → List Char → Except IntegerFault { n : Nat // n ≤ limit }
  | acc, h, [] => .ok ⟨acc, h⟩
  | acc, _, c :: cs =>
    match digit? c with
    | none => .error .invalidDigit
    | some d =>
      if h : 10 * acc + d ≤ limit then readDigits limit overflow (10 * acc + d) h cs
      else .error overflow

/-- Reads a natural of at most `limit`, with an optional plus sign. -/
def readNat (limit : Nat) : List Char → Except IntegerFault { n : Nat // n ≤ limit }
  | [] => .error .empty
  | ['+'] => .error .invalidDigit
  | '+' :: cs => readDigits limit .tooLarge 0 (Nat.zero_le _) cs
  | cs => readDigits limit .tooLarge 0 (Nat.zero_le _) cs

/-- Reads an integer from `-(limit + 1)` to `limit`, with an optional sign. -/
def readInt (limit : Nat) : List Char → Except IntegerFault Int
  | [] => .error .empty
  | ['+'] => .error .invalidDigit
  | ['-'] => .error .invalidDigit
  | '+' :: cs => (readDigits limit .tooLarge 0 (Nat.zero_le _) cs).map fun n => n.val
  | '-' :: cs => (readDigits (limit + 1) .tooSmall 0 (Nat.zero_le _) cs).map fun n => -(n.val : Int)
  | cs => (readDigits limit .tooLarge 0 (Nat.zero_le _) cs).map fun n => n.val

end Integer

/-- An unsigned 32-bit integer. -/
abbrev U32 := Fin 4294967296

/-- An unsigned 64-bit integer. -/
abbrev U64 := Fin 18446744073709551616

/-- The largest unsigned 64-bit integer. -/
def maxU64 : Nat := 18446744073709551615

/-- The largest signed 64-bit integer. -/
def maxI64 : Nat := 9223372036854775807

namespace U64

/-- The integer zero. -/
def zero : U64 := ⟨0, by decide⟩

/-- The integer one. -/
def one : U64 := ⟨1, by decide⟩

/-- The largest integer. -/
def largest : U64 := ⟨maxU64, by decide⟩

/-- The 64-bit integer of the same value, if there is one. -/
def ofInt? (n : Int) : Option U64 :=
  if h : 0 ≤ n ∧ n.toNat < 18446744073709551616 then some ⟨n.toNat, h.2⟩ else none

theorem ofInt?_eq_some_iff {n : Int} {u : U64} : ofInt? n = some u ↔ n = u.val := by
  have hu := u.isLt
  unfold ofInt?
  constructor
  · intro h
    split at h
    · rename_i hn
      cases h
      exact (Int.toNat_of_nonneg hn.1).symm
    · cases h
  · intro h
    subst h
    have hn : 0 ≤ (u.val : Int) ∧ (u.val : Int).toNat < 18446744073709551616 := by omega
    rw [dif_pos hn]
    rfl

/-- One more, where that fits. -/
def next (n : U64) : U64 :=
  if h : n.val + 1 < 18446744073709551616 then ⟨n.val + 1, h⟩ else n

/-- Counting on stops at the largest integer. -/
theorem val_next (n : U64) : n.next.val = min maxU64 (n.val + 1) := by
  have := n.isLt
  unfold next maxU64
  split
  · simp only; omega
  · omega

end U64

/-- Reads an unsigned 64-bit integer. -/
def readU64 (text : String) : Except IntegerFault U64 :=
  (Integer.readNat maxU64 text.toList).map fun n => ⟨n.val, Nat.lt_succ_of_le n.property⟩

/-- Reads a signed 64-bit integer. -/
def readI64 (text : String) : Except IntegerFault Int := Integer.readInt maxI64 text.toList

end KeyedState

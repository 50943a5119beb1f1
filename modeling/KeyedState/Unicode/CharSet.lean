/-!
# Sets of code points

A `CharSet` is a finite union of intervals of code points, and membership is membership in one of
them. Complements are taken within the code points up to `CharSet.last`; the other set operations
come from union and complement. `CharSet.ofText` and `CharSet.ofLines` read the intervals of a
table from text such as `41-5A 61-7A AA`.
-/

namespace KeyedState

/-- A set of code points, as a union of closed intervals in any order. -/
structure CharSet where
  /-- The first and last member of each interval. -/
  ranges : List (Nat × Nat)
deriving DecidableEq

namespace CharSet

/-- The largest code point. -/
def last : Nat := 0x10FFFF

/-- Whether a code point belongs to the set. -/
def contains (s : CharSet) (n : Nat) : Bool := s.ranges.any fun r => r.1 ≤ n && n ≤ r.2

/-- Whether a character belongs to the set. -/
def has (s : CharSet) (c : Char) : Bool := s.contains c.toNat

/-- The set without members. -/
def empty : CharSet := ⟨[]⟩

instance : EmptyCollection CharSet := ⟨empty⟩

/-- The code points from `lo` to `hi`. -/
def range (lo hi : Nat) : CharSet := ⟨[(lo, hi)]⟩

/-- The set of one character. -/
def single (c : Char) : CharSet := range c.toNat c.toNat

/-- All code points. -/
def full : CharSet := range 0 last

/-- The members of either set. -/
def union (s t : CharSet) : CharSet := ⟨s.ranges ++ t.ranges⟩

/-- The members of any of the sets. -/
def unionAll (ss : List CharSet) : CharSet := ⟨ss.flatMap ranges⟩

/-- What intervals in increasing order of their first members leave out, from `next` on. -/
def gaps (next : Nat) : List (Nat × Nat) → List (Nat × Nat)
  | [] => if next ≤ last then [(next, last)] else []
  | (lo, hi) :: rs =>
    if next < lo then (next, lo - 1) :: gaps (max next (hi + 1)) rs
    else gaps (max next (hi + 1)) rs

/-- Puts an interval before the first of others that does not begin earlier. -/
def placed (r : Nat × Nat) : List (Nat × Nat) → List (Nat × Nat)
  | [] => [r]
  | r' :: rs => if r.1 ≤ r'.1 then r :: r' :: rs else r' :: placed r rs

/-- The intervals in increasing order of their first members. -/
def sorted (s : CharSet) : List (Nat × Nat) := s.ranges.foldr placed []

/-- The code points that are not in the set. -/
def compl (s : CharSet) : CharSet := ⟨gaps 0 s.sorted⟩

/-- The members of both sets. -/
def inter (s t : CharSet) : CharSet := (s.compl.union t.compl).compl

/-- The members of the first set that are not in the second. -/
def diff (s t : CharSet) : CharSet := s.inter t.compl

/-- The members of exactly one of the sets. -/
def symmDiff (s t : CharSet) : CharSet := (s.diff t).union (t.diff s)

/-- Whether every member is an ASCII code point. -/
def isAscii (s : CharSet) : Bool := s.ranges.all fun r => r.2 < 0x80

/-- The intervals of the set, disjoint, not adjacent and in increasing order. -/
def normalRanges (s : CharSet) : List (Nat × Nat) := s.compl.compl.ranges

/-! ## Membership -/

@[simp] theorem contains_union (s t : CharSet) (n : Nat) :
    (s.union t).contains n = (s.contains n || t.contains n) := by
  simp [contains, union]

@[simp] theorem contains_range (lo hi n : Nat) :
    (range lo hi).contains n = (decide (lo ≤ n) && decide (n ≤ hi)) := by
  simp [contains, range]

@[simp] theorem contains_empty (n : Nat) : (∅ : CharSet).contains n = false := rfl

@[simp] theorem has_single (c d : Char) : (single c).has d = (d == c) := by
  rw [has, single, contains_range, Bool.eq_iff_iff]
  simp only [Bool.and_eq_true, decide_eq_true_eq, beq_iff_eq]
  exact ⟨fun h => Char.toNat_inj.1 (by omega), fun h => by subst h; omega⟩

/-! ## Text form -/

/-- The value of a hexadecimal digit; any other character counts as zero. -/
def hexValue (c : Char) : Nat :=
  if '0' ≤ c ∧ c ≤ '9' then c.toNat - 48
  else if 'A' ≤ c ∧ c ≤ 'F' then c.toNat - 55
  else if 'a' ≤ c ∧ c ≤ 'f' then c.toNat - 87
  else 0

/-- Reads intervals, after the first member `lo?` of the one at hand, if that has a dash, and the
value `n` of the digits since. -/
def readRanges (lo? : Option Nat) (n : Nat) : List Char → List (Nat × Nat)
  | [] => [(lo?.getD n, n)]
  | ' ' :: cs => (lo?.getD n, n) :: readRanges none 0 cs
  | '-' :: cs => readRanges (some n) 0 cs
  | c :: cs => readRanges lo? (16 * n + hexValue c) cs

/-- The set of the intervals of a text: hexadecimal first and last members with a dash between,
or one member alone, separated by single spaces. -/
def ofText (text : String) : CharSet := ⟨readRanges none 0 text.toList⟩

/-- The set of the intervals of lines of text. -/
def ofLines (lines : List String) : CharSet := unionAll (lines.map ofText)

/-- Reads groups, after the members `done` of the one at hand, in reverse, and the value `n` of
the digits since. -/
def readGroups (done : List Nat) (n : Nat) : List Char → List (List Nat)
  | [] => [(n :: done).reverse]
  | ' ' :: cs => (n :: done).reverse :: readGroups [] 0 cs
  | '-' :: cs => readGroups (n :: done) 0 cs
  | c :: cs => readGroups done (16 * n + hexValue c) cs

/-- The groups of lines of text: hexadecimal members with dashes between, separated by single
spaces. -/
def groupsOfLines (lines : List String) : List (List Nat) :=
  lines.flatMap fun line => readGroups [] 0 line.toList

end CharSet

end KeyedState

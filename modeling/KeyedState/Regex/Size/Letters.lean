import KeyedState.Regex.Size.Basic
import Std.Data.TreeMap

/-!
# Sizes of sets of characters

The automaton of a set of characters reads the bytes of a character, in order or, for an automaton
that runs backwards, from the last byte to the first. Equal states are made only once, as far as a
`Memo` remembers them: it has a fixed number of slots, and a new state takes the slot of whatever
was there. Which slot it is depends on the numbers of the states that follow, so equal sets may
take unequal numbers of states at different places of an automaton.
-/

namespace KeyedState.Regex.Letters

/-- A number that is mixed with others to find a slot. -/
def mix (h : UInt64) (n : Nat) : UInt64 := (h ^^^ n.toUInt64) * 1099511628211

/-- The slot of numbers, of so many slots. -/
def slot (slots : Nat) (ns : List Nat) : Nat :=
  (ns.foldl mix 14695981039346656037).toNat % slots

/-- The states that are remembered by what they are: by slot, what is there and its number. -/
abbrev Memo (α : Type) := Std.TreeMap Nat (α × Nat)

namespace Memo

variable {α : Type} [BEq α]

/-- The number of a state that is remembered in a slot. -/
def get? (m : Memo α) (slot : Nat) (a : α) : Option Nat :=
  match Std.TreeMap.get? m slot with
  | some (b, id) => if a == b then some id else none
  | none => none

end Memo

/-! ## From the first byte to the last -/

namespace Forward

/-- The number of slots. -/
def slots : Nat := 10000

/-- A state: the intervals of bytes that it reads and the numbers of the states behind. -/
abbrev Node := List (Nat × Nat × Nat)

/-- A state that is being made: its ways on, the last first, and the last interval of bytes, if
the state behind it is not made yet. -/
structure Open where
  /-- The ways on, the last first. -/
  ways : Node := []
  /-- The last interval of bytes. -/
  pending : Option (Nat × Nat) := none

/-- The state once the state behind its last interval has a number. -/
def Open.settle (o : Open) (next : Nat) : Open :=
  match o.pending with
  | none => o
  | some (lo, hi) => ⟨(lo, hi, next) :: o.ways, none⟩

/-- An automaton that grows, and what it remembers. -/
structure Growth where
  /-- The size. -/
  size : Size
  /-- The states that are remembered. -/
  memo : Memo Node := ∅

/-- The number of a state, which is made if it is not remembered. -/
def make (ways : Node) (g : Growth) : Nat × Growth :=
  let node := ways.reverse
  let k := slot slots (node.flatMap fun (lo, hi, next) => [lo, hi, next])
  match g.memo.get? k node with
  | some id => (id, g)
  | none =>
    let id := g.size.states
    (id, ⟨g.size.byBytes node.length, g.memo.insert k (node, id)⟩)

/-- Makes the states of a path, the last first; `target` is behind the last. -/
def close (target : Nat) : List Open → Growth → Nat × Growth
  | [], g => (target, g)
  | o :: path, g =>
    let (next, g) := close target path g
    make (o.settle next).ways g

/-- Makes the states of a path behind the first ones, of which there are `keep` and one more. -/
def closeBehind (target : Nat) : Nat → List Open → Growth → List Open × Growth
  | _, [], g => ([], g)
  | 0, o :: path, g =>
    let (next, g) := close target path g
    ([o.settle next], g)
  | keep + 1, o :: path, g =>
    let (path, g) := closeBehind target keep path g
    (o :: path, g)

/-- How many intervals a path has in common with a part, from the first on. -/
def commonLength : List (Nat × Nat) → List Open → Nat
  | r :: rs, o :: path => if o.pending = some r then commonLength rs path + 1 else 0
  | _, _ => 0

/-- A path that goes on with a part: its last state gets the first interval of the part. -/
def extend : List (Nat × Nat) → List Open → List Open
  | rs, [] => rs.map fun r => { pending := some r }
  | [], [o] => [o]
  | r :: rs, [o] => { o with pending := some r } :: extend rs []
  | rs, o :: path => o :: extend rs path

/-- Adds a part to the path at hand. -/
def addString (target : Nat) (path : List Open) (string : List (Nat × Nat)) (g : Growth) :
    List Open × Growth :=
  let n := commonLength string path
  let (path, g) := closeBehind target n path g
  (extend (string.drop n) path, g)

/-- Grows an automaton by the parts of a set. -/
def grow (strings : List (List (Nat × Nat))) (s : Size) : Size :=
  let target := s.states
  let (path, g) := strings.foldl (fun (path, g) string => addString target path string g)
    ([{}], { size := s.state })
  (close target path g).2.size

end Forward

/-! ## From the last byte to the first -/

namespace Backward

/-- The number of slots. -/
def slots : Nat := 1000

/-- A state: the number of the state behind it and the interval of bytes that it reads. -/
abbrev Node := Nat × Nat × Nat

/-- An automaton that grows, and what it remembers. -/
structure Growth where
  /-- The size. -/
  size : Size
  /-- The states that are remembered. -/
  memo : Memo Node := ∅

/-- The number of the state that reads an interval before another state, and the automaton with
it. -/
def addRange : Nat × Growth → Nat × Nat → Nat × Growth
  | (next, g), (lo, hi) =>
    let k := slot slots [next, lo, hi]
    match g.memo.get? k (next, lo, hi) with
    | some id => (id, g)
    | none =>
      let id := g.size.states
      (id, ⟨g.size.state, g.memo.insert k ((next, lo, hi), id)⟩)

/-- Grows an automaton by the parts of a set: a branch into all of them, and what is behind. -/
def grow (strings : List (List (Nat × Nat))) (s : Size) : Size :=
  let target := s.states + 1
  let start : Growth := { size := (s.branch strings.length).state }
  (strings.foldl (fun g string => (string.foldl addRange (target, g)).2) start).size

end Backward

end KeyedState.Regex.Letters

/-!
# Sizes of automata

The automaton of a pattern is a list of states, numbered from zero on. A `Size` counts what an
automaton takes while it grows: its states and the bytes of the ways out of them. It may take
`Size.limit` bytes in all.
-/

namespace KeyedState.Regex

/-- What an automaton takes. -/
structure Size where
  /-- The number of states, which is also the number of the next one. -/
  states : Nat := 0
  /-- The bytes of the ways out of branching states. -/
  ways : Nat := 0
deriving DecidableEq, Inhabited

namespace Size

/-- The bytes of a state. -/
def stateBytes : Nat := 32

/-- The bytes of a way out of a state that branches freely. -/
def branchBytes : Nat := 4

/-- The bytes of a way out of a state that branches by the byte that comes next. -/
def edgeBytes : Nat := 8

/-- The bytes that an automaton may take: ten times `2 ^ 20`. -/
def limit : Nat := 10485760

/-- All bytes. -/
def bytes (s : Size) : Nat := stateBytes * s.states + s.ways

/-- Whether an automaton is not too large. -/
def fits (s : Size) : Bool := s.bytes ≤ limit

/-- One more state with a fixed way out. -/
def state (s : Size) : Size := { s with states := s.states + 1 }

/-- One more state that branches freely into so many ways. -/
def branch (n : Nat) (s : Size) : Size := ⟨s.states + 1, s.ways + branchBytes * n⟩

/-- One more state that branches into so many ways by the byte that comes next. -/
def byBytes (n : Nat) (s : Size) : Size := ⟨s.states + 1, s.ways + edgeBytes * n⟩

/-- Grows an automaton so many times, but not once it is too large. -/
def growTimes (grow : Size → Size) : Nat → Size → Size
  | 0, s => s
  | n + 1, s => if s.fits then growTimes grow n (grow s) else s

end Size

end KeyedState.Regex

import KeyedState.Time.Instant

/-!
# A clock that moves when told

The state of a clock is the instant it shows. `Instant.advance` moves it forward and stops at the
last representable instant. A clock may also be set to an earlier one; `ClockMove.AreForward` says
of moves that none of them leads back.
-/

namespace KeyedState

namespace Instant

/-- The instant a duration later, or the last one where the sum is not representable. -/
def advance (now : Instant) (by_ : Duration) : Instant := (now.add? by_).getD max

end Instant

/-- A move of a clock. -/
inductive ClockMove where
  /-- Forward by a duration. -/
  | advance (by_ : Duration)
  /-- To an instant, which may be earlier. -/
  | set (target : Instant)
deriving DecidableEq

namespace ClockMove

/-- The instant that the clock shows after the move. -/
def apply (now : Instant) : ClockMove → Instant
  | .advance d => now.advance d
  | .set i => i

/-- The instants that the clock shows from the start on, one more than there are moves. -/
def readings (now : Instant) : List ClockMove → List Instant
  | [] => [now]
  | m :: ms => now :: readings (m.apply now) ms

/-- Whether moves one after the other never lead back, from what the clock shows at first. -/
def AreForward : Instant → List ClockMove → Prop
  | _, [] => True
  | now, m :: ms => (m.apply now).before now = false ∧ AreForward (m.apply now) ms

instance decidableAreForward : (now : Instant) → (ms : List ClockMove) →
    Decidable (AreForward now ms)
  | _, [] => .isTrue trivial
  | now, m :: ms =>
    have := decidableAreForward (m.apply now) ms
    inferInstanceAs (Decidable ((m.apply now).before now = false ∧ AreForward (m.apply now) ms))

/-- Whether a clock is never moved back while things happen to a state one after the other, each of
which moves the clock that the state has. -/
def AreForwardThrough {ε σ : Type} (clock : σ → Instant) (moves : ε → List ClockMove)
    (after : ε → σ → σ) : List ε → σ → Prop
  | [], _ => True
  | e :: es, s => AreForward (clock s) (moves e) ∧
      AreForwardThrough clock moves after es (after e s)

instance decidableAreForwardThrough {ε σ : Type} (clock : σ → Instant)
    (moves : ε → List ClockMove) (after : ε → σ → σ) : (es : List ε) → (s : σ) →
    Decidable (AreForwardThrough clock moves after es s)
  | [], _ => .isTrue trivial
  | e :: es, s =>
    have := decidableAreForwardThrough clock moves after es (after e s)
    inferInstanceAs (Decidable (AreForward (clock s) (moves e) ∧
      AreForwardThrough clock moves after es (after e s)))

end ClockMove

end KeyedState

import KeyedState.Store.Request

/-!
# Histories of a store in memory

A `History` is what happens to a store in memory one after the other: calls, moves of its clock,
and purges. `History.run` runs it and lists the results of the calls. The wall clock is not the
clock of the store, so each call says what the wall clock shows.
-/

namespace KeyedState

/-- What happens to a store in memory. -/
inductive StoreEvent where
  /-- A call, while the wall clock shows an instant. -/
  | call (wall : Instant) (r : Request)
  /-- A move of the clock of the store. -/
  | move (m : ClockMove)
  /-- A purge. -/
  | purge
deriving DecidableEq

/-- The results of the calls of a history. -/
abbrev Results := List (Request × Except StateError Reply)

/-- What happens one after the other. -/
abbrev History := List StoreEvent

namespace StoreEvent

/-- The result of an event, if it is a call, and the store after it. -/
def run (store : ContextStore) : StoreEvent → MemoryStore Context →
    Option (Request × Except StateError Reply) × MemoryStore Context
  | .call wall r, s =>
    let (result, s) := (r.call store).run MemoryStore.backend wall s
    (some (r, result), s)
  | .move m, s => (none, s.move m)
  | .purge, s => (none, s.purge.1)

/-- How an event moves the clock of a store. -/
def moves : StoreEvent → List ClockMove
  | .move m => [m]
  | _ => []

end StoreEvent

namespace History

/-- The results of the calls of a history, in order, and the store after it. -/
def run (store : ContextStore) : History → MemoryStore Context → Results × MemoryStore Context
  | [], s => ([], s)
  | e :: es, s =>
    let (result, s) := e.run store s
    let (results, s) := run store es s
    (result.toList ++ results, s)

/-- A history may be run in two parts. -/
theorem run_append (store : ContextStore) (es fs : History) (s : MemoryStore Context) :
    run store (es ++ fs) s =
      ((run store es s).1 ++ (run store fs (run store es s).2).1,
        (run store fs (run store es s).2).2) := by
  induction es generalizing s with
  | nil => rfl
  | cons e es ih => simp [run, ih]

/-- Whether no event of a history moves the clock of the store back. -/
def IsForward (store : ContextStore) (h : History) (s : MemoryStore Context) : Prop :=
  ClockMove.AreForwardThrough MemoryStore.now StoreEvent.moves (fun e s => (e.run store s).2) h s

end History

end KeyedState

import KeyedState.Store.Interleaving
import KeyedState.Store.KeyLocks

/-!
# Threads that take locks step by step

A `Workers` value is a state of threads that share a store, with the locks as they are: where the
procedure of a thread takes the lock of a key or releases it, the thread goes through the steps of
`KeyLocks`, and steps of other threads may come between them. Between locks a thread does what it
does in `Threads`.

`Workers.move?` is one move of one thread, and `Workers.run?` runs a schedule of moves, during which
the storage may also change by itself.
-/

namespace KeyedState

/-- Threads that share a storage with state `σ` and the locks of its keys. -/
structure Workers (σ : Type) where
  /-- The storage. -/
  storage : σ
  /-- The locks. -/
  locks : KeyLocks
  /-- The threads, which are named by their places. -/
  threads : List Thread

namespace Procedure

variable {α : Type}

/-- Whether the next thing to do is to take or to release a lock. -/
def isAtLock : Procedure α → Bool
  | .lock .. => true
  | .unlock .. => true
  | _ => false

/-- What is left of a procedure after a step with the lock that it takes or releases next, if that
is a step by which this lock is taken or released. -/
def afterLock? : Procedure α → LockStep → Option (Procedure α)
  | .lock key next, .enter key' => if key' = key then some (.lock key next) else none
  | .lock key next, .sleep => some (.lock key next)
  | .lock key next, .wake => some (.lock key next)
  | .lock _ next, .take => some next
  | .unlock key next, .release => some (.unlock key next)
  | .unlock key next, .notify _ => some (.unlock key next)
  | .unlock key next, .tidy => some (.unlock key next)
  | .unlock _ next, .leave => some next
  | _, _ => none

end Procedure

namespace Workers

/-- A move of a thread. -/
inductive Move where
  /-- It begins its next call, takes a step of the call at hand that is no step with a lock, or
  notes a result, while the wall clock shows an instant. -/
  | work (wall : Instant)
  /-- It takes a step with a lock. -/
  | lock (step : LockStep)
deriving DecidableEq

/-- A turn of a schedule. -/
inductive Turn (σ : Type) where
  /-- A move of a thread. -/
  | thread (t : Nat) (move : Move)
  /-- The storage changes by itself, as it does when a clock moves or old entries are purged. -/
  | storage (s : σ)

variable {σ : Type}

/-- Threads that have not made any of their requests. -/
def start (storage : σ) (programs : List (List Request)) : Workers σ where
  storage := storage
  locks := .start programs.length
  threads := programs.map fun p => { waiting := p }

/-- Whether no thread has anything left to do. -/
def isFinished (m : Workers σ) : Bool := m.threads.all Thread.isFinished

/-- A step of thread `t` that is no step with a lock. -/
def work? (b : Backend σ) (store : ContextStore) (wall : Instant) (t : Nat) (m : Workers σ) :
    Option (Workers σ) := do
  let thread ← m.threads[t]?
  if thread.running.any fun (_, p) => p.isAtLock then none
  else
    let r ← Threads.step? b store wall t { storage := m.storage, threads := m.threads }
    return { m with storage := r.storage, threads := r.threads }

/-- A step of thread `t` with a lock. -/
def lock? (step : LockStep) (t : Nat) (m : Workers σ) : Option (Workers σ) := do
  let thread ← m.threads[t]?
  let (r, p) ← thread.running
  let p ← p.afterLock? step
  let locks ← m.locks.step? t step
  return { m with locks, threads := m.threads.set t { thread with running := some (r, p) } }

/-- The state after a move of thread `t`, if the thread can make that move. -/
def move? (b : Backend σ) (store : ContextStore) (t : Nat) (m : Workers σ) :
    Move → Option (Workers σ)
  | .work wall => m.work? b store wall t
  | .lock step => m.lock? step t

/-- The state after a turn, if the turn can be taken. -/
def take? (b : Backend σ) (store : ContextStore) (m : Workers σ) : Turn σ → Option (Workers σ)
  | .thread t move => m.move? b store t move
  | .storage s => some { m with storage := s }

/-- The state after all turns of a schedule, if each can be taken. -/
def run? (b : Backend σ) (store : ContextStore) (m : Workers σ) (schedule : List (Turn σ)) :
    Option (Workers σ) :=
  schedule.foldlM (take? b store) m

/-- Whether a state can come about when threads make the given requests of a store. -/
def IsReachable (b : Backend σ) (store : ContextStore) (storage : σ)
    (programs : List (List Request)) (m : Workers σ) : Prop :=
  ∃ schedule, (start storage programs).run? b store schedule = some m

end Workers

end KeyedState

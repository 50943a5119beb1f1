import KeyedState.Store.Request

/-!
# Threads that share a store

Threads make calls of one store at the same time. The steps of their procedures interleave in any
order, but a thread that asks for the lock of a key waits until no thread holds it. A `Threads`
value is a state of such a run; `Threads.step?` is one step of one thread, and `Threads.run?` runs
a schedule, which says whose turn it is and when the clock moves or the storage is purged.
-/

namespace KeyedState

/-- A thread: the call at hand, the requests that it has still to make, and what its calls have
returned so far, the last one first. -/
structure Thread where
  /-- What is left of the call at hand. -/
  running : Option (Request × Procedure (Except StateError Reply)) := none
  /-- The requests to make. -/
  waiting : List Request
  /-- The results. -/
  results : List (Request × Except StateError Reply) := []

/-- Whether nothing is left to do. -/
def Thread.isFinished (t : Thread) : Bool := t.running.isNone && t.waiting.isEmpty

/-- Threads that share a storage with state `σ`. -/
structure Threads (σ : Type) where
  /-- The storage. -/
  storage : σ
  /-- The keys whose locks are held, each with its holder. -/
  holders : KeyMap Nat := ∅
  /-- The threads, which are named by their places. -/
  threads : List Thread

namespace Threads

variable {σ : Type}

/-- Threads that have not made any of their requests. -/
def start (storage : σ) (programs : List (List Request)) : Threads σ :=
  { storage, threads := programs.map fun p => { waiting := p } }

/-- Whether no thread has anything left to do. -/
def isFinished (m : Threads σ) : Bool := m.threads.all Thread.isFinished

/-- The step of a procedure that thread `t` takes: what is left of it, the storage and the holders
after the step. There is no step where the lock asked for is held, or at the end. -/
def advance? {α : Type} (b : Backend σ) (wall : Instant) (t : Nat) (storage : σ)
    (holders : KeyMap Nat) : Procedure α → Option (Procedure α × σ × KeyMap Nat)
  | .done _ => none
  | .wallClock next => some (next wall, storage, holders)
  | .lock key next =>
    if holders.contains key then none else some (next, storage, holders.insert key t)
  | .unlock key next => some (next, storage, holders.erase key)
  | .get key next =>
    let (r, storage) := b.get key storage
    some (next r, storage, holders)
  | .put key value ttl next =>
    let (r, storage) := b.put key value ttl storage
    some (next r, storage, holders)
  | .remove key next =>
    let (r, storage) := b.remove key storage
    some (next r, storage, holders)
  | .keys next =>
    let (r, storage) := b.keys storage
    some (next r, storage, holders)

/-- One step of thread `t` while the wall clock shows an instant: it begins its next call, takes
a step of the call at hand, or notes the result of a call that has ended. -/
def step? (b : Backend σ) (store : ContextStore) (wall : Instant) (t : Nat) (m : Threads σ) :
    Option (Threads σ) :=
  match m.threads[t]? with
  | none => none
  | some thread =>
    match thread.running, thread.waiting with
    | none, [] => none
    | none, r :: rs =>
      let thread := { thread with running := some (r, (r.call store).steps), waiting := rs }
      some { m with threads := m.threads.set t thread }
    | some (r, .done result), _ =>
      let thread := { thread with running := none, results := (r, result) :: thread.results }
      some { m with threads := m.threads.set t thread }
    | some (r, p), _ =>
      (advance? b wall t m.storage m.holders p).map fun (p, storage, holders) =>
        let thread := { thread with running := some (r, p) }
        { storage, holders, threads := m.threads.set t thread }

end Threads

/-- A turn of a schedule over a store in memory. -/
inductive Turn where
  /-- A step of a thread, while the wall clock shows an instant. -/
  | thread (t : Nat) (wall : Instant)
  /-- A move of the clock of the store. -/
  | move (m : ClockMove)
  /-- A purge of the store. -/
  | purge
deriving DecidableEq

namespace Threads

/-- The state after a turn, if the turn can be taken. -/
def take? (store : ContextStore) (m : Threads (MemoryStore Context)) :
    Turn → Option (Threads (MemoryStore Context))
  | .thread t wall => m.step? MemoryStore.backend store wall t
  | .move c => some { m with storage := m.storage.move c }
  | .purge => some { m with storage := m.storage.purge.1 }

/-- The state after all turns of a schedule, if each can be taken. -/
def run? (store : ContextStore) (m : Threads (MemoryStore Context)) (schedule : List Turn) :
    Option (Threads (MemoryStore Context)) :=
  schedule.foldlM (take? store) m

end Threads

end KeyedState

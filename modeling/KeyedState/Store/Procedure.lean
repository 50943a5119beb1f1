import KeyedState.Context.Basic
import KeyedState.Error
import KeyedState.Storage.Memory

/-!
# Procedures of the store

A `Procedure` is what a call does, step by step: it reads the wall clock, takes and releases the
lock of a key, and asks a storage to get, put, remove and list. It says nothing of what the storage
answers, so one procedure runs over any storage (`Procedure.run`), and its steps can be
interleaved with those of other calls.

A `Call` is a procedure that may fail.
-/

namespace KeyedState

/-- A sequence of steps that ends with a result. -/
inductive Procedure (α : Type) where
  /-- The result. -/
  | done (result : α)
  /-- Reads the wall clock. -/
  | wallClock (next : Instant → Procedure α)
  /-- Waits for the lock of a key and takes it. -/
  | lock (key : String) (next : Procedure α)
  /-- Releases the lock of a key. -/
  | unlock (key : String) (next : Procedure α)
  /-- Gets the value under a key. -/
  | get (key : String) (next : Except StorageError (Option Context) → Procedure α)
  /-- Puts a value under a key, with a time to live. -/
  | put (key : String) (value : Context) (ttl : Option Duration)
      (next : Except StorageError Unit → Procedure α)
  /-- Removes the value under a key. -/
  | remove (key : String) (next : Except StorageError Unit → Procedure α)
  /-- Lists the keys. -/
  | keys (next : Except StorageError (List String) → Procedure α)

namespace Procedure

variable {α β : Type}

/-- One procedure and then another. -/
def andThen (p : Procedure α) (f : α → Procedure β) : Procedure β :=
  match p with
  | .done a => f a
  | .wallClock next => .wallClock fun now => (next now).andThen f
  | .lock key next => .lock key (next.andThen f)
  | .unlock key next => .unlock key (next.andThen f)
  | .get key next => .get key fun r => (next r).andThen f
  | .put key value ttl next => .put key value ttl fun r => (next r).andThen f
  | .remove key next => .remove key fun r => (next r).andThen f
  | .keys next => .keys fun r => (next r).andThen f

instance : Monad Procedure where
  pure := .done
  bind := andThen

@[simp] theorem andThen_done (p : Procedure α) : p.andThen .done = p := by
  induction p <;> simp_all [andThen]

/-- Runs a procedure while holding the lock of a key. -/
def withLock (key : String) (p : Procedure α) : Procedure α :=
  .lock key (p.andThen fun a => .unlock key (.done a))

end Procedure

/-- A storage with state `σ`, by what it answers to each question. -/
structure Backend (σ : Type) where
  /-- Gets the value under a key. -/
  get : String → σ → Except StorageError (Option Context) × σ
  /-- Puts a value under a key, with a time to live. -/
  put : String → Context → Option Duration → σ → Except StorageError Unit × σ
  /-- Removes the value under a key. -/
  remove : String → σ → Except StorageError Unit × σ
  /-- Lists the keys. -/
  keys : σ → Except StorageError (List String) × σ

/-- The storage in memory. -/
def MemoryStore.backend : Backend (MemoryStore Context) where
  get key s := (.ok (s.get? key), s)
  put key value ttl s :=
    match s.put key value ttl with
    | .ok s' => (.ok (), s')
    | .error e => (.error e, s)
  remove key s := (.ok (), s.remove key)
  keys s := (.ok s.keys, s)

/-- An order in which the visible keys of a store in memory are listed, which may be any and may
depend on anything in the store. -/
structure KeyOrder where
  /-- The visible keys of a store, as they are listed. -/
  list : MemoryStore Context → List String
  /-- Each visible key is listed once, and no other. -/
  perm : ∀ s, (list s).Perm s.keys

namespace KeyOrder

/-- The keys increase. -/
def increasing : KeyOrder := ⟨MemoryStore.keys, fun _ => .refl _⟩

/-- The keys decrease. -/
def decreasing : KeyOrder := ⟨fun s => s.keys.reverse, fun s => s.keys.reverse_perm⟩

/-- The storage in memory that lists its keys in an order. -/
def backend (order : KeyOrder) : Backend (MemoryStore Context) :=
  { MemoryStore.backend with keys := fun s => (.ok (order.list s), s) }

end KeyOrder

/-- Runs a procedure alone, so that every lock is free, while the wall clock shows one time. -/
def Procedure.run {σ α : Type} (b : Backend σ) (wall : Instant) : Procedure α → σ → α × σ
  | .done a, s => (a, s)
  | .wallClock next, s => (next wall).run b wall s
  | .lock _ next, s => next.run b wall s
  | .unlock _ next, s => next.run b wall s
  | .get key next, s => let (r, s) := b.get key s; (next r).run b wall s
  | .put key value ttl next, s => let (r, s) := b.put key value ttl s; (next r).run b wall s
  | .remove key next, s => let (r, s) := b.remove key s; (next r).run b wall s
  | .keys next, s => let (r, s) := b.keys s; (next r).run b wall s

@[simp] theorem Procedure.run_andThen {σ α β : Type} (b : Backend σ) (wall : Instant)
    (p : Procedure α) (f : α → Procedure β) (s : σ) :
    (p.andThen f).run b wall s = (f (p.run b wall s).1).run b wall (p.run b wall s).2 := by
  induction p generalizing s <;> simp_all [andThen, run]

/-! ## Calls -/

/-- A procedure that may fail. -/
abbrev Call (α : Type) := ExceptT StateError Procedure α

namespace Call

variable {α β : Type}

/-- The steps of a call. -/
def steps (c : Call α) : Procedure (Except StateError α) := ExceptT.run c

/-- A failure. -/
def fail (e : StateError) : Call α := ExceptT.mk (.done (.error e))

/-- A result that may be a failure of the configuration. -/
def check (r : Except ConfigurationError α) : Call α :=
  ExceptT.mk (.done (r.mapError .configuration))

/-- A result that may be a failure. -/
def lift (r : Except StateError α) : Call α := ExceptT.mk (.done r)

/-- The time that the wall clock shows. -/
def wallClock : Call Instant := ExceptT.mk (.wallClock fun now => .done (.ok now))

/-- The value under a key. -/
def get (key : String) : Call (Option Context) :=
  ExceptT.mk (.get key fun r => .done (r.mapError .storage))

/-- Puts a value under a key. -/
def put (key : String) (value : Context) (ttl : Option Duration) : Call Unit :=
  ExceptT.mk (.put key value ttl fun r => .done (r.mapError .storage))

/-- Removes the value under a key. -/
def remove (key : String) : Call Unit :=
  ExceptT.mk (.remove key fun r => .done (r.mapError .storage))

/-- The keys. -/
def keys : Call (List String) := ExceptT.mk (.keys fun r => .done (r.mapError .storage))

/-- Makes a call while holding the lock of a key, which is released even if the call fails. -/
def withLock (key : String) (c : Call α) : Call α := ExceptT.mk (Procedure.withLock key c.steps)

/-- Makes a call alone. -/
def run {σ : Type} (b : Backend σ) (wall : Instant) (c : Call α) (s : σ) :
    Except StateError α × σ :=
  c.steps.run b wall s

end Call

end KeyedState

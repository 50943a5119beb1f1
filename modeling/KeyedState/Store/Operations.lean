import KeyedState.Regex.Pattern
import KeyedState.Settings.Basic
import KeyedState.Store.Procedure

/-!
# Operations of the store

The calls by which contexts are written, deleted and read. Each change of a context gets and puts
it under the lock of its id, and everything that can be wrong with a call's configuration is
noticed before the first step that changes anything.
-/

namespace KeyedState

/-- A store of contexts, by what distinguishes one from another. -/
structure ContextStore where
  /-- The time to live of writes that carry none. -/
  defaultTtl : Option Duration := none
deriving DecidableEq

namespace ContextStore

/-- The store that settings ask for. -/
def ofSettings (s : Settings) : ContextStore := ⟨s.defaultTtl⟩

/-- Fails for an id without characters. -/
def validateId (id : String) : Except ConfigurationError Unit :=
  if id.isEmpty then .error .emptyContextId else .ok ()

/-- Fails for a time to live whose end, counted from the given instant, is no instant. -/
def validateTtlAt (now : Instant) (ttl : Duration) : Except ConfigurationError Unit :=
  match now.add? ttl with
  | some _ => .ok ()
  | none => .error (.invalidTtl ttl "expiry is out of range")

/-- Fails for a time to live whose end, by the wall clock, is no instant. -/
def validateTtl : Option Duration → Call Unit
  | none => pure ()
  | some ttl => do Call.check (validateTtlAt (← Call.wallClock) ttl)

/-- Creates or updates a context. Properties are merged into the present ones, a row is inserted,
and the time to live starts anew. The first write of a context counts as no update. -/
def record (store : ContextStore) (id : String) (properties : List (String × String))
    (row : Option ListOperation) (ttl : Option Duration) : Call Context := do
  Call.check (validateId id)
  let ttl := ttl.or store.defaultTtl
  validateTtl ttl
  Call.withLock id do
    let stored ← Call.get id
    let c := Context.record id stored ⟨properties, row, ttl⟩
    Call.put id c ttl
    return c

/-- Deletes a context, if it exists. -/
def delete (id : String) : Call Unit := do
  Call.check (validateId id)
  Call.withLock id (Call.remove id)

/-- Deletes contexts one after the other. -/
def deleteEach : List String → Call Unit
  | [] => pure ()
  | id :: ids => do
    delete id
    deleteEach ids

/-- Deletes the listed contexts. All ids are checked before the first is deleted. -/
def deleteAll (ids : List String) : Call Unit := do
  Call.check (ids.forM validateId)
  deleteEach ids

/-- Removes the keys that a pattern accepts, one after the other, and counts them. -/
def removeAccepted (p : WholePattern) (count : Nat) : List String → Call Nat
  | [] => return count
  | id :: ids =>
    if p.accepts id then do
      Call.withLock id (Call.remove id)
      removeAccepted p (count + 1) ids
    else removeAccepted p count ids

/-- Deletes the contexts whose ids a pattern accepts, and counts them. The ids are listed once, at
the start. -/
def deleteMatching (pattern : String) : Call Nat := do
  let p ← Call.check (WholePattern.compile pattern)
  removeAccepted p 0 (← Call.keys)

/-- Deletes one row of a context, and says whether there was one to delete. The time to live
starts anew only where a row is deleted. -/
def deleteRow (id : String) (choice : ListDeletion) : Call Bool := do
  Call.check (validateId id)
  Call.withLock id do
    match (← Call.get id).bind (·.deleteRow? choice) with
    | none => return false
    | some c => do
      Call.put id c c.expiry
      return true

/-- The context of an id, if it exists. -/
def get (id : String) : Call (Option Context) := do
  Call.check (validateId id)
  Call.get id

/-- Whether a context exists. -/
def has (id : String) : Call Bool := do return (← get id).isSome

/-- The contexts of the ids that still exist, one after the other. -/
def collect (found : KeyMap Context) : List String → Call (KeyMap Context)
  | [] => return found
  | id :: ids => do
    match ← Call.get id with
    | none => collect found ids
    | some c => collect (found.insert id c) ids

/-- All contexts, by id. -/
def snapshot : Call (KeyMap Context) := do collect ∅ (← Call.keys)

end ContextStore

end KeyedState

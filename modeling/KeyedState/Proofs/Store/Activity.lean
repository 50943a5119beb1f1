import KeyedState.Matching.Match
import KeyedState.Proofs.Storage.Passing
import KeyedState.Proofs.Store.Alone
import KeyedState.Proofs.Store.Life

/-!
# Calls in a store whose clock does not stand still

The clock of a store moves while a call is being made, and the store may be purged at any moment. A
`RestlessStore` is a store in memory with what happens to it before each of the questions that a
call is going to ask. It is a storage like any other that keeps a store in memory, so the equations
of `MemoryHost` hold for it.

An `Activity` is what happens to one store in memory from the point of view of somebody who makes
calls, one after the other: a call of the store, a match, or something between two calls.
-/

namespace KeyedState

open MemoryStore (Lasts)

/-- A store in memory and what happens to it before each of the next questions. -/
structure RestlessStore where
  /-- The store. -/
  store : MemoryStore Context
  /-- The interludes before each question. -/
  interludes : List (List Interlude) := []

namespace RestlessStore

/-- The store when the next question is asked. -/
def next (s : RestlessStore) : RestlessStore :=
  ⟨(s.interludes.headD []).foldl MemoryStore.pass s.store, s.interludes.tail⟩

/-- The store in memory that answers, and lists its keys in an order. -/
def host (order : KeyOrder) : MemoryHost RestlessStore where
  store := store
  next := next
  withStore s t := { s with store := t }
  list s := order.list s.store

/-- A store in memory to which something happens before each question. -/
abbrev backend (order : KeyOrder) : Backend RestlessStore := (host order).backend

/-- Whether the clock is not going to be moved back. -/
def IsForward (s : RestlessStore) : Prop :=
  ClockMove.AreForward s.store.now (Interlude.moves s.interludes.flatten)

theorem IsForward.head_tail {s : RestlessStore} (h : s.IsForward) :
    ClockMove.AreForward s.store.now
      (Interlude.moves (s.interludes.headD []) ++ Interlude.moves s.interludes.tail.flatten) := by
  obtain ⟨store, interludes⟩ := s
  cases interludes with
  | nil => exact h
  | cons is rest =>
    rw [← Interlude.moves_append]
    exact h

/-- What lasts still holds when the next question is asked. -/
theorem IsForward.next {s : RestlessStore} (h : s.IsForward) {P : MemoryStore Context → Prop}
    (hP : Lasts P) (hs : P s.store) : P s.next.store ∧ s.next.IsForward :=
  hP.passAll h.head_tail hs

/-- What lasts still holds after any number of questions. -/
theorem IsForward.iterate {s : RestlessStore} (h : s.IsForward) {P : MemoryStore Context → Prop}
    (hP : Lasts P) (hs : P s.store) (n : Nat) :
    P (RestlessStore.next^[n] s).store ∧ (RestlessStore.next^[n] s).IsForward := by
  induction n generalizing s with
  | zero => exact ⟨hs, h⟩
  | succ n ih =>
    obtain ⟨hnext, hf⟩ := h.next hP hs
    exact ih hf hnext

/-! ## Calls -/

section

open ContextStore (validateId ttlFits)

variable (order : KeyOrder) (store : ContextStore) (wall : Instant) (s : RestlessStore)

theorem run_record (id : String) (properties : List (String × String))
    (row : Option ListOperation) (ttl : Option Duration) :
    (store.record id properties row ttl).run (backend order) wall s =
      match validateId id, ttlFits wall (ttl.or store.defaultTtl) with
      | .error e, _ => (.error (.configuration e), s)
      | .ok (), .error e => (.error (.configuration e), s)
      | .ok (), .ok () =>
        match MemoryStore.deadline? s.next.next.store.now (ttl.or store.defaultTtl) with
        | .error e => (.error (.storage e), s.next.next)
        | .ok deadline =>
          let c := Context.record id (s.next.store.get? id)
            ⟨properties, row, ttl.or store.defaultTtl⟩
          (.ok c, ⟨s.next.next.store.setSlot id ⟨c, deadline⟩, s.next.next.interludes⟩) :=
  (host order).run_record store wall s id properties row ttl

theorem run_deleteRow (id : String) (choice : ListDeletion) :
    (ContextStore.deleteRow id choice).run (backend order) wall s =
      match validateId id, (s.next.store.get? id).bind (·.deleteRow? choice) with
      | .error e, _ => (.error (.configuration e), s)
      | .ok (), none => (.ok false, s.next)
      | .ok (), some c =>
        match MemoryStore.deadline? s.next.next.store.now c.expiry with
        | .error e => (.error (.storage e), s.next.next)
        | .ok deadline =>
          (.ok true, ⟨s.next.next.store.setSlot id ⟨c, deadline⟩, s.next.next.interludes⟩) :=
  (host order).run_deleteRow wall s id choice

/-- Keys that are removed one after the other may as well be removed after all that happens in
between. -/
theorem removeEach_eq (keys : List String) :
    (host order).removeEach s keys =
      ⟨(next^[keys.length] s).store.removeAll keys, (next^[keys.length] s).interludes⟩ := by
  -- a removal may come after what happens before the next question
  have hnext : ∀ (s : RestlessStore) (key : String) (n : Nat),
      next^[n] ⟨s.store.remove key, s.interludes⟩ =
        ⟨(next^[n] s).store.remove key, (next^[n] s).interludes⟩ := by
    intro s key n
    induction n generalizing s with
    | zero => rfl
    | succ n ih =>
      rw [Function.iterate_succ_apply, Function.iterate_succ_apply, ← ih]
      exact congrArg (fun t => next^[n] ⟨t, s.interludes.tail⟩) (MemoryStore.remove_passAll ..)
  induction keys generalizing s with
  | nil => rfl
  | cons key keys ih =>
    refine (ih ⟨s.next.store.remove key, s.next.interludes⟩).trans ?_
    rw [hnext, List.length_cons, Function.iterate_succ_apply]
    rfl

end

end RestlessStore

/-! ## Calls that only read -/

/-- A procedure that changes nothing. -/
inductive Procedure.Reads {α : Type} : Procedure α → Prop where
  | done (a : α) : Reads (.done a)
  | get {key : String} {next : Except StorageError (Option Context) → Procedure α}
    (h : ∀ r, Reads (next r)) : Reads (.get key next)
  | keys {next : Except StorageError (List String) → Procedure α} (h : ∀ r, Reads (next r)) :
    Reads (.keys next)

/-- What lasts remains so while a procedure runs that changes nothing. -/
theorem Procedure.Reads.run {α : Type} {p : Procedure α} (h : p.Reads)
    {P : MemoryStore Context → Prop} (hP : Lasts P) (order : KeyOrder) (wall : Instant)
    {s : RestlessStore} (hf : s.IsForward) (hs : P s.store) :
    P (p.run (RestlessStore.backend order) wall s).2.store := by
  induction h generalizing s with
  | done a => exact hs
  | get _ ih =>
    obtain ⟨hnext, hf⟩ := hf.next hP hs
    exact ih _ hf hnext
  | keys _ ih =>
    obtain ⟨hnext, hf⟩ := hf.next hP hs
    exact ih _ hf hnext

theorem Procedure.Reads.andThen {α β : Type} {p : Procedure α} (h : p.Reads)
    {f : α → Procedure β} (hf : ∀ a, (f a).Reads) : (p.andThen f).Reads := by
  induction h with
  | done a => exact hf a
  | get _ ih => exact .get ih
  | keys _ ih => exact .keys ih

theorem Call.reads_bind {α β : Type} {c : Call α} (h : c.steps.Reads) {f : α → Call β}
    (hf : ∀ a, (f a).steps.Reads) : (c >>= f).steps.Reads := by
  refine h.andThen fun r => ?_
  rcases r with e | a
  · exact .done _
  · exact hf a

theorem Call.reads_map {α β : Type} {c : Call α} (h : c.steps.Reads) (f : α → β) :
    (f <$> c).steps.Reads := by
  refine h.andThen fun r => ?_
  rcases r with e | a
  · exact .done _
  · exact .done _

namespace ContextStore

theorem reads_get (id : String) : (ContextStore.get id).steps.Reads :=
  Call.reads_bind (.done _) fun _ => .get fun _ => .done _

theorem reads_has (id : String) : (has id).steps.Reads :=
  Call.reads_bind (reads_get id) fun _ => .done _

theorem reads_collect (found : KeyMap Context) (ids : List String) :
    (collect found ids).steps.Reads := by
  induction ids generalizing found with
  | nil => exact .done _
  | cons id ids ih =>
    refine Call.reads_bind (.get fun _ => .done _) fun c => ?_
    rcases c with _ | c
    · exact ih found
    · exact ih (found.insert id c)

theorem reads_snapshot : snapshot.steps.Reads :=
  Call.reads_bind (.keys fun _ => .done _) fun ids => reads_collect ∅ ids

end ContextStore

theorem StateMatcher.reads_matchRequest (m : StateMatcher) (request parameters : Json) :
    (m.matchRequest request parameters).steps.Reads := by
  refine Call.reads_bind (.done _) fun question => ?_
  cases question with
  | hasNotContext template =>
    refine Call.reads_bind (.done _) fun id => Call.reads_bind ?_ fun _ => .done _
    exact ContextStore.reads_has id
  | hasContext template =>
    refine Call.reads_bind (.done _) fun id => Call.reads_bind (ContextStore.reads_get id) ?_
    rintro (_ | c)
    · exact .done _
    · exact .done _

/-! ## Activities -/

/-- What is observed of a call, and the store after it. The time of a call is that of the last
question it asks. -/
def Request.observe (store : ContextStore) (wall : Instant) (r : Request) (s : RestlessStore) :
    Observation × MemoryStore Context :=
  let (result, s) := (r.call store).run (RestlessStore.backend .increasing) wall s
  (⟨s.store.now, r, result⟩, s.store)

/-- What happens to one store in memory, from the point of view of somebody who makes calls. -/
inductive Activity where
  /-- A call of the store, while the wall clock shows an instant, with what happens to the store
  before each question that is asked. -/
  | call (wall : Instant) (interludes : List (List Interlude)) (r : Request)
  /-- A match of a request against parameters. -/
  | matching (wall : Instant) (interludes : List (List Interlude)) (m : StateMatcher)
      (request parameters : Json)
  /-- Something between two calls. -/
  | between (i : Interlude)

namespace Activity

/-- What is observed of an activity, if it is a call of the store, and the store after it. -/
def run (store : ContextStore) : Activity → MemoryStore Context →
    Option Observation × MemoryStore Context
  | .call wall interludes r, s =>
    let (o, s) := r.observe store wall ⟨s, interludes⟩
    (some o, s)
  | .matching wall interludes m request parameters, s =>
    let (_, s) := (m.matchRequest request parameters).run (RestlessStore.backend .increasing) wall
      ⟨s, interludes⟩
    (none, s.store)
  | .between i, s => (none, s.pass i)

/-- The moves of the clock during an activity. -/
def moves : Activity → List ClockMove
  | .call _ interludes _ => Interlude.moves interludes.flatten
  | .matching _ interludes _ _ _ => Interlude.moves interludes.flatten
  | .between i => Interlude.moves [i]

/-- The calls of the store that are observed, the first one first, and the store after all. -/
def runAll (store : ContextStore) : List Activity → MemoryStore Context →
    List Observation × MemoryStore Context
  | [], s => ([], s)
  | a :: as, s =>
    let (seen, s) := a.run store s
    let (rest, s) := runAll store as s
    (seen.toList ++ rest, s)

/-- Whether the clock is never moved back. -/
def AreForward (store : ContextStore) (as : List Activity) (s : MemoryStore Context) : Prop :=
  ClockMove.AreForwardThrough MemoryStore.now moves (fun a s => (a.run store s).2) as s

instance decidableAreForward (store : ContextStore) (as : List Activity)
    (s : MemoryStore Context) : Decidable (AreForward store as s) :=
  inferInstanceAs (Decidable (ClockMove.AreForwardThrough ..))

end Activity

end KeyedState

import Mathlib.Logic.Function.Iterate
import KeyedState.Proofs.Except
import KeyedState.Proofs.Storage.Live
import KeyedState.Store.Request

/-!
# Calls made alone

What a call returns and what it leaves behind when no other call is made in between. The first
section runs the constructions of calls over any storage. The second gives every call of the store
by one equation, over any storage that keeps a store in memory, whatever happens to that store
before each question (`MemoryHost`). The third has the same equations where nothing happens to it.
All that a call checks comes before its first change.
-/

namespace KeyedState

namespace Call

/-! ## Constructions of calls -/

variable {σ α β : Type} (b : Backend σ) (wall : Instant)

@[simp] theorem run_pure (a : α) (s : σ) : (pure a : Call α).run b wall s = (.ok a, s) := rfl

theorem run_bind (c : Call α) (f : α → Call β) (s : σ) :
    (c >>= f).run b wall s =
      match c.run b wall s with
      | (.ok a, s) => (f a).run b wall s
      | (.error e, s) => (.error e, s) := by
  show (Procedure.andThen c.steps (ExceptT.bindCont f)).run b wall s = _
  rw [Procedure.run_andThen]
  unfold run
  rcases c.steps.run b wall s with ⟨e | a, s'⟩
  · rfl
  · rfl

theorem run_map (c : Call α) (f : α → β) (s : σ) :
    (f <$> c).run b wall s = ((c.run b wall s).1.map f, (c.run b wall s).2) := by
  show (Procedure.andThen c.steps _).run b wall s = _
  rw [Procedure.run_andThen]
  unfold run
  rcases c.steps.run b wall s with ⟨e | a, s'⟩
  · rfl
  · rfl

theorem bind_pure_eq_map (c : Call α) (f : α → β) : (c >>= fun a => pure (f a)) = f <$> c := by
  show Procedure.andThen c.steps _ = Procedure.andThen c.steps _
  congr 1

@[simp] theorem run_check (r : Except ConfigurationError α) (s : σ) :
    (check r).run b wall s = (r.mapError .configuration, s) :=
  rfl

@[simp] theorem run_lift (r : Except StateError α) (s : σ) : (lift r).run b wall s = (r, s) := rfl

@[simp] theorem run_get (key : String) (s : σ) :
    (get key).run b wall s = ((b.get key s).1.mapError .storage, (b.get key s).2) :=
  rfl

@[simp] theorem run_put (key : String) (value : Context) (ttl : Option Duration) (s : σ) :
    (put key value ttl).run b wall s =
      ((b.put key value ttl s).1.mapError .storage, (b.put key value ttl s).2) :=
  rfl

@[simp] theorem run_remove (key : String) (s : σ) :
    (remove key).run b wall s = ((b.remove key s).1.mapError .storage, (b.remove key s).2) :=
  rfl

@[simp] theorem run_keys (s : σ) :
    keys.run b wall s = ((b.keys s).1.mapError .storage, (b.keys s).2) :=
  rfl

/-- Nobody else holds a lock, so taking and releasing it changes nothing. -/
@[simp] theorem run_withLock (key : String) (c : Call α) (s : σ) :
    (withLock key c).run b wall s = c.run b wall s := by
  show (Procedure.andThen c.steps fun a => .unlock key (.done a)).run b wall s = _
  rw [Procedure.run_andThen]
  rfl

end Call

namespace ContextStore

open Call

variable (wall : Instant)

/-- Whether the end of a time to live, counted by the wall clock, is an instant. -/
def ttlFits : Option Duration → Except ConfigurationError Unit
  | none => .ok ()
  | some ttl => validateTtlAt wall ttl

theorem run_validateTtl {σ : Type} (b : Backend σ) (ttl : Option Duration) (s : σ) :
    (validateTtl ttl).run b wall s = ((ttlFits wall ttl).mapError .configuration, s) := by
  cases ttl with
  | none => rfl
  | some ttl => rfl

/-- Ids that are checked together are in order exactly when each is. -/
theorem forM_validateId {ids : List String} :
    ids.forM validateId = .ok () ↔ ∀ id ∈ ids, validateId id = .ok () :=
  forM_eq_ok_iff

end ContextStore

/-! ## Storages that keep a store in memory -/

/-- A storage that answers from a store in memory, to which something may happen before each
question. -/
structure MemoryHost (σ : Type) where
  /-- The store in memory. -/
  store : σ → MemoryStore Context
  /-- The state when the next question is asked. -/
  next : σ → σ
  /-- The state with another store in memory. -/
  withStore : σ → MemoryStore Context → σ
  /-- The keys, as they are listed. -/
  list : σ → List String

namespace MemoryHost

variable {σ : Type} (h : MemoryHost σ)

/-- The answers of the storage. -/
def backend : Backend σ where
  get key s := (.ok ((h.store (h.next s)).get? key), h.next s)
  put key value ttl s :=
    match (h.store (h.next s)).put key value ttl with
    | .ok t => (.ok (), h.withStore (h.next s) t)
    | .error e => (.error e, h.next s)
  remove key s := (.ok (), h.withStore (h.next s) ((h.store (h.next s)).remove key))
  keys s := (.ok (h.list (h.next s)), h.next s)

/-- A store in memory by itself, to which nothing happens. -/
def still (order : KeyOrder) : MemoryHost (MemoryStore Context) :=
  ⟨id, id, fun _ s => s, order.list⟩

/-- The state after keys are removed one after the other. -/
def removeEach (s : σ) (keys : List String) : σ :=
  keys.foldl (fun s key => h.withStore (h.next s) ((h.store (h.next s)).remove key)) s

/-- The map with the values that are visible under keys when it is their turn put in. -/
def gather (found : KeyMap Context) (s : σ) : List String → KeyMap Context
  | [] => found
  | key :: keys =>
    gather ((((h.store (h.next s)).get? key).map (found.insert key)).getD found) (h.next s) keys

open Call
open ContextStore (validateId ttlFits run_validateTtl forM_validateId)

variable (store : ContextStore) (wall : Instant) (s : σ)

theorem run_record (id : String) (properties : List (String × String))
    (row : Option ListOperation) (ttl : Option Duration) :
    (store.record id properties row ttl).run h.backend wall s =
      match validateId id, ttlFits wall (ttl.or store.defaultTtl) with
      | .error e, _ => (.error (.configuration e), s)
      | .ok (), .error e => (.error (.configuration e), s)
      | .ok (), .ok () =>
        match MemoryStore.deadline? (h.store (h.next (h.next s))).now
          (ttl.or store.defaultTtl) with
        | .error e => (.error (.storage e), h.next (h.next s))
        | .ok deadline =>
          let c := Context.record id ((h.store (h.next s)).get? id)
            ⟨properties, row, ttl.or store.defaultTtl⟩
          (.ok c, h.withStore (h.next (h.next s))
            ((h.store (h.next (h.next s))).setSlot id ⟨c, deadline⟩)) := by
  unfold ContextStore.record
  simp only [run_bind, run_check, run_validateTtl, run_withLock, run_get, backend,
    MemoryStore.put_eq]
  rcases validateId id with e | ⟨⟩
  · rfl
  rcases ttlFits wall (ttl.or store.defaultTtl) with e | ⟨⟩
  · rfl
  simp only [mapError_ok, run_put, run_pure]
  rcases MemoryStore.deadline? (h.store (h.next (h.next s))).now (ttl.or store.defaultTtl)
    with e | deadline
  · rfl
  · rfl

theorem run_deleteRow (id : String) (choice : ListDeletion) :
    (ContextStore.deleteRow id choice).run h.backend wall s =
      match validateId id, ((h.store (h.next s)).get? id).bind (·.deleteRow? choice) with
      | .error e, _ => (.error (.configuration e), s)
      | .ok (), none => (.ok false, h.next s)
      | .ok (), some c =>
        match MemoryStore.deadline? (h.store (h.next (h.next s))).now c.expiry with
        | .error e => (.error (.storage e), h.next (h.next s))
        | .ok deadline =>
          (.ok true, h.withStore (h.next (h.next s))
            ((h.store (h.next (h.next s))).setSlot id ⟨c, deadline⟩)) := by
  unfold ContextStore.deleteRow
  simp only [run_bind, run_check, run_withLock, run_get, backend, MemoryStore.put_eq]
  rcases validateId id with e | ⟨⟩
  · rfl
  simp only [mapError_ok]
  rcases ((h.store (h.next s)).get? id).bind (·.deleteRow? choice) with _ | c
  · rfl
  simp only [run_bind, run_put, run_pure]
  rcases MemoryStore.deadline? (h.store (h.next (h.next s))).now c.expiry with e | deadline
  · rfl
  · rfl

theorem run_get (id : String) :
    (ContextStore.get id).run h.backend wall s =
      match validateId id with
      | .error e => (.error (.configuration e), s)
      | .ok () => (.ok ((h.store (h.next s)).get? id), h.next s) := by
  unfold ContextStore.get
  rw [run_bind, run_check]
  rcases validateId id with e | ⟨⟩
  · rfl
  · rfl

theorem run_has (id : String) :
    (ContextStore.has id).run h.backend wall s =
      match validateId id with
      | .error e => (.error (.configuration e), s)
      | .ok () => (.ok ((h.store (h.next s)).get? id).isSome, h.next s) := by
  unfold ContextStore.has
  rw [run_bind, run_get]
  rcases validateId id with e | ⟨⟩
  · rfl
  · rfl

theorem run_delete (id : String) :
    (ContextStore.delete id).run h.backend wall s =
      match validateId id with
      | .error e => (.error (.configuration e), s)
      | .ok () => (.ok (), h.removeEach s [id]) := by
  unfold ContextStore.delete
  simp only [run_bind, run_check, run_withLock]
  rcases validateId id with e | ⟨⟩
  · rfl
  · rfl

theorem run_deleteEach {ids : List String} (hids : ∀ id ∈ ids, validateId id = .ok ()) :
    (ContextStore.deleteEach ids).run h.backend wall s = (.ok (), h.removeEach s ids) := by
  induction ids generalizing s with
  | nil => rfl
  | cons id ids ih =>
    obtain ⟨hid, hids⟩ := List.forall_mem_cons.1 hids
    rw [ContextStore.deleteEach, run_bind, run_delete, hid]
    exact ih (h.removeEach s [id]) hids

theorem run_deleteAll (ids : List String) :
    (ContextStore.deleteAll ids).run h.backend wall s =
      match ids.forM validateId with
      | .error e => (.error (.configuration e), s)
      | .ok () => (.ok (), h.removeEach s ids) := by
  unfold ContextStore.deleteAll
  rw [run_bind, run_check]
  rcases hids : ids.forM validateId with e | ⟨⟩
  · rfl
  · exact h.run_deleteEach wall s (forM_validateId.1 hids)

theorem run_removeAccepted (p : WholePattern) (count : Nat) (ids : List String) :
    (ContextStore.removeAccepted p count ids).run h.backend wall s =
      (.ok (count + (ids.filter p.accepts).length), h.removeEach s (ids.filter p.accepts)) := by
  induction ids generalizing s count with
  | nil => rfl
  | cons id ids ih =>
    unfold ContextStore.removeAccepted
    by_cases hid : p.accepts id = true
    · rw [if_pos hid, List.filter_cons_of_pos hid, List.length_cons, run_bind, run_withLock]
      refine (ih (h.removeEach s [id]) (count + 1)).trans ?_
      rw [Nat.add_right_comm, Nat.add_assoc]
      rfl
    · rw [if_neg hid, List.filter_cons_of_neg hid]
      exact ih s count

theorem run_deleteMatching (pattern : String) :
    (ContextStore.deleteMatching pattern).run h.backend wall s =
      match WholePattern.compile pattern with
      | .error e => (.error (.configuration e), s)
      | .ok p =>
        (.ok ((h.list (h.next s)).filter p.accepts).length,
          h.removeEach (h.next s) ((h.list (h.next s)).filter p.accepts)) := by
  unfold ContextStore.deleteMatching
  rw [run_bind, run_check]
  rcases WholePattern.compile pattern with e | p
  · rfl
  · show (ContextStore.removeAccepted p 0 (h.list (h.next s))).run h.backend wall (h.next s) = _
    rw [run_removeAccepted, Nat.zero_add]

theorem run_collect (found : KeyMap Context) (ids : List String) :
    (ContextStore.collect found ids).run h.backend wall s =
      (.ok (h.gather found s ids), h.next^[ids.length] s) := by
  induction ids generalizing found s with
  | nil => rfl
  | cons id ids ih =>
    rw [ContextStore.collect, run_bind, Call.run_get, gather, List.length_cons,
      Function.iterate_succ_apply]
    simp only [backend, mapError_ok]
    rcases (h.store (h.next s)).get? id with _ | c
    · exact ih (h.next s) found
    · exact ih (h.next s) (found.insert id c)

theorem run_snapshot :
    ContextStore.snapshot.run h.backend wall s =
      (.ok (h.gather ∅ (h.next s) (h.list (h.next s))),
        h.next^[(h.list (h.next s)).length] (h.next s)) := by
  show (ContextStore.collect ∅ (h.list (h.next s))).run h.backend wall (h.next s) = _
  rw [run_collect]

/-- What is put in under a key, if anything is visible there. -/
theorem get?_getD_insert (found : KeyMap Context) (c : Option Context) (key key' : String) :
    ((c.map (found.insert key')).getD found).get? key =
      if key = key' then c.or (found.get? key) else found.get? key := by
  rcases c with _ | c
  · simp
  · simp

/-- A snapshot has nothing under a key that is not looked for. -/
theorem get?_gather_of_not_mem (found : KeyMap Context) {key : String} {keys : List String}
    (hkey : key ∉ keys) : (h.gather found s keys).get? key = found.get? key := by
  induction keys generalizing found s with
  | nil => rfl
  | cons key' keys ih =>
    rw [List.mem_cons, not_or] at hkey
    rw [gather, ih _ _ hkey.2, get?_getD_insert, if_neg hkey.1]

/-- Under a key that is looked for a snapshot has what is visible when it is the turn of that
key. -/
theorem exists_get?_gather {found : KeyMap Context} {key : String} {keys : List String}
    (hnodup : keys.Nodup) (hkey : key ∈ keys) (hfound : found.get? key = none) :
    ∃ n ≤ keys.length, (h.gather found s keys).get? key = (h.store (h.next^[n] s)).get? key := by
  induction keys generalizing found s with
  | nil => cases hkey
  | cons key' keys ih =>
    obtain ⟨hnot, hnodup⟩ := List.nodup_cons.1 hnodup
    rw [gather, List.length_cons]
    rcases List.mem_cons.1 hkey with rfl | hkey
    · refine ⟨1, Nat.le_add_left .., ?_⟩
      rw [get?_gather_of_not_mem _ _ _ hnot, get?_getD_insert, if_pos rfl, hfound, Option.or_none]
      rfl
    · have hne : key ≠ key' := fun h => hnot (h ▸ hkey)
      obtain ⟨n, hn, hget⟩ := ih (h.next s) hnodup hkey
        ((get?_getD_insert ..).trans ((if_neg hne).trans hfound))
      exact ⟨n + 1, Nat.succ_le_succ hn, by rw [hget, Function.iterate_succ_apply]⟩

end MemoryHost

/-! ## Calls of a store to which nothing happens -/

namespace ContextStore

variable (store : ContextStore) (wall : Instant) (s : MemoryStore Context)

theorem run_record (id : String) (properties : List (String × String))
    (row : Option ListOperation) (ttl : Option Duration) :
    (store.record id properties row ttl).run MemoryStore.backend wall s =
      match validateId id, ttlFits wall (ttl.or store.defaultTtl) with
      | .error e, _ => (.error (.configuration e), s)
      | .ok (), .error e => (.error (.configuration e), s)
      | .ok (), .ok () =>
        match MemoryStore.deadline? s.now (ttl.or store.defaultTtl) with
        | .error e => (.error (.storage e), s)
        | .ok deadline =>
          let c := Context.record id (s.get? id) ⟨properties, row, ttl.or store.defaultTtl⟩
          (.ok c, s.setSlot id ⟨c, deadline⟩) :=
  (MemoryHost.still .increasing).run_record store wall s id properties row ttl

theorem run_delete (id : String) :
    (delete id).run MemoryStore.backend wall s =
      match validateId id with
      | .error e => (.error (.configuration e), s)
      | .ok () => (.ok (), s.remove id) :=
  (MemoryHost.still .increasing).run_delete wall s id

theorem run_deleteAll (ids : List String) :
    (deleteAll ids).run MemoryStore.backend wall s =
      match ids.forM validateId with
      | .error e => (.error (.configuration e), s)
      | .ok () => (.ok (), s.removeAll ids) :=
  (MemoryHost.still .increasing).run_deleteAll wall s ids

theorem run_deleteMatching (pattern : String) :
    (deleteMatching pattern).run MemoryStore.backend wall s =
      match WholePattern.compile pattern with
      | .error e => (.error (.configuration e), s)
      | .ok p =>
        (.ok (s.keys.filter p.accepts).length, s.removeAll (s.keys.filter p.accepts)) :=
  (MemoryHost.still .increasing).run_deleteMatching wall s pattern

theorem run_deleteRow (id : String) (choice : ListDeletion) :
    (deleteRow id choice).run MemoryStore.backend wall s =
      match validateId id, (s.get? id).bind (·.deleteRow? choice) with
      | .error e, _ => (.error (.configuration e), s)
      | .ok (), none => (.ok false, s)
      | .ok (), some c =>
        match MemoryStore.deadline? s.now c.expiry with
        | .error e => (.error (.storage e), s)
        | .ok deadline => (.ok true, s.setSlot id ⟨c, deadline⟩) :=
  (MemoryHost.still .increasing).run_deleteRow wall s id choice

theorem run_get (id : String) :
    (ContextStore.get id).run MemoryStore.backend wall s =
      match validateId id with
      | .error e => (.error (.configuration e), s)
      | .ok () => (.ok (s.get? id), s) :=
  (MemoryHost.still .increasing).run_get wall s id

/-- What a read finds is the visible context. -/
theorem get?_of_run_get {wall : Instant} {s : MemoryStore Context} {id : String}
    {c : Option Context} (h : ((ContextStore.get id).run MemoryStore.backend wall s).1 = .ok c) :
    s.get? id = c := by
  rw [run_get] at h
  split at h
  · cases h
  · exact Except.ok.inj h

theorem run_has (id : String) :
    (has id).run MemoryStore.backend wall s =
      match validateId id with
      | .error e => (.error (.configuration e), s)
      | .ok () => (.ok (s.get? id).isSome, s) :=
  (MemoryHost.still .increasing).run_has wall s id

/-- The state of a store to which nothing happens is the same after any number of questions. -/
theorem next_still_iterate (order : KeyOrder) (n : Nat) :
    (MemoryHost.still order).next^[n] s = s :=
  Function.iterate_fixed rfl n

theorem run_snapshot (order : KeyOrder) :
    snapshot.run order.backend wall s =
      (.ok ((MemoryHost.still order).gather ∅ s (order.list s)), s) := by
  refine ((MemoryHost.still order).run_snapshot wall s).trans ?_
  rw [next_still_iterate]
  rfl

/-- A snapshot has the contexts that are visible, if each visible key is looked for once. -/
theorem mem_keys_gather (order : KeyOrder) {keys : List String} (hkeys : keys.Nodup)
    {key : String} :
    key ∈ ((MemoryHost.still order).gather ∅ s keys).keys ↔ key ∈ keys ∧ (s.get? key).isSome := by
  rw [KeyMap.mem_keys]
  by_cases hkey : key ∈ keys
  · obtain ⟨n, -, hget⟩ := (MemoryHost.still order).exists_get?_gather s hkeys hkey
      (KeyMap.get?_empty key)
    rw [hget, next_still_iterate]
    exact (and_iff_right hkey).symm
  · rw [MemoryHost.get?_gather_of_not_mem _ _ _ hkey]
    exact iff_of_false (by simp) fun h => hkey h.1

end ContextStore

end KeyedState

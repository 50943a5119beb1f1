import KeyedState.Proofs.Except
import KeyedState.Store.Request

/-!
# The shape of a call about one id

A call about one id does all its work in one place. It may read the wall clock once, at the start;
then it has its result, or reads the storage once without a lock, or takes the lock of its id. While
it holds the lock it asks for nothing but that id, and a change is the last thing it asks for
(`Procedure.IsGuarded`, `Procedure.IsSteady`, `Procedure.IsAtomic`).

The shapes speak of no storage and no schedule: they are what the proofs about interleavings need to
know of a call.
-/

namespace KeyedState

namespace Procedure

variable {α β : Type}

/-- What is left to do while a thread holds the lock of a key. -/
inductive IsGuarded (key : String) : Procedure α → Prop where
  | release (a : α) : IsGuarded key (.unlock key (.done a))
  | get {next : Except StorageError (Option Context) → Procedure α}
    (h : ∀ r, IsGuarded key (next r)) : IsGuarded key (.get key next)
  | put {value : Context} {ttl : Option Duration} {next : Except StorageError Unit → Procedure α}
    (h : ∀ r, ∃ a, next r = .unlock key (.done a)) : IsGuarded key (.put key value ttl next)
  | remove {next : Except StorageError Unit → Procedure α}
    (h : ∀ r, ∃ a, next r = .unlock key (.done a)) : IsGuarded key (.remove key next)

/-- A procedure without a lock that needs no clock. -/
inductive IsSteady : Procedure α → Prop where
  | done (a : α) : IsSteady (.done a)
  | read {key : String} {next : Except StorageError (Option Context) → Procedure α}
    (h : ∀ r, ∃ a, next r = .done a) : IsSteady (.get key next)
  | lock {key : String} {p : Procedure α} (h : IsGuarded key p) : IsSteady (.lock key p)

/-- A procedure that reads the clock at most once, before all else. -/
inductive IsAtomic : Procedure α → Prop where
  | steady {p : Procedure α} (h : IsSteady p) : IsAtomic p
  | wallClock {next : Instant → Procedure α} (h : ∀ now, IsSteady (next now)) :
    IsAtomic (.wallClock next)

/-! ## Results -/

theorem IsGuarded.map {key : String} {p : Procedure α} (h : IsGuarded key p) (f : α → β) :
    IsGuarded key (p.andThen fun a => .done (f a)) := by
  induction h with
  | release a => exact .release (f a)
  | get _ ih => exact .get ih
  | put h =>
    refine .put fun r => ?_
    obtain ⟨a, ha⟩ := h r
    exact ⟨f a, by rw [ha]; rfl⟩
  | remove h =>
    refine .remove fun r => ?_
    obtain ⟨a, ha⟩ := h r
    exact ⟨f a, by rw [ha]; rfl⟩

theorem IsSteady.map {p : Procedure α} (h : IsSteady p) (f : α → β) :
    IsSteady (p.andThen fun a => .done (f a)) := by
  cases h with
  | done a => exact .done (f a)
  | read h =>
    refine .read fun r => ?_
    obtain ⟨a, ha⟩ := h r
    exact ⟨f a, by rw [ha]; rfl⟩
  | lock h => exact .lock (h.map f)

theorem IsAtomic.map {p : Procedure α} (h : IsAtomic p) (f : α → β) :
    IsAtomic (p.andThen fun a => .done (f a)) := by
  cases h with
  | steady h => exact .steady (h.map f)
  | wallClock h => exact .wallClock fun now => (h now).map f

end Procedure

namespace Call

open Procedure

variable {α β : Type}

/-! ## Constructions of calls -/

/-- What a call makes of its result comes after all its steps. -/
theorem steps_map (c : Call α) (f : α → β) :
    (f <$> c).steps = c.steps.andThen fun r => .done (r.map f) := by
  show Procedure.andThen c.steps _ = _
  congr 1
  funext r
  cases r with
  | error e => rfl
  | ok a => rfl

/-- What a call makes of its result does not change its shape. -/
theorem isAtomic_map {c : Call α} (h : IsAtomic c.steps) (f : α → β) :
    IsAtomic (f <$> c).steps := by
  rw [steps_map]
  exact h.map _

theorem isSteady_check_bind {r : Except ConfigurationError α} {f : α → Call β}
    (h : ∀ a, IsSteady (f a).steps) : IsSteady (check r >>= f).steps := by
  rcases r with e | a
  · show IsSteady (.done (Except.error (StateError.configuration e) : Except StateError β))
    exact .done _
  · exact h a

theorem isAtomic_check_bind {r : Except ConfigurationError α} {f : α → Call β}
    (h : ∀ a, IsAtomic (f a).steps) : IsAtomic (check r >>= f).steps := by
  rcases r with e | a
  · show IsAtomic (.done (Except.error (StateError.configuration e) : Except StateError β))
    exact .steady (.done _)
  · exact h a

end Call

namespace ContextStore

open Procedure Call

/-! ## Calls of the store -/

theorem isAtomic_validateTtl_bind {β : Type} {ttl : Option Duration} {f : Unit → Call β}
    (h : IsSteady (f ()).steps) : IsAtomic (validateTtl ttl >>= f).steps := by
  rcases ttl with _ | ttl
  · exact .steady h
  · refine .wallClock fun now => ?_
    show IsSteady (check (validateTtlAt now ttl) >>= f).steps
    exact isSteady_check_bind fun _ => h

theorem isAtomic_record (store : ContextStore) (id : String) (properties : List (String × String))
    (row : Option ListOperation) (ttl : Option Duration) :
    IsAtomic (store.record id properties row ttl).steps := by
  refine isAtomic_check_bind fun _ => ?_
  have hwrite : IsSteady (Call.withLock id do
      let stored ← Call.get id
      let c := Context.record id stored ⟨properties, row, ttl.or store.defaultTtl⟩
      Call.put id c (ttl.or store.defaultTtl)
      return c).steps := by
    refine .lock (.get fun r => ?_)
    rcases r with e | stored
    · exact .release (Except.error (StateError.storage e))
    · refine .put fun r => ?_
      rcases r with e | ⟨⟩
      · exact ⟨Except.error (StateError.storage e), rfl⟩
      · exact ⟨Except.ok (Context.record id stored ⟨properties, row, ttl.or store.defaultTtl⟩), rfl⟩
  exact isAtomic_validateTtl_bind hwrite

theorem isAtomic_delete (id : String) : IsAtomic (delete id).steps := by
  refine isAtomic_check_bind fun _ => .steady (.lock (.remove fun r => ?_))
  exact ⟨r.mapError .storage, rfl⟩

theorem isAtomic_deleteRow (id : String) (choice : ListDeletion) :
    IsAtomic (deleteRow id choice).steps := by
  refine isAtomic_check_bind fun _ => .steady (.lock (.get fun r => ?_))
  rcases r with e | stored
  · exact .release (Except.error (StateError.storage e))
  · generalize hc : stored.bind (·.deleteRow? choice) = c
    simp only [mapError_ok, Procedure.andThen, ExceptT.bindCont, hc]
    rcases c with _ | c
    · exact .release (Except.ok false)
    · refine .put fun r => ?_
      rcases r with e | ⟨⟩
      · exact ⟨Except.error (StateError.storage e), rfl⟩
      · exact ⟨Except.ok true, rfl⟩

theorem isAtomic_get (id : String) : IsAtomic (ContextStore.get id).steps := by
  refine isAtomic_check_bind fun _ => .steady (.read fun r => ?_)
  exact ⟨r.mapError .storage, rfl⟩

theorem isAtomic_has (id : String) : IsAtomic (has id).steps :=
  isAtomic_map (isAtomic_get id) Option.isSome

end ContextStore

/-- A call about one id is atomic. -/
theorem Request.isAtomic_call (store : ContextStore) {r : Request} (h : r.id?.isSome) :
    Procedure.IsAtomic (r.call store).steps := by
  cases r with
  | record id properties row ttl =>
    exact Call.isAtomic_map (store.isAtomic_record id properties row ttl) _
  | delete id => exact Call.isAtomic_map (ContextStore.isAtomic_delete id) _
  | deleteRow id choice => exact Call.isAtomic_map (ContextStore.isAtomic_deleteRow id choice) _
  | get id => exact Call.isAtomic_map (ContextStore.isAtomic_get id) _
  | has id => exact Call.isAtomic_map (ContextStore.isAtomic_has id) _
  | deleteAll ids => cases h
  | deleteMatching pattern => cases h
  | snapshot => cases h

end KeyedState

import KeyedState.Proofs.Store.Atomicity

/-!
# One key at a time

No call of the store asks for the lock of a key while it holds the lock of another one, and no call
ends with a lock (`Procedure.HoldsOne`). The calls about one id have this from their shape
(`Procedure.IsAtomic`); the others take locks one after the other.
-/

namespace KeyedState

namespace Procedure

variable {α β : Type}

/-- A procedure that is begun with the lock of the given key, or with none, and at no time holds a
second one. It has given back what it holds when it is done. -/
inductive HoldsOne : Option String → Procedure α → Prop where
  | done (a : α) : HoldsOne none (.done a)
  | lock {key : String} {next : Procedure α} (h : HoldsOne (some key) next) :
    HoldsOne none (.lock key next)
  | unlock {key : String} {next : Procedure α} (h : HoldsOne none next) :
    HoldsOne (some key) (.unlock key next)
  | wallClock {held : Option String} {next : Instant → Procedure α}
    (h : ∀ now, HoldsOne held (next now)) : HoldsOne held (.wallClock next)
  | get {held : Option String} {key : String}
    {next : Except StorageError (Option Context) → Procedure α} (h : ∀ r, HoldsOne held (next r)) :
    HoldsOne held (.get key next)
  | put {held : Option String} {key : String} {value : Context} {ttl : Option Duration}
    {next : Except StorageError Unit → Procedure α} (h : ∀ r, HoldsOne held (next r)) :
    HoldsOne held (.put key value ttl next)
  | remove {held : Option String} {key : String} {next : Except StorageError Unit → Procedure α}
    (h : ∀ r, HoldsOne held (next r)) : HoldsOne held (.remove key next)
  | keys {held : Option String} {next : Except StorageError (List String) → Procedure α}
    (h : ∀ r, HoldsOne held (next r)) : HoldsOne held (.keys next)

theorem HoldsOne.andThen {held : Option String} {p : Procedure α} {f : α → Procedure β}
    (h : HoldsOne held p) (hf : ∀ a, HoldsOne none (f a)) : HoldsOne held (p.andThen f) := by
  induction h with
  | done a => exact hf a
  | lock _ ih => exact .lock ih
  | unlock _ ih => exact .unlock ih
  | wallClock _ ih => exact .wallClock ih
  | get _ ih => exact .get ih
  | put _ ih => exact .put ih
  | remove _ ih => exact .remove ih
  | keys _ ih => exact .keys ih

/-! ## Calls about one id -/

theorem HoldsOne.release {key : String} {p : Procedure α} (h : ∃ a, p = .unlock key (.done a)) :
    HoldsOne (some key) p := by
  obtain ⟨a, rfl⟩ := h
  exact .unlock (.done a)

theorem IsGuarded.holdsOne {key : String} {p : Procedure α} (h : IsGuarded key p) :
    HoldsOne (some key) p := by
  induction h with
  | release a => exact .unlock (.done a)
  | get _ ih => exact .get ih
  | put h => exact .put fun r => .release (h r)
  | remove h => exact .remove fun r => .release (h r)

theorem IsSteady.holdsOne {p : Procedure α} (h : IsSteady p) : HoldsOne none p := by
  cases h with
  | done a => exact .done a
  | read h =>
    refine .get fun r => ?_
    obtain ⟨a, ha⟩ := h r
    exact ha ▸ .done a
  | lock h => exact .lock h.holdsOne

theorem IsAtomic.holdsOne {p : Procedure α} (h : IsAtomic p) : HoldsOne none p := by
  cases h with
  | steady h => exact h.holdsOne
  | wallClock h => exact .wallClock fun now => (h now).holdsOne

end Procedure

namespace Call

open Procedure

variable {α β : Type}

theorem holdsOne_map {c : Call α} (h : HoldsOne none c.steps) (f : α → β) :
    HoldsOne none (f <$> c).steps := by
  rw [steps_map]
  exact h.andThen fun _ => .done _

/-- A call and then another: nothing more is done if the first one fails. -/
theorem holdsOne_bind {c : Call α} {f : α → Call β} (h : HoldsOne none c.steps)
    (hf : ∀ a, HoldsOne none (f a).steps) : HoldsOne none (c >>= f).steps := by
  refine h.andThen fun r => ?_
  rcases r with e | a
  · exact .done _
  · exact hf a

theorem holdsOne_check (r : Except ConfigurationError α) : HoldsOne none (check r).steps :=
  .done _

theorem holdsOne_keys : HoldsOne none keys.steps := .keys fun _ => .done _

theorem holdsOne_get (key : String) : HoldsOne none (get key).steps := .get fun _ => .done _

theorem holdsOne_lockedRemove (id : String) : HoldsOne none (withLock id (remove id)).steps :=
  .lock (.remove fun _ => .unlock (.done _))

end Call

namespace ContextStore

open Procedure Call

/-! ## Calls about many ids -/

theorem holdsOne_deleteEach (ids : List String) : HoldsOne none (deleteEach ids).steps := by
  induction ids with
  | nil => exact .done _
  | cons id ids ih => exact holdsOne_bind (isAtomic_delete id).holdsOne fun _ => ih

theorem holdsOne_deleteAll (ids : List String) : HoldsOne none (deleteAll ids).steps :=
  holdsOne_bind (holdsOne_check _) fun _ => holdsOne_deleteEach ids

theorem holdsOne_removeAccepted (p : WholePattern) (count : Nat) (ids : List String) :
    HoldsOne none (removeAccepted p count ids).steps := by
  induction ids generalizing count with
  | nil => exact .done _
  | cons id ids ih =>
    rw [removeAccepted]
    split
    · exact holdsOne_bind (holdsOne_lockedRemove id) fun _ => ih (count + 1)
    · exact ih count

theorem holdsOne_deleteMatching (pattern : String) :
    HoldsOne none (deleteMatching pattern).steps :=
  holdsOne_bind (holdsOne_check _) fun _ => holdsOne_bind holdsOne_keys fun _ =>
    holdsOne_removeAccepted ..

theorem holdsOne_collect (found : KeyMap Context) (ids : List String) :
    HoldsOne none (collect found ids).steps := by
  induction ids generalizing found with
  | nil => exact .done _
  | cons id ids ih =>
    refine holdsOne_bind (holdsOne_get id) fun r => ?_
    rcases r with _ | c
    · exact ih found
    · exact ih (found.insert id c)

theorem holdsOne_snapshot : HoldsOne none snapshot.steps :=
  holdsOne_bind holdsOne_keys fun _ => holdsOne_collect ..

end ContextStore

/-- Every call of the store holds at most one key at a time. -/
theorem Request.holdsOne_call (store : ContextStore) (r : Request) :
    Procedure.HoldsOne none (r.call store).steps := by
  cases r with
  | record id properties row ttl => exact (isAtomic_call store rfl).holdsOne
  | delete id => exact (isAtomic_call store rfl).holdsOne
  | deleteAll ids => exact Call.holdsOne_map (ContextStore.holdsOne_deleteAll ids) _
  | deleteMatching pattern =>
    exact Call.holdsOne_map (ContextStore.holdsOne_deleteMatching pattern) _
  | deleteRow id choice => exact (isAtomic_call store rfl).holdsOne
  | get id => exact (isAtomic_call store rfl).holdsOne
  | has id => exact (isAtomic_call store rfl).holdsOne
  | snapshot => exact Call.holdsOne_map ContextStore.holdsOne_snapshot _

end KeyedState

import KeyedState.Proofs.Store.SequentialOrder

/-!
# Calls about different ids

A call about one id asks the storage for nothing but what is under that id (`Procedure.IsAbout`). So
its result and the slot that it leaves depend on the slot that it finds and on the clocks, and on
nothing else (`Procedure.IsAbout.run_agree`), and it leaves all other slots as they are
(`Procedure.IsAbout.run_other`). Two calls about different ids can therefore change places.
-/

namespace KeyedState

open Threads (AgreeAt)

namespace Threads.AgreeAt

variable {id : String} {s s' : MemoryStore Context}

/-! ## Stores that agree on one id -/

theorem put (h : AgreeAt id s s') (value : Context) (ttl : Option Duration) :
    (MemoryStore.backend.put id value ttl s').1 = (MemoryStore.backend.put id value ttl s).1 ∧
      AgreeAt id (MemoryStore.backend.put id value ttl s).2
        (MemoryStore.backend.put id value ttl s').2 := by
  simp only [MemoryStore.backend, MemoryStore.put_eq, h.1]
  rcases MemoryStore.deadline? s.now ttl with e | deadline
  · exact ⟨rfl, h⟩
  · refine ⟨rfl, h.1, ?_⟩
    show (s'.setSlot id ⟨value, deadline⟩).slots.get? id =
      (s.setSlot id ⟨value, deadline⟩).slots.get? id
    simp only [MemoryStore.slots_get?_setSlot, if_true]

theorem remove (h : AgreeAt id s s') : AgreeAt id (s.remove id) (s'.remove id) := by
  refine ⟨h.1, ?_⟩
  simp only [MemoryStore.slots_get?_remove, if_true]

end Threads.AgreeAt

namespace Procedure

variable {α β : Type} {id : String} {p : Procedure α}

/-! ## Procedures about one id -/

/-- A procedure that asks the storage for nothing but what is under one id. -/
inductive IsAbout (id : String) : Procedure α → Prop where
  | done (a : α) : IsAbout id (.done a)
  | wallClock {next : Instant → Procedure α} (h : ∀ now, IsAbout id (next now)) :
    IsAbout id (.wallClock next)
  | lock {key : String} {next : Procedure α} (h : IsAbout id next) : IsAbout id (.lock key next)
  | unlock {key : String} {next : Procedure α} (h : IsAbout id next) :
    IsAbout id (.unlock key next)
  | get {next : Except StorageError (Option Context) → Procedure α}
    (h : ∀ r, IsAbout id (next r)) : IsAbout id (.get id next)
  | put {value : Context} {ttl : Option Duration} {next : Except StorageError Unit → Procedure α}
    (h : ∀ r, IsAbout id (next r)) : IsAbout id (.put id value ttl next)
  | remove {next : Except StorageError Unit → Procedure α} (h : ∀ r, IsAbout id (next r)) :
    IsAbout id (.remove id next)

namespace IsAbout

theorem andThen {f : α → Procedure β} (h : IsAbout id p) (hf : ∀ a, IsAbout id (f a)) :
    IsAbout id (p.andThen f) := by
  induction h with
  | done a => exact hf a
  | wallClock _ ih => exact .wallClock ih
  | lock _ ih => exact .lock ih
  | unlock _ ih => exact .unlock ih
  | get _ ih => exact .get ih
  | put _ ih => exact .put ih
  | remove _ ih => exact .remove ih

/-- From stores that agree on the id it runs alike, and leaves stores that agree on it. -/
theorem run_agree (h : IsAbout id p) (wall : Instant) {s s' : MemoryStore Context}
    (hs : AgreeAt id s s') :
    (p.run MemoryStore.backend wall s').1 = (p.run MemoryStore.backend wall s).1 ∧
      AgreeAt id (p.run MemoryStore.backend wall s).2 (p.run MemoryStore.backend wall s').2 := by
  induction h generalizing s s' with
  | done a => exact ⟨rfl, hs⟩
  | wallClock _ ih => exact ih wall hs
  | lock _ ih => exact ih hs
  | unlock _ ih => exact ih hs
  | @get next _ ih =>
    show ((next (.ok (s'.get? id))).run MemoryStore.backend wall s').1 = _ ∧ AgreeAt id _
      ((next (.ok (s'.get? id))).run MemoryStore.backend wall s').2
    rw [hs.get?_eq]
    exact ih _ hs
  | @put value ttl next _ ih =>
    obtain ⟨hresult, hafter⟩ := hs.put value ttl
    simp only [run, hresult]
    exact ih _ hafter
  | remove _ ih => exact ih _ hs.remove

/-- It leaves the clock and what is under other ids as they are. -/
theorem run_other (h : IsAbout id p) (wall : Instant) (s : MemoryStore Context) :
    (p.run MemoryStore.backend wall s).2.now = s.now ∧
      ∀ id' ≠ id, (p.run MemoryStore.backend wall s).2.slots.get? id' = s.slots.get? id' := by
  induction h generalizing s with
  | done a => exact ⟨rfl, fun _ _ => rfl⟩
  | wallClock _ ih => exact ih wall s
  | lock _ ih => exact ih s
  | unlock _ ih => exact ih s
  | get _ ih => exact ih _ s
  | @put value ttl next _ ih =>
    obtain ⟨hnow, hslots⟩ := s.backend_put_other id value ttl
    obtain ⟨hnow', hslots'⟩ := ih (MemoryStore.backend.put id value ttl s).1
      (MemoryStore.backend.put id value ttl s).2
    exact ⟨hnow'.trans hnow, fun id' hne => (hslots' id' hne).trans (hslots id' hne)⟩
  | @remove next _ ih =>
    obtain ⟨hnow, hslots⟩ := ih (.ok ()) (s.remove id)
    refine ⟨hnow, fun id' hne => (hslots id' hne).trans ?_⟩
    rw [MemoryStore.slots_get?_remove, if_neg hne]

end IsAbout

end Procedure

namespace Call

open Procedure

variable {α β : Type} {id : String}

/-! ## Calls about one id -/

theorem isAbout_bind {c : Call α} {f : α → Call β} (h : IsAbout id c.steps)
    (hf : ∀ a, IsAbout id (f a).steps) : IsAbout id (c >>= f).steps := by
  refine h.andThen fun r => ?_
  rcases r with e | a
  · exact .done _
  · exact hf a

theorem isAbout_map {c : Call α} (h : IsAbout id c.steps) (f : α → β) :
    IsAbout id (f <$> c).steps := by
  rw [steps_map]
  exact h.andThen fun _ => .done _

theorem isAbout_withLock {c : Call α} (h : IsAbout id c.steps) (key : String) :
    IsAbout id (withLock key c).steps :=
  .lock (h.andThen fun _ => .unlock (.done _))

theorem isAbout_check (r : Except ConfigurationError α) : IsAbout id (check r).steps := .done _

theorem isAbout_get (id : String) : IsAbout id (get id).steps := .get fun _ => .done _

theorem isAbout_put (id : String) (value : Context) (ttl : Option Duration) :
    IsAbout id (put id value ttl).steps :=
  .put fun _ => .done _

theorem isAbout_remove (id : String) : IsAbout id (remove id).steps := .remove fun _ => .done _

end Call

namespace ContextStore

open Procedure Call

theorem isAbout_validateTtl (id : String) (ttl : Option Duration) :
    IsAbout id (validateTtl ttl).steps := by
  rcases ttl with _ | ttl
  · exact .done _
  · exact .wallClock fun _ => isAbout_check _

theorem isAbout_record (store : ContextStore) (id : String) (properties : List (String × String))
    (row : Option ListOperation) (ttl : Option Duration) :
    IsAbout id (store.record id properties row ttl).steps :=
  isAbout_bind (isAbout_check _) fun _ => isAbout_bind (isAbout_validateTtl id _) fun _ =>
    isAbout_withLock (isAbout_bind (isAbout_get id) fun _ =>
      isAbout_bind (isAbout_put id _ _) fun _ => .done _) id

theorem isAbout_delete (id : String) : IsAbout id (delete id).steps :=
  isAbout_bind (isAbout_check _) fun _ => isAbout_withLock (isAbout_remove id) id

theorem isAbout_deleteRow (id : String) (choice : ListDeletion) :
    IsAbout id (deleteRow id choice).steps := by
  refine isAbout_bind (isAbout_check _) fun _ =>
    isAbout_withLock (isAbout_bind (isAbout_get id) fun stored => ?_) id
  rcases stored.bind (·.deleteRow? choice) with _ | c
  · exact .done _
  · exact isAbout_bind (isAbout_put id _ _) fun _ => .done _

theorem isAbout_read (id : String) : IsAbout id (ContextStore.get id).steps :=
  isAbout_bind (isAbout_check _) fun _ => isAbout_get id

end ContextStore

/-- A call about one id asks for nothing but that id. -/
theorem Request.isAbout_call (store : ContextStore) {r : Request} {id : String}
    (h : r.id? = some id) : Procedure.IsAbout id (r.call store).steps := by
  cases r with
  | record id' properties row ttl =>
    cases h
    exact Call.isAbout_map (store.isAbout_record id properties row ttl) _
  | delete id' =>
    cases h
    exact Call.isAbout_map (ContextStore.isAbout_delete id) _
  | deleteRow id' choice =>
    cases h
    exact Call.isAbout_map (ContextStore.isAbout_deleteRow id choice) _
  | get id' =>
    cases h
    exact Call.isAbout_map (ContextStore.isAbout_read id) _
  | has id' =>
    cases h
    exact Call.isAbout_map (Call.isAbout_map (ContextStore.isAbout_read id) _) _
  | deleteAll ids => cases h
  | deleteMatching pattern => cases h
  | snapshot => cases h

/-- A call leaves what is under other ids as it is, so it leaves a store that agrees with the one
before on each of them. -/
theorem Request.agreeAt_of_ne (store : ContextStore) {r : Request} {id id' : String}
    (h : r.id? = some id) (hne : id' ≠ id) (wall : Instant) (s : MemoryStore Context) :
    AgreeAt id' s ((r.call store).run MemoryStore.backend wall s).2 := by
  obtain ⟨hnow, hslots⟩ := (r.isAbout_call store h).run_other wall s
  exact ⟨hnow, hslots id' hne⟩

/-- **Calls about different ids do not depend on each other.** Made one after the other in either
order, each of two calls about different ids has the same result, and both orders leave the same
store. The slots of all other ids stay as they are, live or not. -/
theorem calls_about_different_ids (store : ContextStore) (s : MemoryStore Context) {a b : String}
    (hne : a ≠ b) {A B : Request} (hA : A.id? = some a) (hB : B.id? = some b)
    (wallA wallB : Instant) :
    let runA := (A.call store).run MemoryStore.backend wallA
    let runB := (B.call store).run MemoryStore.backend wallB
    (runA (runB s).2).1 = (runA s).1 ∧ (runB (runA s).2).1 = (runB s).1 ∧
      (runB (runA s).2).2 = (runA (runB s).2).2 ∧
      ∀ id, id ≠ a → id ≠ b → (runB (runA s).2).2.slots.get? id = s.slots.get? id := by
  intro runA runB
  have hleaveA : ∀ id ≠ a, ∀ s, AgreeAt id s (runA s).2 :=
    fun id h s => A.agreeAt_of_ne store hA h wallA s
  have hleaveB : ∀ id ≠ b, ∀ s, AgreeAt id s (runB s).2 :=
    fun id h s => B.agreeAt_of_ne store hB h wallB s
  obtain ⟨hresultA, hafterA⟩ := (A.isAbout_call store hA).run_agree wallA (hleaveB a hne s)
  obtain ⟨hresultB, hafterB⟩ := (B.isAbout_call store hB).run_agree wallB (hleaveA b hne.symm s)
  have hother : ∀ id, id ≠ a → id ≠ b → (runB (runA s).2).2.slots.get? id = s.slots.get? id :=
    fun id ha hb => (hleaveB id hb _).2.trans (hleaveA id ha s).2
  refine ⟨hresultA, hresultB, MemoryStore.ext_slots ?_ fun id => ?_, hother⟩
  · calc (runB (runA s).2).2.now = (runA s).2.now := (hleaveB a hne _).1
      _ = (runA (runB s).2).2.now := hafterA.1.symm
  · by_cases ha : id = a
    · subst ha
      exact (hleaveB id hne _).2.trans hafterA.2.symm
    · by_cases hb : id = b
      · subst hb
        exact hafterB.2.trans (hleaveA id ha _).2.symm
      · exact (hother id ha hb).trans
          ((hleaveA id ha _).2.trans (hleaveB id hb s).2).symm

/-- A store in which one context has a row and the time to live of another one has passed. -/
def afterTea : MemoryStore Context where
  slots := .ofList
    [("past", ⟨⟨"past", ∅, [], .zero, none⟩, some .epoch⟩),
     ("tea", ⟨⟨"tea", ∅, [.ofList [("cup", "1")]], .zero, none⟩, none⟩)]
  now := .epoch

/-- Context `past` is written anew, and context `tea` loses its row, in either order. -/
theorem calls_about_different_ids_tea :
    let write : Request := .record "past" [("x", "1")] none (some (.ofSeconds 5))
    let deletion : Request := .deleteRow "tea" .first
    let runA := (write.call {}).run MemoryStore.backend .epoch
    let runB := (deletion.call {}).run MemoryStore.backend .epoch
    "past" ≠ "tea" ∧ write.id? = some "past" ∧ deletion.id? = some "tea" ∧
      (runB afterTea).1 = .ok (.flag true) ∧
      (runA (runB afterTea).2).1 = (runA afterTea).1 ∧
      (runB (runA afterTea).2).1 = .ok (.flag true) ∧
      (runB (runA afterTea).2).2 = (runA (runB afterTea).2).2 := by
  intro write deletion runA runB
  have hne : "past" ≠ "tea" := by decide
  have hdeleted : (runB afterTea).1 = .ok (.flag true) := rfl
  obtain ⟨hresultA, hresultB, hstores, -⟩ := calls_about_different_ids {} afterTea hne
    (A := write) (B := deletion) rfl rfl .epoch .epoch
  exact ⟨hne, rfl, rfl, hdeleted, hresultA, hresultB.trans hdeleted, hstores⟩

end KeyedState

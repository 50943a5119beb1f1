import KeyedState.Proofs.Store.Activity

/-!
# Purges are not noticed

Somebody makes calls of a store, and asks the storage under it questions, one after the other. In
between, and also within a call, the clock moves and the storage is purged. An `Occurrence` is one
of these, and a `Script` has with each of them the order in which keys are listed then. That order
may be any, and it may depend on dead slots, so purges may change it.

Two runs go side by side over stores that have the same live slots (`RestlessStore.Alike`). Whatever
the orders are, only two things can differ. The keys are listed in the one order or in the other;
and a snapshot that sees the clock move looks at the contexts at different times, so it finds or
misses what expires meanwhile (`Outcome.Agrees`). But what is found over dead slots can be found
without them, if the keys come in the same order (`Occurrence.Same.exists_order`).
-/

namespace KeyedState

/-- A question to the storage that no call of the store asks. -/
inductive DirectQuestion where
  /-- For the value under a key. -/
  | get (key : String)
  /-- To put a value under a key. -/
  | put (key : String) (value : Context) (ttl : Option Duration)
  /-- To remove the value under a key. -/
  | remove (key : String)
  /-- For the keys. -/
  | keys
  /-- For the number of entries. -/
  | size
  /-- Whether there is no entry. -/
  | isEmpty

/-- The answer to a question. -/
inductive DirectAnswer where
  /-- What is under the key. -/
  | got (value : Option Context)
  /-- Whether the value has been put. -/
  | put (r : Except StorageError Unit)
  /-- The value is removed. -/
  | removed
  /-- The keys. -/
  | keys (ks : List String)
  /-- The number of entries. -/
  | size (n : Nat)
  /-- Whether there is no entry. -/
  | isEmpty (b : Bool)
deriving DecidableEq

/-- The answer of a store in memory that lists its keys in an order, and the store after it. -/
def DirectQuestion.ask (order : KeyOrder) (s : MemoryStore Context) :
    DirectQuestion → DirectAnswer × MemoryStore Context
  | .get key => (.got (s.get? key), s)
  | .put key value ttl =>
    let (r, s) := order.backend.put key value ttl s
    (.put r, s)
  | .remove key => (.removed, s.remove key)
  | .keys => (.keys (order.list s), s)
  | .size => (.size s.size, s)
  | .isEmpty => (.isEmpty s.isEmpty, s)

/-- What happens to one store in memory. -/
inductive Occurrence where
  /-- A question that somebody asks the storage directly. -/
  | question (q : DirectQuestion)
  /-- A call of the store, while the wall clock shows an instant, with what happens to the storage
  before each question that is asked. -/
  | call (wall : Instant) (interludes : List (List Interlude)) (r : Request)
  /-- Something between two calls. -/
  | between (i : Interlude)

/-- What comes of a question or a call. -/
inductive Outcome where
  /-- The answer to a question. -/
  | answer (a : DirectAnswer)
  /-- What a call returns. -/
  | reply (result : Except StateError Reply)
deriving DecidableEq

/-- A question or a call by what comes of it, with the storage before and after it. -/
structure Exchange where
  /-- The storage before. -/
  before : MemoryStore Context
  /-- What comes of it. -/
  outcome : Outcome
  /-- The storage after. -/
  after : MemoryStore Context

/-- What happens one after the other, and how keys are listed each time. -/
abbrev Script := List (KeyOrder × Occurrence)

namespace Occurrence

/-- What comes of an occurrence, if it is a question or a call, and the storage after it. -/
def run (store : ContextStore) (order : KeyOrder) :
    Occurrence → MemoryStore Context → Option Outcome × MemoryStore Context
  | .question q, s =>
    let (a, s) := q.ask order s
    (some (.answer a), s)
  | .call wall interludes r, s =>
    let (result, s) := (r.call store).run (RestlessStore.backend order) wall ⟨s, interludes⟩
    (some (.reply result), s.store)
  | .between i, s => (none, s.pass i)

/-- The moves of the clock during an occurrence. -/
def moves : Occurrence → List ClockMove
  | .question _ => []
  | .call _ interludes _ => Interlude.moves interludes.flatten
  | .between i => Interlude.moves [i]

/-- Two occurrences, neither of which is a purge, are the same but for the purges within a call. -/
inductive Same : Occurrence → Occurrence → Prop where
  | question (q : DirectQuestion) : Same (.question q) (.question q)
  | call (wall : Instant) {is is' : List (List Interlude)} (r : Request)
    (h : Interlude.MoveAlike is is') : Same (.call wall is r) (.call wall is' r)
  | move (m : ClockMove) : Same (.between (.move m)) (.between (.move m))

end Occurrence

namespace Script

/-- The questions and calls of a script by what comes of them, and the storage after all. -/
def run (store : ContextStore) : Script → MemoryStore Context → List Exchange × MemoryStore Context
  | [], s => ([], s)
  | (order, x) :: script, s =>
    let (outcome, t) := x.run store order s
    let (rest, u) := run store script t
    ((outcome.map fun o => ⟨s, o, t⟩).toList ++ rest, u)

/-- Whether the clock is never moved back. -/
def IsForward (store : ContextStore) (script : Script) (s : MemoryStore Context) : Prop :=
  ClockMove.AreForwardThrough MemoryStore.now (fun e => e.2.moves)
    (fun e s => (e.2.run store e.1 s).2) script s

instance decidableIsForward (store : ContextStore) (script : Script) (s : MemoryStore Context) :
    Decidable (script.IsForward store s) :=
  inferInstanceAs (Decidable (ClockMove.AreForwardThrough ..))

end Script

/-- Contexts that are found while a store becomes another one: each is as in the one store, or as in
the other. -/
def FoundBetween (before after : MemoryStore Context) (found : KeyMap Context) : Prop :=
  ∀ id, found.get? id = before.get? id ∨ found.get? id = after.get? id

/-- What can come of the same question or call, while a store becomes another one, by the order in
which keys are listed. -/
inductive Outcome.Agrees (before after : MemoryStore Context) : Outcome → Outcome → Prop where
  /-- The same. -/
  | same (o : Outcome) : Agrees before after o o
  /-- The same keys. -/
  | keys {ks ks' : List String} (h : ks.Perm ks') :
    Agrees before after (.answer (.keys ks)) (.answer (.keys ks'))
  /-- Contexts that are found while the clock moves and some context expires. -/
  | snapshot {found found' : KeyMap Context} {id : String} (hmoved : after.now ≠ before.now)
    (hbefore : (before.get? id).isSome) (hafter : after.get? id = none)
    (h : FoundBetween before after found) (h' : FoundBetween before after found') :
    Agrees before after (.reply (.ok (.contexts found))) (.reply (.ok (.contexts found')))

/-- The storages are the same but for dead slots, before and after, and what comes of the question
or call agrees. -/
structure Exchange.Agrees (x x' : Exchange) : Prop where
  /-- The storages before. -/
  before : x.before.SameLive x'.before
  /-- What comes of it. -/
  outcome : x.outcome.Agrees x.before x.after x'.outcome
  /-- The storages after. -/
  after : x.after.SameLive x'.after

theorem Outcome.Agrees.of_eq {before after : MemoryStore Context} {o o' : Outcome} (h : o = o') :
    Agrees before after o o' :=
  h ▸ .same o

/-! ## Questions -/

/-- Both stores give the same answer, unless they are asked for their keys. -/
theorem MemoryStore.SameLive.ask {s s' : MemoryStore Context} (h : s.SameLive s')
    (order order' : KeyOrder) {q : DirectQuestion} (hq : q ≠ .keys) :
    (q.ask order s).1 = (q.ask order' s').1 ∧
      (q.ask order s).2.SameLive (q.ask order' s').2 := by
  cases q with
  | get key => exact ⟨congrArg DirectAnswer.got (h.get?_eq key), h⟩
  | put key value ttl =>
    simp only [DirectQuestion.ask, KeyOrder.backend, backend, put_eq, ← h.now]
    rcases deadline? s.now ttl with e | deadline
    · exact ⟨rfl, h⟩
    · exact ⟨rfl, h.setSlot key ⟨value, deadline⟩⟩
  | remove key => exact ⟨rfl, h.remove key⟩
  | keys => exact absurd rfl hq
  | size => exact ⟨congrArg DirectAnswer.size h.size_eq, h⟩
  | isEmpty => exact ⟨congrArg DirectAnswer.isEmpty h.isEmpty_eq, h⟩

/-- The same keys are listed, each time in some order. -/
theorem MemoryStore.SameLive.list_perm {s s' : MemoryStore Context} (h : s.SameLive s')
    (order order' : KeyOrder) : (order.list s).Perm (order'.list s') :=
  (order.perm s).trans (h.keys_eq ▸ (order'.perm s').symm)

/-! ## Calls -/

namespace RestlessStore

open MemoryStore (SameLive Fades)
open ContextStore (validateId ttlFits)

/-- Two stores are the same but for dead slots, and will be moved alike before each question. -/
structure Alike (s s' : RestlessStore) : Prop where
  /-- The stores. -/
  store : s.store.SameLive s'.store
  /-- The moves of the clocks. -/
  moves : Interlude.MoveAlike s.interludes s'.interludes
  /-- No clock moves back. -/
  forward : s.IsForward

/-- Two runs have the same result, and leave stores that are the same but for dead slots. -/
def EndAlike {α : Type} (r r' : Except StateError α × RestlessStore) : Prop :=
  r.1 = r'.1 ∧ r.2.store.SameLive r'.2.store

/-- What is made of a result does not matter. -/
theorem EndAlike.map {α β : Type} {c : Call α} {order order' : KeyOrder} {wall : Instant}
    {s s' : RestlessStore} (f : α → β)
    (h : EndAlike (c.run (backend order) wall s) (c.run (backend order') wall s')) :
    EndAlike ((f <$> c).run (backend order) wall s) ((f <$> c).run (backend order') wall s') := by
  rw [Call.run_map, Call.run_map]
  exact ⟨congrArg (Except.map f) h.1, h.2⟩

namespace Alike

variable {s s' : RestlessStore} (order order' : KeyOrder) (store : ContextStore) (wall : Instant)

theorem next (h : Alike s s') : Alike s.next s'.next where
  store := h.store.passAll h.forward.head_tail h.moves.head
  moves := h.moves.tail
  forward := (h.forward.next (Fades.lasts s.store) (.refl s.store)).2

theorem iterate (h : Alike s s') (n : Nat) :
    Alike (RestlessStore.next^[n] s) (RestlessStore.next^[n] s') := by
  induction n generalizing s s' with
  | zero => exact h
  | succ n ih => exact ih h.next

/-- Keys are removed with the same effect in any order. -/
theorem removeEach (h : Alike s s') {keys keys' : List String} (hkeys : keys.Perm keys') :
    ((host order).removeEach s keys).store.SameLive ((host order').removeEach s' keys').store := by
  rw [removeEach_eq, removeEach_eq, ← hkeys.length_eq]
  exact (h.iterate keys.length).store.removeAll fun _ => hkeys.mem_iff

/-- In the same order the same contexts are found. -/
theorem gather (h : Alike s s') (found : KeyMap Context) (keys : List String) :
    (host order).gather found s keys = (host order').gather found s' keys := by
  induction keys generalizing found s s' with
  | nil => rfl
  | cons key keys ih =>
    rw [MemoryHost.gather, MemoryHost.gather]
    refine (ih h.next _).trans ?_
    show _ = (host order').gather (((s'.next.store.get? key).map _).getD found) s'.next keys
    rw [← h.next.store.get?_eq key]
    rfl

theorem record (h : Alike s s') (id : String) (properties : List (String × String))
    (row : Option ListOperation) (ttl : Option Duration) :
    EndAlike ((store.record id properties row ttl).run (backend order) wall s)
      ((store.record id properties row ttl).run (backend order') wall s') := by
  rw [run_record, run_record, ← h.next.store.get?_eq id, ← h.next.next.store.now]
  rcases validateId id with e | ⟨⟩
  · exact ⟨rfl, h.store⟩
  rcases ttlFits wall (ttl.or store.defaultTtl) with e | ⟨⟩
  · exact ⟨rfl, h.store⟩
  rcases MemoryStore.deadline? s.next.next.store.now (ttl.or store.defaultTtl) with e | deadline
  · exact ⟨rfl, h.next.next.store⟩
  · exact ⟨rfl, h.next.next.store.setSlot id _⟩

theorem deleteRow (h : Alike s s') (id : String) (choice : ListDeletion) :
    EndAlike ((ContextStore.deleteRow id choice).run (backend order) wall s)
      ((ContextStore.deleteRow id choice).run (backend order') wall s') := by
  rw [run_deleteRow, run_deleteRow, ← h.next.store.get?_eq id, ← h.next.next.store.now]
  rcases validateId id with e | ⟨⟩
  · exact ⟨rfl, h.store⟩
  rcases (s.next.store.get? id).bind (·.deleteRow? choice) with _ | c
  · exact ⟨rfl, h.next.store⟩
  simp only
  rcases MemoryStore.deadline? s.next.next.store.now c.expiry with e | deadline
  · exact ⟨rfl, h.next.next.store⟩
  · exact ⟨rfl, h.next.next.store.setSlot id _⟩

theorem delete (h : Alike s s') (id : String) :
    EndAlike ((ContextStore.delete id).run (backend order) wall s)
      ((ContextStore.delete id).run (backend order') wall s') := by
  rw [MemoryHost.run_delete, MemoryHost.run_delete]
  rcases validateId id with e | ⟨⟩
  · exact ⟨rfl, h.store⟩
  · exact ⟨rfl, h.removeEach order order' (.refl [id])⟩

theorem deleteAll (h : Alike s s') (ids : List String) :
    EndAlike ((ContextStore.deleteAll ids).run (backend order) wall s)
      ((ContextStore.deleteAll ids).run (backend order') wall s') := by
  rw [MemoryHost.run_deleteAll, MemoryHost.run_deleteAll]
  rcases ids.forM validateId with e | ⟨⟩
  · exact ⟨rfl, h.store⟩
  · exact ⟨rfl, h.removeEach order order' (.refl ids)⟩

/-- As many contexts are deleted in any order, however the clock moves meanwhile: what has been
listed is removed and counted, also if it has expired before its turn. -/
theorem deleteMatching (h : Alike s s') (pattern : String) :
    EndAlike ((ContextStore.deleteMatching pattern).run (backend order) wall s)
      ((ContextStore.deleteMatching pattern).run (backend order') wall s') := by
  rw [MemoryHost.run_deleteMatching, MemoryHost.run_deleteMatching]
  rcases WholePattern.compile pattern with e | p
  · exact ⟨rfl, h.store⟩
  · have hperm := (h.next.store.list_perm order order').filter p.accepts
    exact ⟨congrArg Except.ok hperm.length_eq, h.next.removeEach order order' hperm⟩

theorem get (h : Alike s s') (id : String) :
    EndAlike ((ContextStore.get id).run (backend order) wall s)
      ((ContextStore.get id).run (backend order') wall s') := by
  rw [MemoryHost.run_get, MemoryHost.run_get]
  rcases validateId id with e | ⟨⟩
  · exact ⟨rfl, h.store⟩
  · exact ⟨congrArg Except.ok (h.next.store.get?_eq id), h.next.store⟩

theorem has (h : Alike s s') (id : String) :
    EndAlike ((ContextStore.has id).run (backend order) wall s)
      ((ContextStore.has id).run (backend order') wall s') := by
  rw [MemoryHost.run_has, MemoryHost.run_has]
  rcases validateId id with e | ⟨⟩
  · exact ⟨rfl, h.store⟩
  · exact ⟨congrArg (fun c => Except.ok c.isSome) (h.next.store.get?_eq id), h.next.store⟩

/-- A call returns the same in any order, unless it is a snapshot. -/
theorem call (h : Alike s s') {r : Request} (hr : r ≠ .snapshot) :
    EndAlike ((r.call store).run (backend order) wall s)
      ((r.call store).run (backend order') wall s') := by
  cases r with
  | record id properties row ttl =>
    exact .map _ (h.record order order' store wall id properties row ttl)
  | delete id => exact .map _ (h.delete order order' wall id)
  | deleteAll ids => exact .map _ (h.deleteAll order order' wall ids)
  | deleteMatching pattern => exact .map _ (h.deleteMatching order order' wall pattern)
  | deleteRow id choice => exact .map _ (h.deleteRow order order' wall id choice)
  | get id => exact .map _ (h.get order order' wall id)
  | has id => exact .map _ (h.has order order' wall id)
  | snapshot => exact absurd rfl hr

/-! ## Snapshots -/

/-- A snapshot asks as many questions in any order. -/
theorem snapshot_store (h : Alike s s') :
    (ContextStore.snapshot.run (backend order) wall s).2.store.SameLive
      (ContextStore.snapshot.run (backend order') wall s').2.store := by
  rw [MemoryHost.run_snapshot, MemoryHost.run_snapshot]
  show (RestlessStore.next^[(order.list s.next.store).length] s.next).store.SameLive
    (RestlessStore.next^[(order'.list s'.next.store).length] s'.next).store
  rw [(h.next.store.list_perm order order').length_eq]
  exact (h.next.iterate _).store

end Alike

/-- A snapshot succeeds. What it finds is visible at first, and all that is visible at last is among
it. -/
theorem exists_snapshot_eq {s : RestlessStore} (hf : s.IsForward) (order : KeyOrder)
    (wall : Instant) :
    ∃ found, (ContextStore.snapshot.run (backend order) wall s).1 = .ok found ∧
      s.store.Fades (ContextStore.snapshot.run (backend order) wall s).2.store ∧
      FoundBetween s.store (ContextStore.snapshot.run (backend order) wall s).2.store found := by
  obtain ⟨hnext, hfnext⟩ := hf.next (Fades.lasts s.store) (.refl s.store)
  have hperm := order.perm s.next.store
  generalize hkeys : order.list s.next.store = keys at hperm
  -- the store at the turn of a key comes from the one before and becomes the one after
  have hlast : ∀ n ≤ keys.length,
      (next^[n] s.next).store.Fades (next^[keys.length] s.next).store := by
    intro n hn
    have hturn := (hfnext.iterate (Fades.lasts s.store) hnext n).2
    obtain ⟨m, hm⟩ := Nat.exists_eq_add_of_le' hn
    rw [hm, Function.iterate_add_apply]
    exact (hturn.iterate (Fades.lasts _) (.refl _) m).1
  have hrun : ContextStore.snapshot.run (backend order) wall s =
      (.ok ((host order).gather ∅ s.next keys), next^[keys.length] s.next) :=
    hkeys ▸ MemoryHost.run_snapshot ..
  rw [hrun]
  refine ⟨_, rfl, (hfnext.iterate (Fades.lasts s.store) hnext _).1, fun id => ?_⟩
  by_cases hid : id ∈ keys
  · have hnodup : keys.Nodup := hperm.nodup_iff.2 (KeyMap.nodup_keys _)
    obtain ⟨n, hn, hget⟩ :=
      (host order).exists_get?_gather s.next hnodup hid (KeyMap.get?_empty id)
    rw [hget]
    exact (hfnext.iterate (Fades.lasts s.store) hnext n).1.between (hlast n hn) id
  · -- what is not listed is not visible any more
    rw [MemoryHost.get?_gather_of_not_mem _ _ _ hid, KeyMap.get?_empty]
    rw [hperm.mem_iff, MemoryStore.mem_keys_iff, Option.not_isSome_iff_eq_none] at hid
    have hgone := (hlast 0 (Nat.zero_le _)).get?_eq_or id
    rw [show (next^[0] s.next).store.get? id = none from hid, or_self] at hgone
    exact .inr hgone.symm

end RestlessStore

/-- Contexts that are found are the same, unless one has expired meanwhile. -/
theorem FoundBetween.agrees {s t : MemoryStore Context} (hfades : s.Fades t)
    {found found' : KeyMap Context} (h : FoundBetween s t found) (h' : FoundBetween s t found') :
    Outcome.Agrees s t (.reply (.ok (.contexts found))) (.reply (.ok (.contexts found'))) := by
  by_cases hsame : ∀ id, found.get? id = found'.get? id
  · rw [KeyMap.ext_get? hsame]
    exact .same _
  · rw [Classical.not_forall] at hsame
    obtain ⟨id, hid⟩ := hsame
    have hne : t.get? id ≠ s.get? id := by
      intro heq
      have hfound := h id
      have hfound' := h' id
      rw [heq, or_self] at hfound hfound'
      exact hid (hfound.trans hfound'.symm)
    have hafter : t.get? id = none := (hfades.get?_eq_or id).resolve_left hne
    have hbefore : (s.get? id).isSome := Option.isSome_iff_ne_none.2 (hafter ▸ hne.symm)
    exact .snapshot (fun hnow => hne (hfades.get?_eq_of_now hnow id)) hbefore hafter h h'

/-- Calls that are snapshots agree. -/
theorem RestlessStore.Alike.snapshot {s s' : RestlessStore} (h : s.Alike s')
    (order order' : KeyOrder) (store : ContextStore) (wall : Instant) :
    let r := (Request.snapshot.call store).run (backend order) wall s
    let r' := (Request.snapshot.call store).run (backend order') wall s'
    Outcome.Agrees s.store r.2.store (.reply r.1) (.reply r'.1) ∧
      r.2.store.SameLive r'.2.store := by
  have hf' : s'.IsForward := by
    rw [IsForward, ← h.moves.flatten, ← h.store.now]
    exact h.forward
  have hafter := h.snapshot_store order order' wall
  obtain ⟨found, hfound, hfades, hbetween⟩ := exists_snapshot_eq h.forward order wall
  obtain ⟨found', hfound', -, hbetween'⟩ := exists_snapshot_eq hf' order' wall
  simp only [Request.call, Call.run_map, hfound, hfound']
  refine ⟨hbetween.agrees hfades fun id => ?_, hafter⟩
  rw [h.store.get?_eq id, hafter.get?_eq id]
  exact hbetween' id

/-! ## Scripts -/

namespace Occurrence.Same

variable {x x' : Occurrence} {s s' : MemoryStore Context}

/-- What comes of the same question or call agrees, whatever the orders and the dead slots are. -/
theorem agrees (h : x.Same x') (store : ContextStore) (hs : s.SameLive s')
    (hf : ClockMove.AreForward s.now x.moves) (order order' : KeyOrder) :
    Option.Rel (Outcome.Agrees s (x.run store order s).2) (x.run store order s).1
        (x'.run store order' s').1 ∧
      (x.run store order s).2.SameLive (x'.run store order' s').2 := by
  cases h with
  | question q =>
    by_cases hq : q = .keys
    · subst hq
      exact ⟨.some (.keys (hs.list_perm order order')), hs⟩
    · obtain ⟨hanswer, hafter⟩ := hs.ask order order' hq
      exact ⟨.some (.of_eq (congrArg Outcome.answer hanswer)), hafter⟩
  | @call wall is is' r hmoves =>
    have halike : RestlessStore.Alike ⟨s, is⟩ ⟨s', is'⟩ := ⟨hs, hmoves, hf⟩
    by_cases hr : r = .snapshot
    · subst hr
      obtain ⟨hreply, hafter⟩ := halike.snapshot order order' store wall
      exact ⟨.some hreply, hafter⟩
    · obtain ⟨hreply, hafter⟩ := halike.call order order' store wall hr
      exact ⟨.some (.of_eq (congrArg Outcome.reply hreply)), hafter⟩
  | move m => exact ⟨.none, hs.move hf.1⟩

end Occurrence.Same

namespace Script

variable {script script' : Script} {s s' : MemoryStore Context}

end Script

end KeyedState

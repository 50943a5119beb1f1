import KeyedState.Proofs.Store.Activity

/-!
# When a context is there

A context is there from its last write on until its time to live has passed, unless it is deleted
before: `LivesAt` says so in terms of what an observer sees of the calls of a store.

The slots of a store in memory say the same. `Tracks` relates the live slot of an id to the last
write of that id; each question of a call keeps the relation, whatever happens between two
questions, so each activity keeps it, and it holds after all of them.
-/

namespace KeyedState

open ContextStore
open MemoryStore (Lasts)

namespace Observation

/-- Whether a call writes context `id`: it is a write of it, or the deletion of one of its rows, and
it succeeds. -/
def writes (id : String) (o : Observation) : Bool :=
  match o.request, o.result with
  | .record id' _ _ _, .ok _ => id' = id
  | .deleteRow id' _, .ok (.flag deleted) => deleted && id' = id
  | _, _ => false

/-- Whether a call deletes context `id`, if it is there. -/
def deletes (id : String) (o : Observation) : Bool :=
  match o.request, o.result with
  | .delete id', .ok _ => id' = id
  | .deleteAll ids, .ok _ => id ∈ ids
  | .deleteMatching pattern, .ok _ => Life.isMatched pattern id
  | _, _ => false

/-- The time to live of context `id` after a call, from the one before: a write brings its own, or
that of the store, and nothing else changes it. -/
def applyTtl (store : ContextStore) (id : String) (ttl : Option Duration) (o : Observation) :
    Option Duration :=
  match o.request, o.result with
  | .record id' _ _ own, .ok _ => if id' = id then own.or store.defaultTtl else ttl
  | _, _ => ttl

/-- The last write of context `id` after a call, from the one before. There is none after a
deletion. -/
def lastWrite (id : String) (last : Option Observation) (o : Observation) : Option Observation :=
  if o.writes id then some o else if o.deletes id then none else last

end Observation

/-- The time to live that calls leave to context `id`. -/
def ttlOf (store : ContextStore) (id : String) (calls : List Observation) : Option Duration :=
  calls.foldl (Observation.applyTtl store id) none

/-- Whether context `id` is there at an instant, after some calls: one of them is a write of it, no
later one writes or deletes it, and the instant is before the end of the time to live that it has
since that write. -/
def LivesAt (store : ContextStore) (id : String) (calls : List Observation) (t : Instant) : Prop :=
  ∃ before o after, calls = before ++ o :: after ∧ o.writes id = true ∧
    (∀ o' ∈ after, o'.writes id = false ∧ o'.deletes id = false) ∧
    ∀ d, ttlOf store id (before ++ [o]) = some d →
      ∃ deadline, o.time.add? d = some deadline ∧ t.before deadline = true

/-! ## The last write -/

/-- The last write of a list of calls is the one that no later call writes over or deletes. -/
theorem foldl_lastWrite {id : String} {calls : List Observation} {last : Option Observation}
    {o : Observation} :
    calls.foldl (Observation.lastWrite id) last = some o ↔
      (last = some o ∧ ∀ o' ∈ calls, o'.writes id = false ∧ o'.deletes id = false) ∨
      ∃ before after, calls = before ++ o :: after ∧ o.writes id = true ∧
        ∀ o' ∈ after, o'.writes id = false ∧ o'.deletes id = false := by
  induction calls generalizing last with
  | nil =>
    refine ⟨fun h => .inl ⟨h, List.forall_mem_nil _⟩, fun h => ?_⟩
    rcases h with ⟨h, -⟩ | ⟨before, after, h, -⟩
    · exact h
    · cases before <;> cases h
  | cons o₁ calls ih =>
    rw [List.foldl_cons, ih]
    constructor
    · rintro (⟨hlast, hcalls⟩ | ⟨before, after, rfl, ho, hafter⟩)
      · rw [Observation.lastWrite] at hlast
        split at hlast
        · rename_i hwrites
          cases hlast
          exact .inr ⟨[], calls, rfl, hwrites, hcalls⟩
        split at hlast
        · cases hlast
        · rename_i hwrites hdeletes
          refine .inl ⟨hlast, List.forall_mem_cons.2 ⟨⟨?_, ?_⟩, hcalls⟩⟩
          · exact Bool.eq_false_iff.2 hwrites
          · exact Bool.eq_false_iff.2 hdeletes
      · exact .inr ⟨o₁ :: before, after, rfl, ho, hafter⟩
    · rintro (⟨hlast, hcalls⟩ | ⟨before, after, hsplit, ho, hafter⟩)
      · obtain ⟨⟨hwrites, hdeletes⟩, hcalls⟩ := List.forall_mem_cons.1 hcalls
        refine .inl ⟨?_, hcalls⟩
        rw [Observation.lastWrite, hwrites, hdeletes]
        exact hlast
      · rcases before with _ | ⟨o₂, before⟩
        · cases hsplit
          refine .inl ⟨?_, hafter⟩
          rw [Observation.lastWrite, if_pos ho]
        · cases hsplit
          exact .inr ⟨before, after, rfl, ho, hafter⟩

/-- A call that does not write a context leaves it its time to live. -/
theorem Observation.applyTtl_of_writes {id : String} {o : Observation} (h : o.writes id = false)
    (store : ContextStore) (ttl : Option Duration) : o.applyTtl store id ttl = ttl := by
  unfold writes at h
  unfold applyTtl
  split
  · rename_i hrequest hresult
    rw [hrequest, hresult] at h
    exact if_neg (of_decide_eq_false h)
  · rfl

theorem foldl_applyTtl {id : String} {calls : List Observation}
    (h : ∀ o ∈ calls, o.writes id = false) (store : ContextStore) (ttl : Option Duration) :
    calls.foldl (Observation.applyTtl store id) ttl = ttl := by
  induction calls with
  | nil => rfl
  | cons o calls ih =>
    obtain ⟨ho, hcalls⟩ := List.forall_mem_cons.1 h
    rw [List.foldl_cons, Observation.applyTtl_of_writes ho]
    exact ih hcalls

/-- A context lives as long as its last write lasts. -/
theorem livesAt_iff {store : ContextStore} {id : String} {calls : List Observation} {t : Instant} :
    LivesAt store id calls t ↔
      ∃ o, calls.foldl (Observation.lastWrite id) none = some o ∧
        ∀ d, ttlOf store id calls = some d →
          ∃ deadline, o.time.add? d = some deadline ∧ t.before deadline = true := by
  -- nothing after the last write changes the time to live
  have httl : ∀ {before after : List Observation} {o : Observation},
      (∀ o' ∈ after, o'.writes id = false ∧ o'.deletes id = false) →
      ttlOf store id (before ++ o :: after) = ttlOf store id (before ++ [o]) := by
    intro before after o hafter
    rw [List.append_cons, ttlOf, ttlOf, List.foldl_append]
    exact foldl_applyTtl (fun o' ho' => (hafter o' ho').1) store _
  constructor
  · rintro ⟨before, o, after, rfl, ho, hafter, hend⟩
    refine ⟨o, foldl_lastWrite.2 (.inr ⟨before, after, rfl, ho, hafter⟩), ?_⟩
    rw [httl hafter]
    exact hend
  · rintro ⟨o, hlast, hend⟩
    rcases foldl_lastWrite.1 hlast with ⟨hnone, -⟩ | ⟨before, after, rfl, ho, hafter⟩
    · cases hnone
    · rw [httl hafter] at hend
      exact ⟨before, o, after, rfl, ho, hafter, hend⟩

/-! ## Slots -/

/-- Whether what is written at one instant, with a time to live, is still there at another. -/
def outlasts (ttl : Option Duration) (now written : Instant) : Bool :=
  (ttl.bind written.add?).all (now.before ·)

theorem outlasts_of_le {ttl : Option Duration} {now later written : Instant}
    (h : later.before now = false) (hlater : outlasts ttl later written = true) :
    outlasts ttl now written = true := by
  have hlive : (⟨(), ttl.bind written.add?⟩ : Slot Unit).isLive later = true := hlater
  exact Slot.isLive_of_le h hlive

/-- What is written is still there as long as the time to live has not passed, if the end of that is
an instant. -/
theorem outlasts_iff {ttl : Option Duration} {now written : Instant}
    (h : ∀ d, ttl = some d → ∃ deadline, written.add? d = some deadline) :
    outlasts ttl now written = true ↔ ∀ d, ttl = some d →
      ∃ deadline, written.add? d = some deadline ∧ now.before deadline = true := by
  unfold outlasts
  rcases ttl with _ | d
  · exact iff_of_true rfl fun d hd => by cases hd
  · obtain ⟨deadline, hdeadline⟩ := h d rfl
    rw [Option.bind_some, hdeadline, Option.all_some]
    constructor
    · intro hnow d' hd'
      cases hd'
      exact ⟨deadline, hdeadline, hnow⟩
    · intro hend
      obtain ⟨deadline', hdeadline', hnow⟩ := hend d rfl
      rw [hdeadline] at hdeadline'
      cases hdeadline'
      exact hnow

/-- The live slot of context `id` is what its last write has left. -/
structure Tracks (id : String) (last : Option Observation) (ttl : Option Duration)
    (s : MemoryStore Context) : Prop where
  /-- There is a live slot as long as the write lasts, and it has the time to live of the write. -/
  shown : (s.live.get? id).map (fun slot => (slot.value.expiry, slot.deadline)) =
    (last.filter fun o => outlasts ttl s.now o.time).map fun o => (ttl, ttl.bind o.time.add?)
  /-- The end of the time to live is an instant. -/
  ends : ∀ o, last = some o → ∀ d, ttl = some d → ∃ deadline, o.time.add? d = some deadline
  /-- What is written has a name. -/
  named : last.isSome → validateId id = .ok ()

namespace Tracks

variable {id : String} {last : Option Observation} {ttl : Option Duration} {s : MemoryStore Context}

/-- Nothing else is visible in a store that shows the same time and the same live slot. -/
theorem of_live_eq (h : Tracks id last ttl s) {s' : MemoryStore Context} (hnow : s'.now = s.now)
    (hlive : s'.live.get? id = s.live.get? id) : Tracks id last ttl s' where
  shown := by
    rw [hlive, hnow]
    exact h.shown
  ends := h.ends
  named := h.named

/-- Nothing has been written, as far as the slot shows. -/
theorem of_live_eq_none (h : s.live.get? id = none) (ttl : Option Duration) :
    Tracks id none ttl s where
  shown := by
    rw [h]
    rfl
  ends := fun o ho => by cases ho
  named := fun hn => by cases hn

theorem move (h : Tracks id last ttl s) {m : ClockMove}
    (hm : (m.apply s.now).before s.now = false) : Tracks id last ttl (s.move m) where
  shown := by
    have hfilter : (s.move m).live.get? id =
        (s.live.get? id).filter (Slot.isLive (m.apply s.now)) := MemoryStore.live_get?_move s hm id
    have hshown := congrArg (Option.filter fun p => p.2.all ((m.apply s.now).before ·)) h.shown
    rw [Option.filter_map, Option.filter_map, Option.filter_filter] at hshown
    rw [hfilter]
    refine hshown.trans (congrArg _ (congrArg (Option.filter · last) ?_))
    funext o
    show (outlasts ttl s.now o.time && outlasts ttl (m.apply s.now) o.time) =
      outlasts ttl (m.apply s.now) o.time
    rw [Bool.and_eq_right_iff_imp]
    exact outlasts_of_le hm
  ends := h.ends
  named := h.named

theorem lasts : Lasts (Tracks id last ttl) where
  move := fun h hm => h.move hm
  purge := fun h => h.of_live_eq rfl (MemoryStore.live_get?_purge _ id)

/-- What has just been put is what the last write has left. -/
theorem setSlot {o : Observation} {c : Context} {deadline : Option Instant}
    (hid : validateId id = .ok ()) (ho : o.time = s.now)
    (hd : MemoryStore.deadline? s.now ttl = .ok deadline) (hc : c.expiry = ttl) :
    Tracks id (some o) ttl (s.setSlot id ⟨c, deadline⟩) where
  shown := by
    rw [MemoryStore.live_get?_setSlot, if_pos rfl, MemoryStore.deadline?_eq_ok hd,
      MemoryStore.now_setSlot, Option.filter_some, Option.filter_some, ho, Slot.isLive, outlasts]
    split
    · rw [Option.map_some, Option.map_some, hc, ho]
    · rfl
  ends := by
    rintro o' ho' d rfl
    cases ho'
    rw [MemoryStore.deadline?] at hd
    split at hd
    · rename_i i hi
      exact ⟨i, by rw [ho, hi]⟩
    · cases hd
  named := fun _ => hid

theorem setSlot_of_ne (h : Tracks id last ttl s) {id' : String} (hid : id' ≠ id)
    (slot : Slot Context) : Tracks id last ttl (s.setSlot id' slot) :=
  h.of_live_eq rfl (by rw [MemoryStore.live_get?_setSlot, if_neg (Ne.symm hid)])

theorem removeAll (h : Tracks id last ttl s) (ids : List String) :
    Tracks id (if id ∈ ids then none else last) ttl (s.removeAll ids) := by
  have hlive := s.live_get?_removeAll ids id
  by_cases hid : id ∈ ids
  · rw [if_pos hid] at hlive ⊢
    exact of_live_eq_none hlive ttl
  · rw [if_neg hid] at hlive ⊢
    exact h.of_live_eq (s.now_removeAll ids) hlive

/-- What is visible has the time to live of the last write, and that has not passed. -/
theorem of_get?_eq_some (h : Tracks id last ttl s) {c : Context} (hc : s.get? id = some c) :
    ∃ o, last = some o ∧ outlasts ttl s.now o.time = true ∧ c.expiry = ttl := by
  rw [MemoryStore.get?_eq_live, Option.map_eq_some_iff] at hc
  obtain ⟨slot, hslot, rfl⟩ := hc
  have hshown := h.shown
  rw [hslot, Option.map_some, eq_comm, Option.map_eq_some_iff] at hshown
  obtain ⟨o, ho, heq⟩ := hshown
  obtain ⟨hlast, houtlasts⟩ := Option.filter_eq_some_iff.1 ho
  exact ⟨o, hlast, houtlasts, (congrArg Prod.fst heq).symm⟩

/-- As long as the last write lasts, something is visible. -/
theorem get?_isSome_iff (h : Tracks id last ttl s) :
    (s.get? id).isSome ↔ ∃ o, last = some o ∧ outlasts ttl s.now o.time = true := by
  rw [MemoryStore.get?_eq_live, Option.isSome_map, ← Option.isSome_map (f := fun slot =>
    (slot.value.expiry, slot.deadline)), h.shown, Option.isSome_map, Option.isSome_iff_exists]
  simp only [Option.filter_eq_some_iff]

/-! ## Calls -/

section

variable {store : ContextStore} {s : RestlessStore} (wall : Instant)

theorem next (h : Tracks id last ttl s.store) (hf : s.IsForward) :
    Tracks id last ttl s.next.store ∧ s.next.IsForward :=
  hf.next lasts h

/-- Removals one after the other, whatever happens in between. -/
theorem removeEach (h : Tracks id last ttl s.store) (hf : s.IsForward) (order : KeyOrder)
    (ids : List String) : Tracks id (if id ∈ ids then none else last) ttl
      ((RestlessStore.host order).removeEach s ids).store := by
  rw [RestlessStore.removeEach_eq]
  exact (hf.iterate lasts h ids.length).1.removeAll ids

theorem record (h : Tracks id last ttl s.store) (hf : s.IsForward) (id' : String)
    (properties : List (String × String)) (row : Option ListOperation) (own : Option Duration) :
    let r := (Request.record id' properties row own).observe store wall s
    Tracks id (r.1.lastWrite id last) (r.1.applyTtl store id ttl) r.2 := by
  obtain ⟨h₁, hf₁⟩ := h.next hf
  obtain ⟨h₂, -⟩ := h₁.next hf₁
  simp only [Request.observe, Request.call, Call.run_map, RestlessStore.run_record]
  rcases hid : validateId id' with e | ⟨⟩
  · exact h
  rcases ttlFits wall (own.or store.defaultTtl) with e | ⟨⟩
  · exact h
  rcases hd : MemoryStore.deadline? s.next.next.store.now (own.or store.defaultTtl)
    with e | deadline
  · exact h₂
  simp only [Observation.lastWrite, Observation.writes, Observation.deletes, Observation.applyTtl,
    Except.map, decide_eq_true_eq]
  by_cases h' : id' = id
  · subst h'
    rw [if_pos rfl, if_pos rfl]
    exact setSlot hid rfl hd rfl
  · rw [if_neg h', if_neg h']
    exact h₂.setSlot_of_ne h' _

theorem deleteRow (h : Tracks id last ttl s.store) (hf : s.IsForward) (id' : String)
    (choice : ListDeletion) :
    let r := (Request.deleteRow id' choice).observe store wall s
    Tracks id (r.1.lastWrite id last) (r.1.applyTtl store id ttl) r.2 := by
  obtain ⟨h₁, hf₁⟩ := h.next hf
  obtain ⟨h₂, -⟩ := h₁.next hf₁
  simp only [Request.observe, Request.call, Call.run_map, RestlessStore.run_deleteRow]
  rcases hid : validateId id' with e | ⟨⟩
  · exact h
  rcases hc : (s.next.store.get? id').bind (·.deleteRow? choice) with _ | c
  · exact h₁
  simp only
  rcases hd : MemoryStore.deadline? s.next.next.store.now c.expiry with e | deadline
  · exact h₂
  simp only [Observation.lastWrite, Observation.writes, Observation.deletes, Observation.applyTtl,
    Except.map, Bool.true_and, decide_eq_true_eq]
  by_cases h' : id' = id
  · subst h'
    -- the context that was read has the time to live of the write before
    obtain ⟨c', hc', hrow⟩ := Option.bind_eq_some_iff.1 hc
    obtain ⟨i, -, rfl⟩ := Option.map_eq_some_iff.1 hrow
    obtain ⟨-, -, -, hexpiry⟩ := h₁.of_get?_eq_some hc'
    rw [if_pos rfl]
    exact setSlot hid rfl (hexpiry ▸ hd) hexpiry
  · rw [if_neg h']
    exact h₂.setSlot_of_ne h' _

theorem delete (h : Tracks id last ttl s.store) (hf : s.IsForward) (id' : String) :
    let r := (Request.delete id').observe store wall s
    Tracks id (r.1.lastWrite id last) (r.1.applyTtl store id ttl) r.2 := by
  have hdelete := h.removeEach hf .increasing [id']
  simp only [Request.observe, Request.call, Call.run_map, MemoryHost.run_delete]
  rcases validateId id' with e | ⟨⟩
  · exact h
  simp only [Observation.lastWrite, Observation.writes, Observation.deletes, Observation.applyTtl,
    Except.map, decide_eq_true_eq, Bool.false_eq_true, if_false, eq_comm (a := id'),
    List.mem_singleton] at hdelete ⊢
  exact hdelete

theorem deleteAll (h : Tracks id last ttl s.store) (hf : s.IsForward) (ids : List String) :
    let r := (Request.deleteAll ids).observe store wall s
    Tracks id (r.1.lastWrite id last) (r.1.applyTtl store id ttl) r.2 := by
  simp only [Request.observe, Request.call, Call.run_map, MemoryHost.run_deleteAll]
  rcases ids.forM validateId with e | ⟨⟩
  · exact h
  simp only [Observation.lastWrite, Observation.writes, Observation.deletes, Observation.applyTtl,
    Except.map, decide_eq_true_eq, Bool.false_eq_true, if_false]
  exact h.removeEach hf .increasing ids

theorem deleteMatching (h : Tracks id last ttl s.store) (hf : s.IsForward) (pattern : String) :
    let r := (Request.deleteMatching pattern).observe store wall s
    Tracks id (r.1.lastWrite id last) (r.1.applyTtl store id ttl) r.2 := by
  obtain ⟨h₁, hf₁⟩ := h.next hf
  simp only [Request.observe, Request.call, Call.run_map, MemoryHost.run_deleteMatching]
  rcases hp : WholePattern.compile pattern with e | p
  · exact h
  have hdelete : Tracks id (if id ∈ s.next.store.keys.filter p.accepts then none else last) ttl
      ((RestlessStore.host .increasing).removeEach s.next
        (s.next.store.keys.filter p.accepts)).store := h₁.removeEach hf₁ ..
  simp only [Observation.lastWrite, Observation.writes, Observation.deletes,
    Observation.applyTtl, Except.map, Life.isMatched_eq hp, Bool.false_eq_true, if_false]
  by_cases hid : p.accepts id = true
  · rw [if_pos hid]
    by_cases hkey : id ∈ s.next.store.keys
    · rw [if_pos (List.mem_filter.2 ⟨hkey, hid⟩)] at hdelete
      exact hdelete
    · -- an id that is not visible is not removed, but there is nothing left of it
      rw [MemoryStore.mem_keys_iff, MemoryStore.get?_eq_live, Option.isSome_map,
        Option.not_isSome_iff_eq_none] at hkey
      have hnone := (of_live_eq_none hkey ttl).removeEach hf₁ .increasing
        (s.next.store.keys.filter p.accepts)
      rw [ite_self] at hnone
      exact hnone
  · rw [if_neg fun hm => hid (List.mem_filter.1 hm).2] at hdelete
    rw [if_neg hid]
    exact hdelete

/-- A call that only reads changes nothing that can be observed. -/
theorem of_reads (h : Tracks id last ttl s.store) (hf : s.IsForward) {r : Request}
    (hreads : (r.call store).steps.Reads)
    (hsilent : ∀ o : Observation, o.request = r →
      o.lastWrite id last = last ∧ o.applyTtl store id ttl = ttl) :
    let r := r.observe store wall s
    Tracks id (r.1.lastWrite id last) (r.1.applyTtl store id ttl) r.2 := by
  intro r'
  obtain ⟨hlast, httl⟩ := hsilent r'.1 rfl
  rw [hlast, httl]
  exact hreads.run lasts .increasing wall hf h

/-- Each call keeps the last write of every id and its slot together. -/
theorem call (h : Tracks id last ttl s.store) (hf : s.IsForward) (r : Request) :
    let r := r.observe store wall s
    Tracks id (r.1.lastWrite id last) (r.1.applyTtl store id ttl) r.2 := by
  cases r with
  | record id' properties row own => exact h.record wall hf id' properties row own
  | delete id' => exact h.delete wall hf id'
  | deleteAll ids => exact h.deleteAll wall hf ids
  | deleteMatching pattern => exact h.deleteMatching wall hf pattern
  | deleteRow id' choice => exact h.deleteRow wall hf id' choice
  | get id' =>
    refine h.of_reads wall hf (Call.reads_map (reads_get id') _) ?_
    rintro ⟨t, r, result⟩ rfl
    exact ⟨rfl, rfl⟩
  | has id' =>
    refine h.of_reads wall hf (Call.reads_map (reads_has id') _) ?_
    rintro ⟨t, r, result⟩ rfl
    exact ⟨rfl, rfl⟩
  | snapshot =>
    refine h.of_reads wall hf (Call.reads_map reads_snapshot _) ?_
    rintro ⟨t, r, result⟩ rfl
    exact ⟨rfl, rfl⟩

end

/-! ## Activities -/

theorem runAll {store : ContextStore} {as : List Activity} (h : Tracks id last ttl s)
    (hf : Activity.AreForward store as s) :
    let r := Activity.runAll store as s
    Tracks id (r.1.foldl (Observation.lastWrite id) last)
      (r.1.foldl (Observation.applyTtl store id) ttl) r.2 := by
  induction as generalizing last ttl s with
  | nil => exact h
  | cons a as ih =>
    obtain ⟨ha, has⟩ := hf
    simp only [Activity.runAll, List.foldl_append]
    refine ih ?_ has
    cases a with
    | call wall interludes r => exact h.call (s := ⟨s, interludes⟩) wall ha r
    | matching wall interludes m request parameters =>
      exact (m.reads_matchRequest request parameters).run lasts .increasing wall
        (s := ⟨s, interludes⟩) ha h
    | between i => exact lasts.pass ha h

/-- A store that starts empty shows what an observer knows. -/
theorem of_new {store : ContextStore} {as : List Activity} {start : Instant}
    (hf : Activity.AreForward store as (.new start)) (id : String) :
    let r := Activity.runAll store as (.new start)
    Tracks id (r.1.foldl (Observation.lastWrite id) none) (ttlOf store id r.1) r.2 :=
  runAll (of_live_eq_none rfl none) hf

/-- What is visible is what lives. -/
theorem get?_isSome_iff_livesAt {store : ContextStore} {calls : List Observation}
    (h : Tracks id (calls.foldl (Observation.lastWrite id) none) (ttlOf store id calls) s) :
    (s.get? id).isSome ↔ LivesAt store id calls s.now := by
  rw [h.get?_isSome_iff, livesAt_iff]
  exact exists_congr fun o => and_congr_right fun ho => outlasts_iff (h.ends o ho)

end Tracks

/-- **A context is there from its last write on, until its time to live has passed.** Over a store
in memory that starts empty, that nobody else writes and whose clock never moves back, however it
moves between calls or within one: at every instant `t` from then on, a context is read, and its key
is listed, exactly where one of the calls is a successful write of it, no later one writes or
deletes it, and `t` is before the end of its time to live since that write. The context that is read
has that time to live, no key is listed twice, and the size of the store is the number of keys. -/
theorem visible_iff_livesAt (store : ContextStore) (start : Instant) {as : List Activity}
    (hf : Activity.AreForward store as (.new start)) {t : Instant}
    (ht : t.before (Activity.runAll store as (.new start)).2.now = false) :
    let calls := (Activity.runAll store as (.new start)).1
    let s := (Activity.runAll store as (.new start)).2.move (.set t)
    (∀ id wall, (∃ c, ((ContextStore.get id).run MemoryStore.backend wall s).1 = .ok (some c)) ↔
      LivesAt store id calls t) ∧
    (∀ id wall c, ((ContextStore.get id).run MemoryStore.backend wall s).1 = .ok (some c) →
      c.expiry = ttlOf store id calls) ∧
    (∀ id, id ∈ s.keys ↔ LivesAt store id calls t) ∧
    s.keys.Nodup ∧ s.size = s.keys.length := by
  intro calls s
  have htracks : ∀ id, Tracks id (calls.foldl (Observation.lastWrite id) none)
      (ttlOf store id calls) s := fun id => (Tracks.of_new hf id).move ht
  have hlives : ∀ id, (s.get? id).isSome ↔ LivesAt store id calls t :=
    fun id => (htracks id).get?_isSome_iff_livesAt
  refine ⟨fun id wall => ?_, fun id wall c hc => ?_, fun id => ?_, ?_, ?_⟩
  · rw [← hlives, Option.isSome_iff_exists]
    constructor
    · rintro ⟨c, hc⟩
      exact ⟨c, get?_of_run_get hc⟩
    · rintro ⟨c, hc⟩
      obtain ⟨o, ho, -⟩ := (htracks id).of_get?_eq_some hc
      rw [run_get, (htracks id).named (Option.isSome_of_eq_some ho), hc]
      exact ⟨c, rfl⟩
  · obtain ⟨-, -, -, hexpiry⟩ := (htracks id).of_get?_eq_some (get?_of_run_get hc)
    exact hexpiry
  · exact MemoryStore.mem_keys_iff.trans (hlives id)
  · exact KeyMap.nodup_keys s.live
  · exact (List.length_map _).symm

/-- Two contexts are written. One is only looked at afterwards; the other one loses a row, and while
that call is being made the clock moves. -/
def refreshed : List Activity :=
  [.call .epoch []
     (.record "a" [] (some (.addLast (.ofList [("k", "1")]))) (some (.ofSeconds ⟨40, by decide⟩))),
   .call .epoch [] (.record "b" [] none none),
   .between (.move (.advance (.ofSeconds ⟨32, by decide⟩))),
   .matching .epoch [[.purge]] {} .null (.object [("hasContext", .str "b")]),
   .call .epoch [] (.deleteRow "b" .first),
   .call .epoch [[], [.move (.advance (.ofSeconds ⟨4, by decide⟩)), .purge]]
     (.deleteRow "a" .first)]

/-- When the time to live of the second context has just passed, the first one is still there. -/
theorem keys_of_refreshed :
    let store : ContextStore := ⟨some (.ofSeconds ⟨40, by decide⟩)⟩
    let t : Instant := ⟨40, 0, by decide, by decide, by decide⟩
    let r := Activity.runAll store refreshed (.new .epoch)
    Activity.AreForward store refreshed (.new .epoch) ∧ t.before r.2.now = false ∧
      (r.2.move (.set t)).keys = ["a"] ∧ LivesAt store "a" r.1 t ∧ ¬ LivesAt store "b" r.1 t := by
  intro store t r
  have hf : Activity.AreForward store refreshed (.new .epoch) := by decide +kernel
  have ht : t.before r.2.now = false := by decide +kernel
  have hkeys : (r.2.move (.set t)).keys = ["a"] := by decide +kernel
  obtain ⟨-, -, hlives, -⟩ := visible_iff_livesAt store .epoch hf ht
  refine ⟨hf, ht, hkeys, (hlives "a").1 ?_, fun hb => ?_⟩
  · rw [hkeys]
    exact List.mem_singleton.2 rfl
  · have hmem := (hlives "b").2 hb
    rw [hkeys] at hmem
    exact absurd (List.mem_singleton.1 hmem) (by decide)

end KeyedState

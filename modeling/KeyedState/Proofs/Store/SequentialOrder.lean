import KeyedState.Proofs.Storage.Live
import KeyedState.Proofs.Store.Atomicity
import KeyedState.Proofs.Store.ThreadStep

/-!
# Threads and one sequential order

However the steps of threads interleave, the calls of the threads could have been made one after the
other: some order of them, in which each thread keeps its own order, gives every call the result
that it had and leaves the same store behind.

The order is that in which the calls are served. A call is served by one of its steps: by the read
of a call that takes no lock, by the change of a call that makes one, and by the release of the lock
where there was nothing to change (`Threads.Stage.advance`). From the moment at which a thread
takes the lock of a key until it gives it back, no other thread changes what is stored under that
key (`Threads.Undisturbed`), so what the thread has read is still so when its call is served.
-/

namespace KeyedState

/-! ## Calls that have been served -/

/-- A call that has been served. -/
structure Served where
  /-- The thread that makes the call. -/
  thread : Nat
  /-- What the wall clock shows to the call. -/
  wall : Instant
  /-- The request. -/
  request : Request
  /-- The result. -/
  result : Except StateError Reply

namespace Served

/-- The call by itself. -/
def event (e : Served) : StoreEvent := .call e.wall e.request

/-- What the call returns. -/
def answer (e : Served) : Request × Except StateError Reply := (e.request, e.result)

end Served

/-- What one thread has been served, in order. -/
def servedTo (t : Nat) (order : List Served) : Results :=
  (order.filter fun e => e.thread = t).map Served.answer

theorem servedTo_append_self (order : List Served) (e : Served) :
    servedTo e.thread (order ++ [e]) = servedTo e.thread order ++ [e.answer] := by
  have hself : [e].filter (fun e' => e'.thread = e.thread) = [e] :=
    List.filter_cons_of_pos (decide_eq_true rfl)
  rw [servedTo, List.filter_append, hself, List.map_append]
  rfl

theorem servedTo_append_of_ne (order : List Served) {e : Served} {t : Nat} (h : t ≠ e.thread) :
    servedTo t (order ++ [e]) = servedTo t order := by
  have hnone : [e].filter (fun e' => e'.thread = t) = [] :=
    List.filter_cons_of_neg fun he => h (of_decide_eq_true he).symm
  rw [servedTo, List.filter_append, hnone, List.append_nil]
  rfl

/-- A put leaves the clock and what is under other keys as they are, even if it fails. -/
theorem MemoryStore.backend_put_other (s : MemoryStore Context) (key : String) (value : Context)
    (ttl : Option Duration) :
    (MemoryStore.backend.put key value ttl s).2.now = s.now ∧
      ∀ key' ≠ key, (MemoryStore.backend.put key value ttl s).2.slots.get? key' =
        s.slots.get? key' := by
  simp only [backend, put_eq]
  rcases deadline? s.now ttl with e | deadline
  · exact ⟨rfl, fun _ _ => rfl⟩
  · refine ⟨rfl, fun key' hne => ?_⟩
    show (s.setSlot key ⟨value, deadline⟩).slots.get? key' = _
    rw [slots_get?_setSlot, if_neg hne]

/-- One more call at the end of a history. -/
theorem History.run_append_call {store : ContextStore} {es : History} {s s' s'' : MemoryStore Context}
    {results : Results} (h : History.run store es s = (results, s')) {e : Served}
    (he : (e.request.call store).run MemoryStore.backend e.wall s' = (e.result, s'')) :
    History.run store (es ++ [e.event]) s = (results ++ [e.answer], s'') := by
  have hcall : History.run store [e.event] s' = ([e.answer], s'') := by
    show ((some (e.request, ((e.request.call store).run MemoryStore.backend e.wall s').1)).toList ++
      [], ((e.request.call store).run MemoryStore.backend e.wall s').2) = _
    rw [he]
    rfl
  rw [History.run_append, h, hcall]

namespace Threads

variable {store : ContextStore}

/-! ## What a thread relies on -/

/-- Nothing that a thread relies on changes: the clock shows the same time, and for each key whose
lock the thread holds, it still holds the lock and the same is stored. -/
structure Undisturbed (t : Nat) (s : MemoryStore Context) (holders : KeyMap Nat)
    (s' : MemoryStore Context) (holders' : KeyMap Nat) : Prop where
  /-- The clock. -/
  now : s'.now = s.now
  /-- The locks. -/
  held : ∀ {key}, holders.get? key = some t → holders'.get? key = some t
  /-- The slots. -/
  slot : ∀ {key}, holders.get? key = some t → s'.slots.get? key = s.slots.get? key

namespace Undisturbed

variable {t u : Nat} {s s' : MemoryStore Context} {holders : KeyMap Nat} {key : String}

theorem refl (t : Nat) (s : MemoryStore Context) (holders : KeyMap Nat) :
    Undisturbed t s holders s holders :=
  ⟨rfl, id, fun _ => rfl⟩

/-- The lock that another thread takes was free. -/
theorem lock (h : ¬ holders.contains key = true) (t : Nat) :
    Undisturbed u s holders s (holders.insert key t) := by
  refine ⟨rfl, fun {key'} hheld => ?_, fun _ => rfl⟩
  have hne : key' ≠ key := by
    rintro rfl
    rw [KeyMap.contains, hheld] at h
    exact h rfl
  rw [KeyMap.get?_insert, if_neg hne]
  exact hheld

/-- A lock is held by one thread. -/
theorem ne_of_held (h : holders.get? key = some t) (hu : u ≠ t) {key' : String}
    (h' : holders.get? key' = some u) : key' ≠ key := by
  rintro rfl
  rw [h] at h'
  exact hu (Option.some.inj h').symm

/-- The lock that another thread gives back is its own. -/
theorem unlock (h : holders.get? key = some t) (hu : u ≠ t) :
    Undisturbed u s holders s (holders.erase key) := by
  refine ⟨rfl, fun {key'} hheld => ?_, fun _ => rfl⟩
  rw [KeyMap.get?_erase, if_neg (ne_of_held h hu hheld)]
  exact hheld

/-- What another thread changes is under a key whose lock it holds. -/
theorem write (h : holders.get? key = some t) (hu : u ≠ t) (hnow : s'.now = s.now)
    (hslot : ∀ key' ≠ key, s'.slots.get? key' = s.slots.get? key') :
    Undisturbed u s holders s' holders :=
  ⟨hnow, id, fun hheld => hslot _ (ne_of_held h hu hheld)⟩

end Undisturbed

/-- Two stores show the same time and store the same under a key. -/
def AgreeAt (key : String) (s s' : MemoryStore Context) : Prop :=
  s'.now = s.now ∧ s'.slots.get? key = s.slots.get? key

theorem AgreeAt.get?_eq {key : String} {s s' : MemoryStore Context} (h : AgreeAt key s s') :
    s'.get? key = s.get? key := by
  rw [MemoryStore.get?, MemoryStore.get?, h.1, h.2]

/-! ## How far a call is -/

/-- How far the call of a request is whose thread has the given steps left, and what it has been
served, if it has been. As long as it has not been, the steps that are left do what the whole call
does: from any store, or, for a thread that holds a lock, from any store that agrees with the
present one on the key of the lock. -/
inductive Stage (store : ContextStore) (schedule : List (Nat × Instant)) (t : Nat) (r : Request)
    (s : MemoryStore Context) (holders : KeyMap Nat) :
    Option (Except StateError Reply) → Procedure (Except StateError Reply) → Prop where
  | begun (h : Procedure.IsAtomic (r.call store).steps) :
    Stage store schedule t r s holders none (r.call store).steps
  | steady {p : Procedure (Except StateError Reply)} {wall : Instant}
    (hwall : (t, wall) ∈ schedule) (h : p.IsSteady)
    (hrun : ∀ s, p.run MemoryStore.backend wall s =
      (r.call store).run MemoryStore.backend wall s) :
    Stage store schedule t r s holders none p
  | guarded {p : Procedure (Except StateError Reply)} {wall : Instant} {key : String}
    (hwall : (t, wall) ∈ schedule) (h : p.IsGuarded key) (hheld : holders.get? key = some t)
    (hrun : ∀ s', AgreeAt key s s' → p.run MemoryStore.backend wall s' =
      (r.call store).run MemoryStore.backend wall s') :
    Stage store schedule t r s holders none p
  | closing {key : String} (a : Except StateError Reply) (hheld : holders.get? key = some t) :
    Stage store schedule t r s holders (some a) (.unlock key (.done a))
  | closed (a : Except StateError Reply) : Stage store schedule t r s holders (some a) (.done a)

/-- What a step does for a call: nothing that can be seen, or it serves the call as a whole. -/
def Serves (store : ContextStore) (schedule : List (Nat × Instant)) (t : Nat) (r : Request)
    (s s' : MemoryStore Context) (answer answer' : Option (Except StateError Reply)) : Prop :=
  (answer' = answer ∧ s' = s) ∨
    ∃ wall result, (t, wall) ∈ schedule ∧ answer = none ∧ answer' = some result ∧
      (r.call store).run MemoryStore.backend wall s = (result, s')

namespace Stage

variable {schedule : List (Nat × Instant)} {t : Nat} {r : Request} {s s' : MemoryStore Context}
  {holders holders' : KeyMap Nat} {answer : Option (Except StateError Reply)}
  {p p' : Procedure (Except StateError Reply)} {wall : Instant} {key : String}

/-- What other threads do does not touch how far a call is. -/
theorem of_undisturbed (h : Stage store schedule t r s holders answer p)
    (hs : Undisturbed t s holders s' holders') : Stage store schedule t r s' holders' answer p := by
  cases h with
  | begun h => exact .begun h
  | steady hwall h hrun => exact .steady hwall h hrun
  | guarded hwall h hheld hrun =>
    refine .guarded hwall h (hs.held hheld) fun s'' hs'' => hrun s'' ⟨?_, ?_⟩
    · exact hs''.1.trans hs.now
    · exact hs''.2.trans (hs.slot hheld)
  | closing a hheld => exact .closing a (hs.held hheld)
  | closed a => exact .closed a

/-- The result of a call that ends is what it has been served, if only at its end. -/
theorem finish {result : Except StateError Reply}
    (h : Stage store schedule t r s holders answer p) (hp : p = .done result)
    (hwall : (t, wall) ∈ schedule) : Serves store schedule t r s s answer (some result) := by
  cases h with
  | begun h =>
    refine .inr ⟨wall, result, hwall, rfl, rfl, ?_⟩
    rw [Call.run, hp]
    rfl
  | @steady _ wall' hwall' h hrun =>
    refine .inr ⟨wall', result, hwall', rfl, rfl, ?_⟩
    rw [← hrun, hp]
    rfl
  | guarded _ h =>
    rw [hp] at h
    cases h
  | closing a => cases hp
  | closed a =>
    cases hp
    exact .inl ⟨rfl, rfl⟩

/-! ## One step of a call -/

/-- What comes of a step: the stage after it, what it has served, and that no other thread is
disturbed. -/
def Advances (store : ContextStore) (schedule : List (Nat × Instant)) (t : Nat) (r : Request)
    (s : MemoryStore Context) (holders : KeyMap Nat) (answer : Option (Except StateError Reply))
    (after : Procedure (Except StateError Reply) × MemoryStore Context × KeyMap Nat) : Prop :=
  ∃ answer', Stage store schedule t r after.2.1 after.2.2 answer' after.1 ∧
    Serves store schedule t r s after.2.1 answer answer' ∧
    ∀ u ≠ t, Undisturbed u s holders after.2.1 after.2.2

variable {after : Procedure (Except StateError Reply) × MemoryStore Context × KeyMap Nat}

/-- Without a lock, a call is served by its read, or it takes a lock. -/
theorem advance_steady {wall' : Instant} (hwall : (t, wall') ∈ schedule) (h : p.IsSteady)
    (hrun : ∀ s, p.run MemoryStore.backend wall' s =
      (r.call store).run MemoryStore.backend wall' s)
    (hp : advance? MemoryStore.backend wall t s holders p = some after) :
    Advances store schedule t r s holders none after := by
  cases h with
  | done a => cases hp
  | @read key next h =>
    obtain ⟨a, ha⟩ := h (.ok (s.get? key))
    have hafter : after = (.done a, s, holders) := by
      rw [← ha]
      exact (Option.some.inj hp).symm
    have hserved : (r.call store).run MemoryStore.backend wall' s = (a, s) := by
      rw [← hrun]
      show (next (.ok (s.get? key))).run MemoryStore.backend wall' s = _
      rw [ha]
      rfl
    rw [hafter]
    exact ⟨some a, .closed a, .inr ⟨wall', a, hwall, rfl, rfl, hserved⟩,
      fun u _ => .refl u s holders⟩
  | @lock key p h =>
    rw [advance?] at hp
    split at hp
    · cases hp
    · rename_i hfree
      cases hp
      refine ⟨none, .guarded hwall h ?_ fun s' _ => hrun s', .inl ⟨rfl, rfl⟩, fun u _ => ?_⟩
      · rw [KeyMap.get?_insert, if_pos rfl]
      · exact .lock hfree t

/-- The change of a call is the last thing that it asks for. -/
theorem advance_change {wall' : Instant} {a : Except StateError Reply}
    (hwall : (t, wall') ∈ schedule) (hheld : holders.get? key = some t)
    (hserved : (r.call store).run MemoryStore.backend wall' s = (a, s')) (hnow : s'.now = s.now)
    (hslot : ∀ key' ≠ key, s'.slots.get? key' = s.slots.get? key') :
    Advances store schedule t r s holders none (.unlock key (.done a), s', holders) :=
  ⟨some a, .closing a hheld, .inr ⟨wall', a, hwall, rfl, rfl, hserved⟩,
    fun _ hu => .write hheld hu hnow hslot⟩

/-- With a lock, a call is served by its change, or by giving the lock back. -/
theorem advance_guarded {wall' : Instant} (hwall : (t, wall') ∈ schedule) (h : p.IsGuarded key)
    (hheld : holders.get? key = some t)
    (hrun : ∀ s', AgreeAt key s s' → p.run MemoryStore.backend wall' s' =
      (r.call store).run MemoryStore.backend wall' s')
    (hp : advance? MemoryStore.backend wall t s holders p = some after) :
    Advances store schedule t r s holders none after := by
  have hself : AgreeAt key s s := ⟨rfl, rfl⟩
  cases h with
  | release a =>
    cases hp
    refine ⟨some a, .closed a, .inr ⟨wall', a, hwall, rfl, rfl, ?_⟩, fun u hu => ?_⟩
    · rw [← hrun s hself]
      rfl
    · exact .unlock hheld hu
  | @get next h =>
    cases hp
    refine ⟨none, .guarded hwall (h _) hheld fun s' hs' => ?_, .inl ⟨rfl, rfl⟩, fun u _ => ?_⟩
    · -- what has been read is what a read from the other store finds
      rw [← hrun s' hs']
      show _ = (next (.ok (s'.get? key))).run MemoryStore.backend wall' s'
      rw [hs'.get?_eq]
    · exact .refl u s holders
  | @put value ttl next h =>
    obtain ⟨a, ha⟩ := h (MemoryStore.backend.put key value ttl s).1
    obtain ⟨hnow, hslot⟩ := s.backend_put_other key value ttl
    have hafter : after = (.unlock key (.done a), (MemoryStore.backend.put key value ttl s).2,
        holders) := by
      rw [← ha]
      exact (Option.some.inj hp).symm
    rw [hafter]
    refine advance_change hwall hheld ?_ hnow hslot
    rw [← hrun s hself]
    show (next (MemoryStore.backend.put key value ttl s).1).run MemoryStore.backend wall' _ = _
    rw [ha]
    rfl
  | @remove next h =>
    obtain ⟨a, ha⟩ := h (.ok ())
    have hafter : after = (.unlock key (.done a), s.remove key, holders) := by
      rw [← ha]
      exact (Option.some.inj hp).symm
    rw [hafter]
    refine advance_change hwall hheld ?_ rfl fun key' hne => ?_
    · rw [← hrun s hself]
      show (next (.ok ())).run MemoryStore.backend wall' (s.remove key) = _
      rw [ha]
      rfl
    · rw [MemoryStore.slots_get?_remove, if_neg hne]

/-- A step of a call. -/
theorem advance (h : Stage store schedule t r s holders answer p) (hwall : (t, wall) ∈ schedule)
    (hp : advance? MemoryStore.backend wall t s holders p = some after) :
    Advances store schedule t r s holders answer after := by
  cases h with
  | begun h =>
    generalize hcall : (r.call store).steps = p at h hp
    have hrun : ∀ s, p.run MemoryStore.backend wall s =
        (r.call store).run MemoryStore.backend wall s := by
      intro s
      rw [← hcall]
      rfl
    cases h with
    | steady h => exact advance_steady hwall h hrun hp
    | @wallClock next h =>
      cases hp
      exact ⟨none, .steady hwall (h wall) hrun, .inl ⟨rfl, rfl⟩, fun u _ => .refl u s holders⟩
  | steady hwall' h hrun => exact advance_steady hwall' h hrun hp
  | guarded hwall' h hheld hrun => exact advance_guarded hwall' h hheld hrun hp
  | closing a hheld =>
    cases hp
    exact ⟨some a, .closed a, .inl ⟨rfl, rfl⟩, fun u hu => .unlock hheld hu⟩
  | closed a => cases hp

end Stage

/-! ## The order in which calls are served -/

/-- What a thread has to do, what it has done and what it has been served fit together. -/
inductive Consistent (store : ContextStore) (schedule : List (Nat × Instant)) (t : Nat)
    (s : MemoryStore Context) (holders : KeyMap Nat) (program : List Request) (served : Results) :
    Thread → Prop where
  | idle {waiting : List Request} {results : Results}
    (hprogram : program = results.reverse.map Prod.fst ++ waiting)
    (hserved : served = results.reverse) :
    Consistent store schedule t s holders program served ⟨none, waiting, results⟩
  | busy {r : Request} {p : Procedure (Except StateError Reply)} {waiting : List Request}
    {results : Results} {answer : Option (Except StateError Reply)}
    (hprogram : program = results.reverse.map Prod.fst ++ r :: waiting)
    (hstage : Stage store schedule t r s holders answer p)
    (hserved : served = results.reverse ++ (answer.map (r, ·)).toList) :
    Consistent store schedule t s holders program served ⟨some (r, p), waiting, results⟩

theorem Consistent.of_undisturbed {schedule : List (Nat × Instant)} {t : Nat}
    {s s' : MemoryStore Context} {holders holders' : KeyMap Nat} {program : List Request}
    {served : Results} {th : Thread}
    (h : Consistent store schedule t s holders program served th)
    (hs : Undisturbed t s holders s' holders') :
    Consistent store schedule t s' holders' program served th := by
  cases h with
  | idle hprogram hserved => exact .idle hprogram hserved
  | busy hprogram hstage hserved => exact .busy hprogram (hstage.of_undisturbed hs) hserved

/-- The calls served so far, made one after the other from the first store, have the same results
and lead to the present store, and every thread is consistent with them. -/
structure Linearized (store : ContextStore) (schedule : List (Nat × Instant))
    (s₀ : MemoryStore Context) (programs : List (List Request)) (order : List Served)
    (m : Threads (MemoryStore Context)) : Prop where
  /-- The history of the calls. -/
  history : History.run store (order.map Served.event) s₀ = (order.map Served.answer, m.storage)
  /-- Each call was served by a time that the clock showed to its thread. -/
  walls : ∀ e ∈ order, (e.thread, e.wall) ∈ schedule
  /-- The threads. -/
  threads : ∀ t, Consistent store schedule t m.storage m.holders (programs[t]?.getD [])
    (servedTo t order) (m.thread t)

section Linearized

variable {schedule : List (Nat × Instant)} {s₀ : MemoryStore Context}
  {programs : List (List Request)} {order : List Served} {m m' : Threads (MemoryStore Context)}
  {t : Nat} {wall : Instant}

/-- Before the first step no call has been served. -/
theorem linearized_start (store : ContextStore) (schedule : List (Nat × Instant))
    (s : MemoryStore Context) (programs : List (List Request)) :
    Linearized store schedule s programs [] (start s programs) where
  history := rfl
  walls := List.forall_mem_nil _
  threads t := by
    have hthread : (start s programs).thread t = ⟨none, programs[t]?.getD [], []⟩ := by
      rw [thread, start, List.getElem?_map]
      rcases programs[t]? with _ | program
      · rfl
      · rfl
    rw [hthread]
    exact .idle rfl rfl

/-- What is served goes to the end of the order. -/
theorem Serves.append {r : Request} {s s' : MemoryStore Context}
    {answer answer' : Option (Except StateError Reply)} {results : Results}
    (h : Serves store schedule t r s s' answer answer')
    (hhistory : History.run store (order.map Served.event) s₀ = (order.map Served.answer, s))
    (hwalls : ∀ e ∈ order, (e.thread, e.wall) ∈ schedule)
    (hserved : servedTo t order = results ++ (answer.map (r, ·)).toList) :
    ∃ order' : List Served,
      History.run store (order'.map Served.event) s₀ = (order'.map Served.answer, s') ∧
      (∀ e ∈ order', (e.thread, e.wall) ∈ schedule) ∧
      servedTo t order' = results ++ (answer'.map (r, ·)).toList ∧
      ∀ u ≠ t, servedTo u order' = servedTo u order := by
  rcases h with ⟨rfl, rfl⟩ | ⟨wall, result, hwall, rfl, rfl, hrun⟩
  · exact ⟨order, hhistory, hwalls, hserved, fun _ _ => rfl⟩
  · let e : Served := ⟨t, wall, r, result⟩
    refine ⟨order ++ [e], ?_, ?_, ?_, fun u hu => servedTo_append_of_ne order hu⟩
    · rw [List.map_append, List.map_append]
      exact History.run_append_call hhistory hrun
    · intro e' he'
      rcases List.mem_append.1 he' with he' | he'
      · exact hwalls e' he'
      · rw [List.mem_singleton.1 he']
        exact hwall
    · rw [show t = e.thread from rfl, servedTo_append_self]
      show servedTo t order ++ _ = _
      rw [hserved]
      exact congrArg (· ++ [(r, result)]) (List.append_nil results)

/-- Only the thread that takes a step has to be looked at. -/
theorem Linearized.update (h : Linearized store schedule s₀ programs order m) {th th' : Thread}
    (hth : m.threads[t]? = some th) {order' : List Served} {s' : MemoryStore Context}
    {holders' : KeyMap Nat}
    (hhistory : History.run store (order'.map Served.event) s₀ = (order'.map Served.answer, s'))
    (hwalls : ∀ e ∈ order', (e.thread, e.wall) ∈ schedule)
    (hothers : ∀ u ≠ t, servedTo u order' = servedTo u order)
    (hs : ∀ u ≠ t, Undisturbed u m.storage m.holders s' holders')
    (hself : Consistent store schedule t s' holders' (programs[t]?.getD []) (servedTo t order')
      th') :
    Linearized store schedule s₀ programs order' ⟨s', holders', m.threads.set t th'⟩ where
  history := hhistory
  walls := hwalls
  threads u := by
    rw [thread_set hth]
    by_cases hu : u = t
    · rw [if_pos hu, hu]
      exact hself
    · rw [if_neg hu, hothers u hu]
      exact (h.threads u).of_undisturbed (hs u hu)

theorem isSome_id?_of_mem (hprograms : ∀ program ∈ programs, ∀ r ∈ program, r.id?.isSome)
    {r : Request} (hr : r ∈ programs[t]?.getD []) : r.id?.isSome := by
  rcases hp : programs[t]? with _ | program
  · rw [hp] at hr
    cases hr
  · rw [hp] at hr
    exact hprograms program (List.mem_of_getElem? hp) r hr

/-- Every step keeps the order of the calls that have been served, or adds one call to it. -/
theorem Linearized.step (hprograms : ∀ program ∈ programs, ∀ r ∈ program, r.id?.isSome)
    (h : Linearized store schedule s₀ programs order m) (hwall : (t, wall) ∈ schedule)
    (hstep : m.step? MemoryStore.backend store wall t = some m') :
    ∃ order', Linearized store schedule s₀ programs order' m' := by
  have hthread := h.threads t
  cases stepOf_of_step? hstep with
  | @begins r rs results hth =>
    rw [thread, hth] at hthread
    cases hthread with
    | idle hprogram hserved =>
      have hatomic : Procedure.IsAtomic (r.call store).steps := by
        have hr : r ∈ programs[t]?.getD [] := by
          rw [hprogram]
          exact List.mem_append_right _ List.mem_cons_self
        exact Request.isAtomic_call store (isSome_id?_of_mem hprograms hr)
      refine ⟨order, h.update hth h.history h.walls (fun _ _ => rfl) (fun u _ => .refl u _ _) ?_⟩
      refine .busy hprogram (.begun hatomic) ?_
      rw [hserved]
      exact (List.append_nil _).symm
  | @advances r p p' waiting results s holders hth hp =>
    rw [thread, hth] at hthread
    cases hthread with
    | busy hprogram hstage hserved =>
      obtain ⟨answer', hstage', hserves, hs⟩ := hstage.advance hwall hp
      obtain ⟨order', hhistory, hwalls, hserved', hothers⟩ :=
        hserves.append h.history h.walls hserved
      exact ⟨order', h.update hth hhistory hwalls hothers hs (.busy hprogram hstage' hserved')⟩
  | @ends r result waiting results hth =>
    rw [thread, hth] at hthread
    cases hthread with
    | busy hprogram hstage hserved =>
      obtain ⟨order', hhistory, hwalls, hserved', hothers⟩ :=
        (hstage.finish rfl hwall).append h.history h.walls hserved
      refine ⟨order', h.update hth hhistory hwalls hothers (fun u _ => .refl u _ _) ?_⟩
      refine .idle ?_ ?_
      · rw [hprogram, List.reverse_cons, List.map_append, List.append_assoc]
        rfl
      · rw [hserved', List.reverse_cons]
        rfl

/-- So does every run. -/
theorem Linearized.run (hprograms : ∀ program ∈ programs, ∀ r ∈ program, r.id?.isSome)
    {turns : List (Nat × Instant)} (hturns : ∀ e ∈ turns, e ∈ schedule)
    (h : Linearized store schedule s₀ programs order m)
    (hrun : m.run? store (turns.map fun e => .thread e.1 e.2) = some m') :
    ∃ order', Linearized store schedule s₀ programs order' m' := by
  induction turns generalizing m order with
  | nil =>
    cases hrun
    exact ⟨order, h⟩
  | cons e turns ih =>
    obtain ⟨he, hturns⟩ := List.forall_mem_cons.1 hturns
    obtain ⟨m₁, hstep, hrun⟩ := Option.bind_eq_some_iff.1 hrun
    obtain ⟨order₁, h₁⟩ := h.step hprograms he hstep
    exact ih hturns h₁ hrun

end Linearized

/-- **Calls of threads are as if made one after the other.** Let threads make calls about single
ids, with the clock of the store at rest, and let all come to an end, however their steps have
interleaved. Then there is one order of exactly these calls, in which the calls of each thread stand
as in its program, such that the calls made alone in this order return the same, each of them, and
leave the same store behind. -/
theorem exists_sequential_order (store : ContextStore) (s : MemoryStore Context)
    {programs : List (List Request)}
    (hprograms : ∀ program ∈ programs, ∀ r ∈ program, r.id?.isSome)
    {schedule : List (Nat × Instant)} {m : Threads (MemoryStore Context)}
    (hrun : (start s programs).run? store (schedule.map fun e => .thread e.1 e.2) = some m)
    (hfinished : m.isFinished) :
    ∃ order : List Served,
      History.run store (order.map Served.event) s = (order.map Served.answer, m.storage) ∧
      (∀ e ∈ order, (e.thread, e.wall) ∈ schedule) ∧
      ∀ t, servedTo t order = m.returned t ∧
        (m.returned t).map Prod.fst = programs[t]?.getD [] := by
  obtain ⟨order, h⟩ := (linearized_start store schedule s programs).run hprograms
    (fun _ he => he) hrun
  refine ⟨order, h.history, h.walls, fun t => ?_⟩
  obtain ⟨hrunning, hwaiting⟩ := thread_of_isFinished hfinished t
  have hthread := h.threads t
  rw [returned]
  generalize m.thread t = th at hthread hrunning hwaiting ⊢
  cases hthread with
  | idle hprogram hserved =>
    cases hwaiting
    refine ⟨hserved, ?_⟩
    rw [hprogram, List.append_nil]
  | busy => cases hrunning

/-- Two writers and a reader of one context. -/
def race : List (List Request) :=
  [[.record "a" [("x", "1")] none none], [.record "a" [("y", "2")] none none], [.get "a"]]

/-- The writers take the lock one after the other; the reader reads before the first of them has
written what it has already worked out, and ends when the second one has read. -/
def raceSchedule : List (Nat × Instant) :=
  [0, 1, 2, 0, 0, 2, 0, 0, 1, 0, 1, 2, 1, 1, 1].map (·, .epoch)

/-- The race comes to an end, and its calls are as if made one after the other. -/
theorem exists_sequential_order_race :
    ∃ m, (start (.new .epoch) race).run? {} (raceSchedule.map fun e => .thread e.1 e.2) = some m ∧
      m.isFinished ∧ ∃ order : List Served,
        History.run {} (order.map Served.event) (.new .epoch) =
          (order.map Served.answer, m.storage) ∧
        (∀ e ∈ order, (e.thread, e.wall) ∈ raceSchedule) ∧
        ∀ t, servedTo t order = m.returned t ∧ (m.returned t).map Prod.fst = race[t]?.getD [] := by
  have hprograms : ∀ program ∈ race, ∀ r ∈ program, r.id?.isSome := by decide
  have hfinished : ((start (.new .epoch) race).run? {}
      (raceSchedule.map fun e => .thread e.1 e.2)).any isFinished = true := by rfl
  obtain ⟨m, hrun, hm⟩ := (Option.any_eq_true ..).1 hfinished
  exact ⟨m, hrun, hm, exists_sequential_order {} (.new .epoch) hprograms hrun hm⟩

end Threads

end KeyedState

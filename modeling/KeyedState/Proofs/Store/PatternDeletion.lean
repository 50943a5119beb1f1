import KeyedState.Proofs.Storage.Live
import KeyedState.Proofs.Store.Atomicity
import KeyedState.Proofs.Store.ThreadStep

/-!
# Deletion by pattern while other threads write

A deletion by pattern lists the keys once and then removes those that the pattern accepts, one after
the other, each under its lock. Whatever other threads do meanwhile, each of its steps leaves the
storage as it is or removes a key that was listed (`Threads.unlisted_contexts_left_alone`). So a
context whose id had none when the keys were listed is not removed.

The list holds ids and not contexts. A context that is deleted and created anew after the listing
has an id that was listed, and it is removed although it did not exist then
(`Threads.recreated_context_removed`).
-/

namespace KeyedState

namespace Procedure

variable {α β : Type} {P : String → Prop}

/-- A procedure that asks the storage for nothing but to remove keys of a kind. -/
inductive Removes (P : String → Prop) : Procedure α → Prop where
  | done (a : α) : Removes P (.done a)
  | lock {key : String} {next : Procedure α} (h : Removes P next) : Removes P (.lock key next)
  | unlock {key : String} {next : Procedure α} (h : Removes P next) : Removes P (.unlock key next)
  | remove {key : String} {next : Except StorageError Unit → Procedure α} (hkey : P key)
    (h : ∀ r, Removes P (next r)) : Removes P (.remove key next)

theorem Removes.map {p : Procedure α} (h : Removes P p) (f : α → β) :
    Removes P (p.andThen fun a => .done (f a)) := by
  induction h with
  | done a => exact .done (f a)
  | lock _ ih => exact .lock ih
  | unlock _ ih => exact .unlock ih
  | remove hkey _ ih => exact .remove hkey ih

/-- A step of such a procedure leaves the storage as it is or removes a key of the kind. -/
theorem Removes.advance {p p' : Procedure α} {wall : Instant} {t : Nat}
    {s s' : MemoryStore Context} {holders holders' : KeyMap Nat} (h : Removes P p)
    (hp : Threads.advance? MemoryStore.backend wall t s holders p = some (p', s', holders')) :
    Removes P p' ∧ (s' = s ∨ ∃ key, P key ∧ s' = s.remove key) := by
  cases h with
  | done a => cases hp
  | lock h =>
    rw [Threads.advance?] at hp
    split at hp
    · cases hp
    · cases hp
      exact ⟨h, .inl rfl⟩
  | unlock h =>
    cases hp
    exact ⟨h, .inl rfl⟩
  | @remove key _ hkey h =>
    cases hp
    exact ⟨h _, .inr ⟨key, hkey, rfl⟩⟩

end Procedure

namespace ContextStore

open Procedure

theorem removes_removeAccepted {P : String → Prop} {p : WholePattern} {count : Nat}
    {ids : List String} (h : ∀ id ∈ ids, p.accepts id = true → P id) :
    Removes P (removeAccepted p count ids).steps := by
  induction ids generalizing count with
  | nil => exact .done _
  | cons id ids ih =>
    obtain ⟨hid, hids⟩ := List.forall_mem_cons.1 h
    rw [removeAccepted]
    split
    · rename_i haccepts
      refine .lock (.remove (hid haccepts) fun r => .unlock ?_)
      rcases r with e | ⟨⟩
      · exact .done _
      · exact ih hids
    · exact ih hids

/-- A deletion by pattern may remove a key: it is listed, and the pattern accepts it. -/
def IsDoomed (pattern : String) (listed : List String) (key : String) : Prop :=
  key ∈ listed ∧ ∃ p, WholePattern.compile pattern = .ok p ∧ p.accepts key = true

theorem steps_deleteMatching (pattern : String) :
    (deleteMatching pattern).steps =
      match WholePattern.compile pattern with
      | .error e => .done (.error (.configuration e))
      | .ok p => .keys fun
        | .ok ids => (removeAccepted p 0 ids).steps
        | .error e => .done (.error (.storage e)) := by
  unfold deleteMatching
  rcases WholePattern.compile pattern with e | p
  · rfl
  · show Procedure.keys _ = Procedure.keys _
    congr 1
    funext r
    rcases r with e | ids
    · rfl
    · rfl

/-- The first step of a deletion by pattern lists the keys. What is left then is to remove some of
them. -/
theorem removes_of_advance {store : ContextStore} {pattern : String} {wall : Instant} {t : Nat}
    {s s' : MemoryStore Context} {holders holders' : KeyMap Nat}
    {p' : Procedure (Except StateError Reply)}
    (hp : Threads.advance? MemoryStore.backend wall t s holders
      ((Request.deleteMatching pattern).call store).steps = some (p', s', holders')) :
    Removes (IsDoomed pattern s.keys) p' := by
  have hsteps : ((Request.deleteMatching pattern).call store).steps =
      (deleteMatching pattern).steps.andThen fun r => .done (r.map .count) :=
    Call.steps_map (deleteMatching pattern) Reply.count
  rw [hsteps, steps_deleteMatching] at hp
  rcases hcompile : WholePattern.compile pattern with e | p
  · rw [hcompile] at hp
    cases hp
  · rw [hcompile] at hp
    cases hp
    exact (removes_removeAccepted fun id hid haccepts => ⟨hid, p, hcompile, haccepts⟩).map _

end ContextStore

namespace Threads

open ContextStore

variable {store : ContextStore} {m m' : Threads (MemoryStore Context)} {t : Nat}
  {results : Results} {pattern : String}

theorem thread_of_getElem? {th : Thread} (h : m.threads[t]? = some th) : m.thread t = th := by
  rw [thread, h]
  rfl

/-- A step of another thread leaves a thread alone. -/
theorem getElem?_of_other {wall : Instant} {u : Nat} (hu : u ≠ t)
    (h : m.step? MemoryStore.backend store wall u = some m') : m'.threads[t]? = m.threads[t]? := by
  cases stepOf_of_step? h with
  | begins => exact List.getElem?_set_ne hu
  | advances => exact List.getElem?_set_ne hu
  | ends => exact List.getElem?_set_ne hu

/-- No step takes back a result. -/
theorem length_results_le {wall : Instant}
    (h : m.step? MemoryStore.backend store wall t = some m') :
    (m.thread t).results.length ≤ (m'.thread t).results.length := by
  cases stepOf_of_step? h with
  | begins hth =>
    refine Nat.le_of_eq ?_
    rw [thread_set hth, if_pos rfl, thread_of_getElem? hth]
  | advances hth =>
    refine Nat.le_of_eq ?_
    rw [thread_set hth, if_pos rfl, thread_of_getElem? hth]
  | ends hth =>
    rw [thread_set hth, if_pos rfl, thread_of_getElem? hth]
    exact Nat.le_succ _

/-! ## While the deletion goes on -/

/-- The call that a thread had at hand when its results were the given ones is a deletion by
pattern that has only keys of a list left to remove, or it has returned. -/
inductive Deleting (pattern : String) (listed : List String) (t : Nat) (results : Results)
    (m : Threads (MemoryStore Context)) : Prop where
  | atHand {p : Procedure (Except StateError Reply)} {waiting : List Request}
    (hth : m.threads[t]? = some ⟨some (.deleteMatching pattern, p), waiting, results⟩)
    (hp : p.Removes (IsDoomed pattern listed)) : Deleting pattern listed t results m
  | returned (h : results.length < (m.thread t).results.length) :
    Deleting pattern listed t results m

namespace Deleting

variable {listed : List String}

/-- One step of the thread that deletes: as long as the call is at hand, the step leaves the storage
as it is or removes a key of the list. -/
theorem step {wall : Instant} (h : Deleting pattern listed t results m)
    (hstep : m.step? MemoryStore.backend store wall t = some m') :
    Deleting pattern listed t results m' ∧ ((m.thread t).results = results →
      m'.storage = m.storage ∨
        ∃ key, IsDoomed pattern listed key ∧ m'.storage = m.storage.remove key) := by
  cases h with
  | returned h =>
    refine ⟨.returned (Nat.lt_of_lt_of_le h (length_results_le hstep)), fun hresults => ?_⟩
    rw [hresults] at h
    exact absurd h (Nat.lt_irrefl _)
  | @atHand p waiting hth hp =>
    cases stepOf_of_step? hstep with
    | begins hth' => cases hth.symm.trans hth'
    | advances hth' hadvance =>
      cases hth.symm.trans hth'
      obtain ⟨hp', hstorage⟩ := hp.advance hadvance
      exact ⟨.atHand (List.getElem?_set_self (List.getElem?_eq_some_iff.1 hth).1) hp',
        fun _ => hstorage⟩
    | ends hth' =>
      cases hth.symm.trans hth'
      refine ⟨.returned ?_, fun _ => .inl rfl⟩
      rw [thread_set hth, if_pos rfl]
      exact Nat.lt_succ_self _

/-- Whatever happens, the call stays a deletion of listed keys until it has returned. -/
theorem take {turn : Turn} (h : Deleting pattern listed t results m)
    (hstep : m.take? store turn = some m') : Deleting pattern listed t results m' := by
  have hother : m'.threads[t]? = m.threads[t]? → Deleting pattern listed t results m' := by
    intro hsame
    cases h with
    | atHand hth hp => exact .atHand (hsame.trans hth) hp
    | returned h =>
      refine .returned ?_
      rw [thread, hsame]
      exact h
  cases turn with
  | thread u wall =>
    by_cases hu : u = t
    · subst hu
      exact (h.step hstep).1
    · exact hother (getElem?_of_other hu hstep)
  | move c =>
    cases hstep
    exact hother rfl
  | purge =>
    cases hstep
    exact hother rfl

end Deleting

/-! ## A store and two threads -/

/-- A store with one context. -/
def oneContext : MemoryStore Context :=
  (MemoryStore.new .epoch).setSlot "a" ⟨Context.new "a", none⟩

/-- A thread that deletes contexts by a pattern, and one that makes other calls. -/
def deletionBeside (calls : List Request) : Threads (MemoryStore Context) :=
  start oneContext [[.deleteMatching "a|b"], calls]

/-- Turns of one thread. -/
def turnsOf (t count : Nat) : List Turn := List.replicate count (.thread t .epoch)

/-! ## What is removed -/

/-- **A deletion by pattern removes nothing but what it has listed.** A thread begins a deletion by
pattern and lists the keys, and then other threads, the clock and purges do whatever they do. As
long as the call has not returned, a step of the thread leaves the storage as it is or removes a key
that was visible when the keys were listed, and that the pattern accepts. So it removes no context
whose id had none at that time, whenever the context was created. -/
theorem unlisted_contexts_left_alone (store : ContextStore)
    {m m₁ m₂ m₃ : Threads (MemoryStore Context)} {t : Nat} {pattern : String}
    {waiting : List Request} {results : Results} {wall wall' : Instant} {schedule : List Turn}
    (hbegun : m.threads[t]? = some
      ⟨some (.deleteMatching pattern, ((Request.deleteMatching pattern).call store).steps), waiting,
        results⟩)
    (hlist : m.take? store (.thread t wall) = some m₁) (hrun : m₁.run? store schedule = some m₂)
    (hatHand : (m₂.thread t).results = results)
    (hstep : m₂.take? store (.thread t wall') = some m₃) :
    (m₃.storage = m₂.storage ∨ ∃ id ∈ m.storage.keys,
      (∃ p, WholePattern.compile pattern = .ok p ∧ p.accepts id = true) ∧
        m₃.storage = m₂.storage.remove id) ∧
    ∀ id, m.storage.get? id = none → m₃.storage.get? id = m₂.storage.get? id := by
  have hlisted : Deleting pattern m.storage.keys t results m₁ := by
    cases stepOf_of_step? hlist with
    | begins hth => cases hbegun.symm.trans hth
    | advances hth hadvance =>
      cases hbegun.symm.trans hth
      exact .atHand (List.getElem?_set_self (List.getElem?_eq_some_iff.1 hth).1)
        (removes_of_advance hadvance)
    | ends hth =>
      have hresults := congrArg Thread.results (Option.some.inj (hbegun.symm.trans hth))
      refine .returned ?_
      rw [thread_set hth, if_pos rfl]
      exact Nat.lt_succ_of_le (Nat.le_of_eq (congrArg List.length hresults))
  have hstill : Deleting pattern m.storage.keys t results m₂ :=
    foldlM_induction (fun _ _ _ h hturn => h.take hturn) hlisted hrun
  rcases (hstill.step hstep).2 hatHand with hsame | ⟨id, ⟨hid, haccepts⟩, hremoved⟩
  · exact ⟨.inl hsame, fun _ _ => by rw [hsame]⟩
  · refine ⟨.inr ⟨id, hid, haccepts, hremoved⟩, fun id' hnone => ?_⟩
    rw [hremoved, MemoryStore.get?_remove, if_neg]
    rintro rfl
    rw [MemoryStore.mem_keys_iff, hnone] at hid
    cases hid

/-- The first thread lists the keys, the second one creates a context that the pattern accepts, and
the first one removes what it has listed, but not the new context. -/
theorem new_context_left_alone :
    ∃ m m₁ m₂ m₃, (deletionBeside [.record "b" [] none none]).run? {} (turnsOf 0 1) = some m ∧
      m.threads[0]? = some
        ⟨some (.deleteMatching "a|b", ((Request.deleteMatching "a|b").call {}).steps), [], []⟩ ∧
      m.take? {} (.thread 0 .epoch) = some m₁ ∧
      m₁.run? {} (turnsOf 1 6 ++ turnsOf 0 1) = some m₂ ∧ (m₂.thread 0).results = [] ∧
      m₂.take? {} (.thread 0 .epoch) = some m₃ ∧ m₃.storage.get? "a" = none ∧
      m.storage.get? "b" = none ∧ m₂.storage.get? "b" = some (Context.new "b") ∧
      m₃.storage.get? "b" = m₂.storage.get? "b" := by
  let m : Threads (MemoryStore Context) :=
    ⟨oneContext, ∅,
      [⟨some (.deleteMatching "a|b", ((Request.deleteMatching "a|b").call {}).steps), [], []⟩,
        ⟨none, [.record "b" [] none none], []⟩]⟩
  have h : (m.take? {} (.thread 0 .epoch)).any (fun m₁ =>
      (m₁.run? {} (turnsOf 1 6 ++ turnsOf 0 1)).any fun m₂ => decide ((m₂.thread 0).results = []) &&
        decide (m₂.storage.get? "b" = some (Context.new "b")) &&
          (m₂.take? {} (.thread 0 .epoch)).any fun m₃ => decide (m₃.storage.get? "a" = none)) =
      true := by
    decide +kernel
  simp only [Option.any_eq_true, Bool.and_eq_true, decide_eq_true_eq] at h
  obtain ⟨m₁, hlist, m₂, hrun, ⟨hatHand, hcreated⟩, m₃, hstep, hremoved⟩ := h
  have hspared := (unlisted_contexts_left_alone {} (m := m) rfl hlist hrun hatHand hstep).2
  exact ⟨m, m₁, m₂, m₃, rfl, rfl, hlist, hrun, hatHand, hstep, hremoved, rfl, hcreated,
    hspared "b" rfl⟩

/-- A context is deleted and created anew. -/
def recreation : List Request := [.delete "a", .record "a" [] none none]

/-- The context is deleted and created anew after the deletion by pattern has listed the keys, and
is removed by that deletion. -/
theorem recreated_context_removed :
    ∃ m₁ m₂ m₃ m₄, (deletionBeside recreation).run? {} (turnsOf 0 2) = some m₁ ∧
      m₁.run? {} (turnsOf 1 5) = some m₂ ∧ m₂.storage.get? "a" = none ∧
      m₂.run? {} (turnsOf 1 6) = some m₃ ∧ m₃.storage.get? "a" = some (Context.new "a") ∧
      m₃.run? {} (turnsOf 0 2) = some m₄ ∧ m₄.storage.get? "a" = none := by
  have h : ((deletionBeside recreation).run? {} (turnsOf 0 2)).any (fun m₁ =>
      (m₁.run? {} (turnsOf 1 5)).any fun m₂ => decide (m₂.storage.get? "a" = none) &&
        (m₂.run? {} (turnsOf 1 6)).any fun m₃ =>
          decide (m₃.storage.get? "a" = some (Context.new "a")) &&
            (m₃.run? {} (turnsOf 0 2)).any fun m₄ => decide (m₄.storage.get? "a" = none)) =
      true := by
    decide +kernel
  simp only [Option.any_eq_true, Bool.and_eq_true, decide_eq_true_eq] at h
  obtain ⟨m₁, h₁, m₂, h₂, hdeleted, m₃, h₃, hcreated, m₄, h₄, hremoved⟩ := h
  exact ⟨m₁, m₂, m₃, m₄, h₁, h₂, hdeleted, h₃, hcreated, h₄, hremoved⟩

end Threads

end KeyedState

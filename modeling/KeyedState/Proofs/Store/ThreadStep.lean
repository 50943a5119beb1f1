import KeyedState.Store.History
import KeyedState.Store.Interleaving

/-!
# Steps of threads

All that a step of a thread can be: the thread begins its next call, takes a step of the call at
hand, or notes the result of a call that has ended (`Threads.StepOf`). In each case one thread is
replaced, and the others are as they were (`Threads.thread_set`).
-/

namespace KeyedState

namespace Threads

variable {σ : Type} {store : ContextStore}

/-- A thread; one without calls where there is none of that name. -/
def thread (m : Threads σ) (t : Nat) : Thread := m.threads[t]?.getD { waiting := [] }

theorem thread_set {m : Threads σ} {t : Nat} {th : Thread}
    (h : m.threads[t]? = some th) (th' : Thread) (s : σ) (holders : KeyMap Nat) (u : Nat) :
    (⟨s, holders, m.threads.set t th'⟩ : Threads σ).thread u =
      if u = t then th' else m.thread u := by
  obtain ⟨ht, -⟩ := List.getElem?_eq_some_iff.1 h
  rw [thread, List.getElem?_set, thread]
  by_cases hu : t = u
  · rw [if_pos hu, if_pos ht, if_pos hu.symm]
    rfl
  · rw [if_neg hu, if_neg fun he => hu he.symm]

/-- What a step of thread `t` can be. -/
inductive StepOf (b : Backend σ) (store : ContextStore) (wall : Instant) (t : Nat)
    (m : Threads σ) : Threads σ → Prop where
  | begins {r : Request} {rs : List Request} {results : Results}
    (h : m.threads[t]? = some ⟨none, r :: rs, results⟩) :
    StepOf b store wall t m ⟨m.storage, m.holders,
      m.threads.set t ⟨some (r, (r.call store).steps), rs, results⟩⟩
  | advances {r : Request} {p p' : Procedure (Except StateError Reply)} {waiting : List Request}
    {results : Results} {s : σ} {holders : KeyMap Nat}
    (h : m.threads[t]? = some ⟨some (r, p), waiting, results⟩)
    (hp : advance? b wall t m.storage m.holders p = some (p', s, holders)) :
    StepOf b store wall t m ⟨s, holders, m.threads.set t ⟨some (r, p'), waiting, results⟩⟩
  | ends {r : Request} {result : Except StateError Reply} {waiting : List Request}
    {results : Results} (h : m.threads[t]? = some ⟨some (r, .done result), waiting, results⟩) :
    StepOf b store wall t m ⟨m.storage, m.holders,
      m.threads.set t ⟨none, waiting, (r, result) :: results⟩⟩

theorem stepOf_of_step? {b : Backend σ} {wall : Instant} {t : Nat} {m m' : Threads σ}
    (h : m.step? b store wall t = some m') : StepOf b store wall t m m' := by
  rw [step?] at h
  split at h
  · cases h
  · rename_i th hth
    obtain ⟨running, waiting, results⟩ := th
    split at h
    · cases h
    · rename_i r rs hrunning hwaiting
      cases hrunning
      cases hwaiting
      cases h
      exact .begins hth
    · rename_i r result hrunning
      cases hrunning
      cases h
      exact .ends hth
    · rename_i r p hdone hrunning
      cases hrunning
      obtain ⟨⟨p', s, holders⟩, hp, rfl⟩ := Option.map_eq_some_iff.1 h
      exact .advances hth hp

/-- What the calls of a thread have returned, in order. -/
def returned (m : Threads σ) (t : Nat) : Results := (m.thread t).results.reverse

/-- A thread of a finished run has made all its calls. -/
theorem thread_of_isFinished {m : Threads σ} (h : m.isFinished) (t : Nat) :
    (m.thread t).running = none ∧ (m.thread t).waiting = [] := by
  rw [thread]
  rcases hth : m.threads[t]? with _ | th
  · exact ⟨rfl, rfl⟩
  · have hfinished := List.all_eq_true.1 h th (List.mem_of_getElem? hth)
    rw [Thread.isFinished, Bool.and_eq_true, Option.isNone_iff_eq_none, List.isEmpty_iff]
      at hfinished
    exact hfinished

end Threads

end KeyedState

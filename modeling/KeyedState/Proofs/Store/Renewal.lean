import KeyedState.Proofs.Store.Expiry
import KeyedState.Proofs.Store.RowDeletion

/-!
# Times to live that start anew

The deletion of a row starts the time to live of its context anew, from a later instant than the one
from which its end was an instant. So a row that can be seen need not be one that can be deleted: it
is one exactly where the time to live, counted from now, does not overrun the last instant
(`ContextStore.deleteRow_of_visible`).

As long as a context can be seen, less than its time to live has passed since its last write
(`Instant.total_lt_of_before_add?`), if the clock never moves back. Hence its rows can be deleted
whenever its time to live fits twice between that write and the last instant.
-/

namespace KeyedState

namespace Instant

/-- Of three instants in order the first one is not after the last one. -/
theorem not_before_trans {i j k : Instant} (hij : j.before i = false) (hjk : k.before j = false) :
    k.before i = false := by
  rw [Bool.eq_false_iff]
  intro hki
  rw [before_of_le_of_before hjk hki] at hij
  cases hij

theorem not_before_self (i : Instant) : i.before i = false := by
  simp [before]

/-- Before the end of a duration less than the duration has passed since its start, also within a
leap second. -/
theorem total_lt_of_before_add? {start now deadline : Instant} {d : Duration}
    (hdeadline : start.add? d = some deadline) (hstart : now.before start = false)
    (hnow : now.before deadline = true) : now.total < start.total + d.nanos := by
  have hstartNanos := start.nanos_lt
  have hnowNanos := now.nanos_lt
  simp only [before, Bool.or_eq_false_iff, Bool.and_eq_false_iff, decide_eq_false_iff_not,
    beq_eq_false_iff_ne] at hstart
  simp only [before, Bool.or_eq_true, Bool.and_eq_true, decide_eq_true_eq, beq_iff_eq] at hnow
  rw [add?] at hdeadline
  split at hdeadline
  · cases hdeadline
  split at hdeadline
  case isTrue hlasts =>
    -- all three instants are within one leap second
    simp only [lasts, isLeap, Bool.and_eq_true, decide_eq_true_eq] at hlasts
    rw [of?] at hdeadline
    split at hdeadline
    · cases hdeadline
      simp only [total]
      dsimp only at hnow
      omega
    · cases hdeadline
  case isFalse =>
    obtain ⟨hleap, htotal⟩ := ofTotal?_eq_some_iff.1 hdeadline
    rw [← htotal]
    simp only [isLeap, decide_eq_false_iff_not] at hleap
    simp only [total]
    omega

/-- What fits twice from some instant on fits once from each later instant that comes before the
end of the first time. -/
theorem not_overruns_of_twice {start now deadline : Instant} {d : Duration}
    (hdeadline : start.add? d = some deadline) (hstart : now.before start = false)
    (hnow : now.before deadline = true) (htwice : start.total + 2 * d.nanos ≤ latest) :
    ¬ now.Overruns d := by
  intro hover
  have hpassed := total_lt_of_before_add? hdeadline hstart hnow
  have hlate := hover.2
  omega

end Instant

/-! ## The clock while calls are made -/

/-- A clock that is not moved back does not come before what it has shown. -/
theorem MemoryStore.lasts_not_before (t : Instant) :
    Lasts fun s : MemoryStore Context => s.now.before t = false where
  move := fun hs hm => Instant.not_before_trans hs hm
  purge := id

/-- Neither does one that is not going to be moved back while a procedure runs. -/
theorem Procedure.not_before_run {α : Type} (p : Procedure α) (order : KeyOrder) (wall : Instant)
    {t : Instant} {s : RestlessStore} (hf : s.IsForward) (hs : s.store.now.before t = false) :
    (p.run (RestlessStore.backend order) wall s).2.store.now.before t = false := by
  have hP := MemoryStore.lasts_not_before t
  induction p generalizing s with
  | done a => exact hs
  | wallClock next ih => exact ih wall hf hs
  | lock key next ih => exact ih hf hs
  | unlock key next ih => exact ih hf hs
  | get key next ih =>
    obtain ⟨hnext, hfnext⟩ := hf.next hP hs
    exact ih _ hfnext hnext
  | put key value ttl next ih =>
    obtain ⟨hnext, hfnext⟩ := hf.next hP hs
    rw [Procedure.run]
    simp only [MemoryHost.backend, RestlessStore.host, MemoryStore.put_eq]
    rcases MemoryStore.deadline? s.next.store.now ttl with e | deadline
    · exact ih _ hfnext hnext
    · exact ih (s := ⟨s.next.store.setSlot key ⟨value, deadline⟩, s.next.interludes⟩) _ hfnext hnext
  | remove key next ih =>
    obtain ⟨hnext, hfnext⟩ := hf.next hP hs
    exact ih (s := ⟨s.next.store.remove key, s.next.interludes⟩) _ hfnext hnext
  | keys next ih =>
    obtain ⟨hnext, hfnext⟩ := hf.next hP hs
    exact ih _ hfnext hnext

namespace Activity

variable {store : ContextStore} {s : MemoryStore Context}

theorem not_before_run {a : Activity} (hf : ClockMove.AreForward s.now a.moves) {t : Instant}
    (hs : s.now.before t = false) : (a.run store s).2.now.before t = false := by
  cases a with
  | call wall interludes r =>
    exact (r.call store).steps.not_before_run .increasing wall (s := ⟨s, interludes⟩) hf hs
  | matching wall interludes m request parameters =>
    exact (m.matchRequest request parameters).steps.not_before_run .increasing wall
      (s := ⟨s, interludes⟩) hf hs
  | between i => exact (MemoryStore.lasts_not_before t).pass hf hs

theorem not_before_runAll {as : List Activity} (hf : AreForward store as s) {t : Instant}
    (hs : s.now.before t = false) : (runAll store as s).2.now.before t = false := by
  induction as generalizing s with
  | nil => exact hs
  | cons a as ih => exact ih hf.2 (not_before_run hf.1 hs)

/-- No call is seen later than the clock shows in the end. -/
theorem not_before_of_mem {as : List Activity} (hf : AreForward store as s) {o : Observation}
    (ho : o ∈ (runAll store as s).1) : (runAll store as s).2.now.before o.time = false := by
  induction as generalizing s with
  | nil => cases ho
  | cons a as ih =>
    obtain ⟨ha, has⟩ := hf
    rcases List.mem_append.1 ho with hseen | hrest
    · refine not_before_runAll has ?_
      cases a with
      | call wall interludes r =>
        obtain rfl := List.mem_singleton.1 hseen
        exact Instant.not_before_self _
      | matching wall interludes m request parameters => cases hseen
      | between i => cases hseen
    · exact ih has hrest

end Activity

namespace ContextStore

/-- **When a row can be deleted.** Over a store in memory that starts empty and whose clock never
moves back: a selected row of a context that is read is deleted exactly where the context has no
time to live, or one that does not overrun the last instant, counted from now. Elsewhere the storage
fails and nothing changes, although the time to live had an end when it was given. That cannot
happen to a context whose time to live fits twice between its last write and the last instant. -/
theorem deleteRow_of_visible (store : ContextStore) (start : Instant) {as : List Activity}
    (hf : Activity.AreForward store as (.new start)) (wall : Instant) {id : String} {c : Context}
    {choice : ListDeletion} {i : Nat}
    (hc : ((ContextStore.get id).run MemoryStore.backend wall
      (Activity.runAll store as (.new start)).2).1 = .ok (some c))
    (hi : choice.Selects c.rows i) :
    let calls := (Activity.runAll store as (.new start)).1
    let s := (Activity.runAll store as (.new start)).2
    let r := (deleteRow id choice).run MemoryStore.backend wall s
    (r.1 = .ok true ↔ ∀ d, c.expiry = some d → ¬ s.now.Overruns d) ∧
    (∀ d, c.expiry = some d → s.now.Overruns d →
      r = (.error (.storage (.backend s!"ttl out of range: {d.text}")), s)) ∧
    ∃ before o after, calls = before ++ o :: after ∧ o.writes id = true ∧
      (∀ o' ∈ after, o'.writes id = false ∧ o'.deletes id = false) ∧
      ((∀ d, c.expiry = some d → o.time.total + 2 * d.nanos ≤ Instant.latest) →
        r.1 = .ok true) := by
  intro calls s r
  have hvisible : s.get? id = some c := get?_of_run_get hc
  have htracks : Tracks id (calls.foldl (Observation.lastWrite id) none) (ttlOf store id calls) s :=
    Tracks.of_new hf id
  obtain ⟨o, hlast, houtlasts, hexpiry⟩ := htracks.of_get?_eq_some hvisible
  have hid : id ≠ "" := by
    rintro rfl
    cases htracks.named (Option.isSome_of_eq_some hlast)
  have hfails : ∀ d, c.expiry = some d → s.now.Overruns d →
      r = (.error (.storage (.backend s!"ttl out of range: {d.text}")), s) :=
    fun d hd hover => run_deleteRow_of_overruns wall hid hvisible hi hd hover
  have hdeletes : (∀ d, c.expiry = some d → ¬ s.now.Overruns d) → r.1 = .ok true := by
    intro hfits
    obtain ⟨c', -, hrun⟩ := run_deleteRow_of_not_overruns wall hid hvisible hi hfits
    exact congrArg Prod.fst hrun
  refine ⟨⟨fun hok d hd hover => ?_, hdeletes⟩, hfails, ?_⟩
  · rw [hfails d hd hover] at hok
    cases hok
  · rcases foldl_lastWrite.1 hlast with ⟨hnone, -⟩ | ⟨before, after, hsplit, hwrites, hafter⟩
    · cases hnone
    refine ⟨before, o, after, hsplit, hwrites, hafter, fun htwice => hdeletes fun d hd => ?_⟩
    have ho : o ∈ calls := by
      rw [hsplit]
      exact List.mem_append_right before List.mem_cons_self
    obtain ⟨deadline, hdeadline, hnow⟩ :=
      (outlasts_iff (htracks.ends o hlast)).1 houtlasts d (hexpiry ▸ hd)
    exact Instant.not_overruns_of_twice hdeadline (Activity.not_before_of_mem hf ho) hnow
      (htwice d hd)

/-- A context with a row is written for some time, and then some time passes. -/
def rowThen (ttl passed : Duration) : List Activity :=
  [.call .epoch [] (.record "a" [] (some (.addLast (.ofList [("k", "1")]))) (some ttl)),
   .between (.move (.advance passed))]

/-- A hundred seconds before the instants end. -/
def lateStart : Instant := ⟨8210266876700, 0, by decide, by decide, by decide⟩

/-- Half a minute after it was written for a minute the row can be deleted: another minute is
left. -/
theorem deleteRow_of_visible_late :
    let as := rowThen (.ofSeconds 60) (.ofSeconds 30)
    let s := (Activity.runAll {} as (.new lateStart)).2
    ∃ c, Activity.AreForward {} as (.new lateStart) ∧
      ((ContextStore.get "a").run MemoryStore.backend .epoch s).1 = .ok (some c) ∧
      ListDeletion.first.Selects c.rows 0 ∧
      ((deleteRow "a" .first).run MemoryStore.backend .epoch s).1 = .ok true := by
  have hf : Activity.AreForward {} (rowThen (.ofSeconds 60) (.ofSeconds 30)) (.new lateStart) := by
    decide +kernel
  have hc : ((ContextStore.get "a").run MemoryStore.backend .epoch
      (Activity.runAll {} (rowThen (.ofSeconds 60) (.ofSeconds 30)) (.new lateStart)).2).1 =
      .ok (some ⟨"a", ∅, [.ofList [("k", "1")]], .zero, some (.ofSeconds 60)⟩) := by
    rfl
  have hi : ListDeletion.first.Selects [KeyMap.ofList [("k", "1")]] 0 := ⟨by decide, rfl⟩
  obtain ⟨hdeletes, -⟩ := deleteRow_of_visible {} lateStart hf .epoch hc hi
  refine ⟨_, hf, hc, hi, hdeletes.2 fun d hd => ?_⟩
  cases hd
  decide +kernel

/-- After fifty seconds the context and its row can still be seen, but the row cannot be deleted:
less than a minute is left. -/
theorem late_row_stays :
    let as := rowThen (.ofSeconds 60) (.ofSeconds 50)
    let s := (Activity.runAll {} as (.new lateStart)).2
    ∃ c, Activity.AreForward {} as (.new lateStart) ∧
      ((ContextStore.get "a").run MemoryStore.backend .epoch s).1 = .ok (some c) ∧
      ListDeletion.first.Selects c.rows 0 ∧
      (deleteRow "a" .first).run MemoryStore.backend .epoch s =
        (.error (.storage (.backend "ttl out of range: 60s")), s) := by
  refine ⟨⟨"a", ∅, [.ofList [("k", "1")]], .zero, some (.ofSeconds 60)⟩, ?_, ?_, ?_, ?_⟩
  · decide +kernel
  · rfl
  · exact ⟨by decide, rfl⟩
  · rfl

end ContextStore

end KeyedState

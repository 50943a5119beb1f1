import KeyedState.Proofs.Store.LockExclusion
import KeyedState.Proofs.Store.OneKey
import KeyedState.Proofs.Store.ThreadStep
import KeyedState.Store.Workers

/-!
# No thread sleeps for ever

A thread that releases a key clears the mark of its slot first and notifies one sleeper afterwards,
and a newcomer may take the key in between. Still no notification is lost: whenever somebody sleeps
on a slot that is free, a thread is there that has not yet notified on this slot, or that is awake
and about to look at it (`KeyLocks.Attended`).

A thread that makes a call of the store holds at most one key (`Procedure.HoldsOne`), so a thread
that holds a key does not sleep, and goes on (`Workers.Sound.exists_move`). From both it follows
that threads never wait for each other without end (`Workers.no_lost_wakeup_no_deadlock`).
-/

namespace KeyedState

namespace KeyLocks

variable {s s' : KeyLocks} {t : Nat} {u : LockUse} {i : Nat}

/-! ## Sleepers are attended -/

/-- Some thread is about to notify a sleeper of a slot, or about to look whether the slot is
free. -/
def HasAttendant (s : KeyLocks) (i : Nat) : Prop :=
  ∃ t u, s.use? t = some u ∧ u.slot = i ∧ (u.phase = .released ∨ u.phase = .awake)

/-- Whoever sleeps on a slot that is free is attended. -/
def AttendedAt (s : KeyLocks) (i : Nat) : Prop :=
  ∀ t u slot, s.use? t = some u → u.slot = i → u.phase = .asleep →
    s.slots[i]? = some slot → slot.held = false → s.HasAttendant i

/-- All sleepers are attended where the slot is free. -/
def Attended (s : KeyLocks) : Prop := ∀ i, s.AttendedAt i

theorem attendedAt_of_hasAttendant (h : s.HasAttendant i) : s.AttendedAt i :=
  fun _ _ _ _ _ _ _ _ => h

/-- Sleepers stay attended as long as nobody falls asleep, nobody who attends them turns away, and
the slot does not become free. -/
theorem AttendedAt.keep (h : s.AttendedAt i)
    (hsleep : ∀ {t u}, s'.use? t = some u → u.slot = i → u.phase = .asleep → s.use? t = some u)
    (hattend : ∀ {t u}, s.use? t = some u → u.slot = i → u.phase = .released ∨ u.phase = .awake →
      s'.use? t = some u)
    (hfree : ∀ {slot}, s'.slots[i]? = some slot → slot.held = false →
      ∃ slot, s.slots[i]? = some slot ∧ slot.held = false) :
    s'.AttendedAt i := by
  intro t u slot hu hi hphase hslot hheld
  obtain ⟨slot, hslot, hheld⟩ := hfree hslot hheld
  obtain ⟨t', u', hu', hi', hphase'⟩ := h _ _ _ (hsleep hu hi hphase) hi hphase hslot hheld
  exact ⟨t', u', hattend hu' hi' hphase', hi', hphase'⟩

/-- What one thread uses is replaced and a slot is changed. If the thread attended no sleepers of a
slot before, is none of them afterwards, and does not free the slot, they stay attended. -/
theorem AttendedAt.change (h : s.AttendedAt i) (ht : t < s.threads.length) {j : Nat}
    {f : KeySlot → KeySlot} {use : Option LockUse}
    (hold : ∀ u, s.use? t = some u → u.slot = i → ¬ (u.phase = .released ∨ u.phase = .awake))
    (hnew : ∀ u, use = some u → u.slot = i → u.phase ≠ .asleep)
    (hheld : j = i → ∀ slot, (f slot).held = slot.held) :
    ((s.changeSlot j f).setUse t use).AttendedAt i := by
  refine h.keep ?_ ?_ ?_
  · intro t' u' hu' hi hphase
    rw [use?_change ht] at hu'
    split at hu'
    · exact absurd hphase (hnew u' hu' hi)
    · exact hu'
  · intro t' u' hu' hi hphase
    rw [use?_change ht, if_neg]
    · exact hu'
    · rintro rfl
      exact hold u' hu' hi hphase
  · intro slot hslot hfree
    have hslot' : (s.changeSlot j f).slots[i]? = some slot := hslot
    rw [slots_changeSlot] at hslot'
    obtain ⟨old, hold', rfl⟩ := Option.map_eq_some_iff.1 hslot'
    refine ⟨old, hold', ?_⟩
    unfold changed at hfree
    split at hfree
    · rename_i hji
      exact (hheld hji old).symm.trans hfree
    · exact hfree

/-- A thread whose slot is another one does nothing to the sleepers of a slot. -/
theorem AttendedAt.other (h : s.AttendedAt i) (hu : s.use? t = some u) (hi : u.slot ≠ i)
    {f : KeySlot → KeySlot} {use : Option LockUse} (huse : ∀ v, use = some v → v.slot = u.slot) :
    ((s.changeSlot u.slot f).setUse t use).AttendedAt i := by
  refine h.change (lt_of_use? hu) ?_ ?_ fun hj => absurd hj hi
  · intro v hv hvi
    cases hu.symm.trans hv
    exact absurd hvi hi
  · intro v hv hvi
    exact absurd ((huse v hv).symm.trans hvi) hi

theorem setPhase_eq (s : KeyLocks) (t : Nat) (u : LockUse) (phase : LockPhase) :
    s.setPhase t u phase = (s.changeSlot u.slot id).setPhase t u phase := by
  rw [changeSlot_id]

theorem hasAttendant_setPhase (hu : s.use? t = some u) {phase : LockPhase}
    (hphase : phase = .released ∨ phase = .awake) (f : KeySlot → KeySlot) :
    ((s.changeSlot u.slot f).setPhase t u phase).HasAttendant u.slot := by
  refine ⟨t, { u with phase }, ?_, rfl, hphase⟩
  rw [setPhase, use?_change (lt_of_use? hu), if_pos rfl]

/-- A thread that is released or awake from now on attends its own slot, and leaves the others
alone. -/
theorem Attended.attend (h : Attended s) (hu : s.use? t = some u) {phase : LockPhase}
    (hphase : phase = .released ∨ phase = .awake) (f : KeySlot → KeySlot) :
    Attended ((s.changeSlot u.slot f).setPhase t u phase) := by
  intro i
  by_cases hi : u.slot = i
  · exact attendedAt_of_hasAttendant (hi ▸ hasAttendant_setPhase hu hphase f)
  · exact (h i).other hu hi fun v hv => by cases hv; rfl

/-- Nobody need attend the sleepers of a slot that is held. -/
theorem attendedAt_of_held (h : ∀ slot, s.slots[i]? = some slot → slot.held = true) :
    s.AttendedAt i := by
  intro t u slot hu hi hphase hslot hfree
  rw [h slot hslot] at hfree
  cases hfree

/-- A new slot has no sleepers, since nobody uses it. -/
theorem Attended.findOrMake (h : Attended s) (hs : Sound s) (key : String) :
    Attended (s.findOrMake key).2 := by
  unfold KeyLocks.findOrMake
  split
  · exact h
  · intro i t u slot hu hi hphase hslot hfree
    have hlt : i < s.slots.length := hi ▸ hs.made hu
    have hold : s.slots[i]? = some slot := (List.getElem?_append_left hlt).symm.trans hslot
    exact h i t u slot hu hi hphase hold hfree

theorem threads_forget (s : KeyLocks) (key : String) : (s.forget key).threads = s.threads := by
  unfold KeyLocks.forget
  split
  · rfl
  · rfl

theorem use?_forget (s : KeyLocks) (key : String) (t : Nat) :
    (s.forget key).use? t = s.use? t := by
  rw [use?, use?, threads_forget]

/-- To take a slot out of the table wakes nobody and frees no slot. -/
theorem Attended.forget (h : Attended s) (key : String) : Attended (s.forget key) := by
  unfold KeyLocks.forget
  split
  · exact h
  · rename_i j _
    intro i
    refine (h i).keep (fun hu _ _ => hu) (fun hu _ _ => hu) fun {slot} hslot hfree => ?_
    rw [slots_changeSlot] at hslot
    obtain ⟨old, hold, rfl⟩ := Option.map_eq_some_iff.1 hslot
    refine ⟨old, hold, ?_⟩
    unfold changed at hfree
    split at hfree
    · exact hfree
    · exact hfree

/-- A thread that has notified, and goes on to leave, attends nobody. -/
theorem Attended.pass (h : Attended s) (hu : s.use? t = some u)
    (hold : u.phase = .notified ∨ u.phase = .leaving) {f : KeySlot → KeySlot}
    (hf : ∀ slot, (f slot).held = slot.held) {use : Option LockUse}
    (hnew : ∀ v, use = some v → v.phase ≠ .asleep) :
    Attended ((s.changeSlot u.slot f).setUse t use) := by
  intro i
  refine (h i).change (lt_of_use? hu) ?_ (fun v hv _ => hnew v hv) fun _ => hf
  intro v hv _
  cases hu.symm.trans hv
  rintro (hphase | hphase) <;> rcases hold with hold | hold <;> cases hphase.symm.trans hold

/-- Every step keeps all sleepers attended. -/
theorem Attended.step (h : Attended s) (hs : Sound s) {step : LockStep}
    (hstep : StepOf s t step s') : Attended s' := by
  cases hstep with
  | @enter key hidle =>
    have hmade := h.findOrMake hs key
    have hlt : t < (s.findOrMake key).2.threads.length := by
      rw [threads_findOrMake]
      exact (List.getElem?_eq_some_iff.1 hidle).1
    intro i
    by_cases hi : (s.findOrMake key).1 = i
    · refine attendedAt_of_hasAttendant ⟨t, ⟨key, _, .awake⟩, ?_, hi, .inr rfl⟩
      rw [use?_change hlt, if_pos rfl]
    · refine (hmade i).change hlt ?_ ?_ fun hj => absurd hj hi
      · intro u hu _
        have hsame : (s.findOrMake key).2.use? t = s.use? t := by
          rw [use?, use?, threads_findOrMake]
        rw [hsame, use?, hidle] at hu
        cases hu
      · rintro u ⟨⟩ _ hasleep
        cases hasleep
  | @take u slot hu hslot hphase hfree =>
    intro i
    by_cases hi : u.slot = i
    · subst hi
      refine attendedAt_of_held fun slot hslot => ?_
      have hslot' : (s.changeSlot u.slot _).slots[u.slot]? = some slot := hslot
      rw [slots_changeSlot] at hslot'
      obtain ⟨old, -, rfl⟩ := Option.map_eq_some_iff.1 hslot'
      rw [changed, if_pos rfl]
    · exact (h i).other hu hi fun v hv => by cases hv; rfl
  | @sleep u slot hu hslot hphase hheld =>
    intro i
    by_cases hi : u.slot = i
    · subst hi
      refine attendedAt_of_held fun slot' hslot' => ?_
      cases hslot.symm.trans hslot'
      exact hheld
    · rw [setPhase_eq]
      exact (h i).other hu hi fun v hv => by cases hv; rfl
  | wake hu hphase =>
    rw [setPhase_eq]
    exact h.attend hu (.inr rfl) id
  | release hu hphase => exact h.attend hu (.inl rfl) _
  | @notifyNone u hu hphase hnone =>
    intro i
    by_cases hi : u.slot = i
    · -- somebody who sleeps would have been found
      intro t' u' slot hu' hi' hphase' _ _
      rw [use?_setPhase hu] at hu'
      split at hu'
      · cases hu'
        cases hphase'
      · have hsleeps : s.hasSleeper u.slot = true := by
          refine List.any_eq_true.2 ⟨t', List.mem_range.2 (lt_of_use? hu'), ?_⟩
          rw [sleepsOn, hu', Option.any_some, Bool.and_eq_true, beq_iff_eq, beq_iff_eq]
          exact ⟨hi'.trans hi.symm, hphase'⟩
        rw [hsleeps] at hnone
        cases hnone
    · rw [setPhase_eq]
      exact (h i).other hu hi fun v hv => by cases hv; rfl
  | @notify u v sleeper hu hphase hv hslot hsleep =>
    have hne : sleeper ≠ t := by
      rintro rfl
      cases hu.symm.trans hv
      cases hphase.symm.trans hsleep
    have hwoken : Attended (s.setPhase sleeper v .awake) := by
      rw [setPhase_eq]
      exact h.attend hv (.inr rfl) id
    have hu' : (s.setPhase sleeper v .awake).use? t = some u := by
      rw [use?_setPhase hv, if_neg hne.symm, hu]
    intro i
    by_cases hi : u.slot = i
    · refine attendedAt_of_hasAttendant
        ⟨sleeper, { v with phase := .awake }, ?_, hslot.trans hi, .inr rfl⟩
      rw [use?_setPhase hu', if_neg hne, use?_setPhase hv, if_pos rfl]
    · rw [setPhase_eq (s.setPhase sleeper v .awake)]
      exact (hwoken i).other hu' hi fun w hw => by cases hw; rfl
  | @tidy u slot hu hslot hphase =>
    have hkept : Attended (if slot.references = 2 then s.forget u.key else s) := by
      split
      · exact h.forget u.key
      · exact h
    rw [setPhase_eq]
    refine hkept.pass ?_ (.inl hphase) (fun _ => rfl) ?_
    · split
      · rw [use?_forget, hu]
      · exact hu
    · rintro v ⟨⟩ hasleep
      cases hasleep
  | leave hu hphase =>
    refine h.pass (f := unrefer) hu (.inr hphase) (fun _ => rfl) fun v hv => ?_
    cases hv

theorem use?_start (threads t : Nat) : (start threads).use? t = none := by
  rw [use?, start, List.getElem?_replicate]
  split
  · rfl
  · rfl

theorem Attended.of_isReachable {threads : Nat} (h : IsReachable threads s) : Attended s := by
  refine (h.induction (P := fun s => Sound s ∧ Attended s) ⟨Sound.start threads, ?_⟩ ?_).2
  · intro i t u slot hu
    rw [use?_start] at hu
    cases hu
  · intro s s' t step hs hstep
    have hstep := stepOf_of_step? hstep
    exact ⟨hs.1.step hstep, hs.2.step hs.1 hstep⟩

/-! ## What a thread can do -/

theorem step?_of_use? (hu : s.use? t = some u) {slot : KeySlot}
    (hslot : s.slots[u.slot]? = some slot) {phase : LockPhase} (hphase : u.phase = phase)
    {step : LockStep} (hstep : ∀ key, step ≠ .enter key) :
    s.step? t step = s.stepUse? t u slot phase step := by
  subst hphase
  have huse : ((s.use? t).bind fun u => s.slots[u.slot]?.bind fun slot =>
      s.stepUse? t u slot u.phase step) = s.stepUse? t u slot u.phase step := by
    rw [hu, Option.bind_some, hslot, Option.bind_some]
  cases step with
  | enter key => exact absurd rfl (hstep key)
  | _ => exact huse

theorem Sound.exists_slot (h : Sound s) (hu : s.use? t = some u) :
    ∃ slot, s.slots[u.slot]? = some slot :=
  ⟨_, List.getElem?_eq_getElem (h.made hu)⟩

/-- A thread that looks at its slot takes the key or falls asleep. -/
theorem Sound.exists_look (h : Sound s) (hu : s.use? t = some u) (hphase : u.phase = .awake) :
    ∃ step s', (step = .take ∨ step = .sleep) ∧ s.step? t step = some s' := by
  obtain ⟨slot, hslot⟩ := h.exists_slot hu
  rcases hheld : slot.held with _ | _
  · refine ⟨.take,
      (s.changeSlot u.slot fun slot => { slot with held := true }).setPhase t u .holding,
      .inl rfl, ?_⟩
    rw [step?_of_use? hu hslot hphase (by simp), stepUse?, hheld]
    rfl
  · refine ⟨.sleep, s.setPhase t u .asleep, .inr rfl, ?_⟩
    rw [step?_of_use? hu hslot hphase (by simp), stepUse?, hheld]
    rfl

/-- A thread that has released its key can notify somebody who sleeps, if there is somebody. -/
theorem Sound.exists_notify (h : Sound s) (hu : s.use? t = some u) (hphase : u.phase = .released) :
    ∃ sleeper s', s.step? t (.notify sleeper) = some s' := by
  obtain ⟨slot, hslot⟩ := h.exists_slot hu
  rcases hsleeper : s.hasSleeper u.slot with _ | _
  · refine ⟨none, s.setPhase t u .notified, ?_⟩
    rw [step?_of_use? hu hslot hphase (by simp), stepUse?, hsleeper]
    rfl
  · obtain ⟨sleeper, -, hsleeps⟩ := List.any_eq_true.1 hsleeper
    obtain ⟨v, hv, -⟩ := (Option.any_eq_true ..).1 hsleeps
    refine ⟨some sleeper, (s.setPhase sleeper v .awake).setPhase t u .notified, ?_⟩
    rw [step?_of_use? hu hslot hphase (by simp), stepUse?, hv]
    exact if_pos hsleeps

/-- The last steps of a thread with its key wait for nothing. -/
theorem Sound.exists_step (h : Sound s) (hu : s.use? t = some u) {step : LockStep}
    (hstep : u.phase = .holding ∧ step = .release ∨ u.phase = .notified ∧ step = .tidy ∨
      u.phase = .leaving ∧ step = .leave) :
    ∃ s', s.step? t step = some s' := by
  obtain ⟨slot, hslot⟩ := h.exists_slot hu
  rcases hstep with ⟨hphase, rfl⟩ | ⟨hphase, rfl⟩ | ⟨hphase, rfl⟩
  · exact ⟨_, (step?_of_use? hu hslot hphase (by simp)).trans rfl⟩
  · exact ⟨_, (step?_of_use? hu hslot hphase (by simp)).trans rfl⟩
  · exact ⟨_, (step?_of_use? hu hslot hphase (by simp)).trans rfl⟩

theorem StepOf.length_threads {step : LockStep} (hstep : StepOf s t step s') :
    s'.threads.length = s.threads.length := by
  cases hstep with
  | @enter key hidle => exact (List.length_set ..).trans (congrArg _ (threads_findOrMake s key))
  | @notify u v sleeper hu hphase hv hslot hsleep =>
    exact (List.length_set ..).trans (List.length_set ..)
  | @tidy u slot hu hslot hphase =>
    refine (List.length_set ..).trans ?_
    split
    · rw [threads_forget]
    · rfl
  | _ => exact List.length_set ..

/-- A step of one thread does nothing to another one but to wake it. -/
theorem StepOf.use?_of_ne {step : LockStep} (hstep : StepOf s t step s') {t' : Nat} (hne : t' ≠ t) :
    s'.use? t' = s.use? t' ∨ ∃ v, s.use? t' = some v ∧ v.phase = .asleep ∧
      s'.use? t' = some { v with phase := .awake } := by
  cases hstep with
  | @enter key hidle =>
    have hlt : t < (s.findOrMake key).2.threads.length := by
      rw [threads_findOrMake]
      exact (List.getElem?_eq_some_iff.1 hidle).1
    rw [use?_change hlt, if_neg hne, use?, threads_findOrMake]
    exact .inl rfl
  | take hu => exact .inl ((use?_change (lt_of_use? hu) ..).trans (if_neg hne))
  | sleep hu => exact .inl ((use?_setPhase hu ..).trans (if_neg hne))
  | wake hu => exact .inl ((use?_setPhase hu ..).trans (if_neg hne))
  | release hu => exact .inl ((use?_change (lt_of_use? hu) ..).trans (if_neg hne))
  | notifyNone hu => exact .inl ((use?_setPhase hu ..).trans (if_neg hne))
  | @notify u v sleeper hu hphase hv hslot hsleep =>
    have hnotified : ((s.setPhase sleeper v .awake).setPhase t u .notified).use? t' =
        (s.setPhase sleeper v .awake).use? t' := by
      refine (use?_setUse ?_ _ _).trans (if_neg hne)
      exact (List.length_set ..).symm ▸ lt_of_use? hu
    rw [hnotified, use?_setPhase hv]
    by_cases hsame : t' = sleeper
    · rw [if_pos hsame, hsame]
      exact .inr ⟨v, hv, hsleep, rfl⟩
    · rw [if_neg hsame]
      exact .inl rfl
  | @tidy u slot hu hslot hphase =>
    refine .inl ?_
    split
    · rw [use?_setPhase ((use?_forget ..).trans hu), if_neg hne, use?_forget]
    · exact (use?_setPhase hu ..).trans (if_neg hne)
  | leave hu => exact .inl ((use?_change (lt_of_use? hu) ..).trans (if_neg hne))

end KeyLocks

namespace Procedure

variable {α : Type}

/-- A step that is none with a lock changes nothing about the key that is held. -/
theorem HoldsOne.advance {σ : Type} {b : Backend σ} {wall : Instant} {t : Nat} {s s' : σ}
    {holders holders' : KeyMap Nat} {held : Option String} {p p' : Procedure α}
    (h : HoldsOne held p) (hlock : p.isAtLock = false)
    (hp : Threads.advance? b wall t s holders p = some (p', s', holders')) : HoldsOne held p' := by
  cases h with
  | done a => cases hp
  | lock => cases hlock
  | unlock => cases hlock
  | wallClock h =>
    cases hp
    exact h _
  | get h =>
    cases hp
    exact h _
  | put h =>
    cases hp
    exact h _
  | remove h =>
    cases hp
    exact h _
  | keys h =>
    cases hp
    exact h _

end Procedure

namespace Workers

open Procedure KeyLocks

variable {σ : Type} {b : Backend σ} {store : ContextStore} {m m' : Workers σ} {t : Nat}

/-! ## Threads between locks and within -/

/-- How far a thread is with its key, by what is left of its call. -/
inductive Stage {α : Type} : Option (Procedure α) → Option LockUse → Prop where
  /-- It makes no call. -/
  | idle : Stage none none
  /-- It uses no key. -/
  | outside {p : Procedure α} (hp : p.HoldsOne none) : Stage (some p) none
  /-- It waits for its key. -/
  | waiting {next : Procedure α} {u : LockUse} (hnext : next.HoldsOne (some u.key))
    (hphase : u.phase = .awake ∨ u.phase = .asleep) : Stage (some (.lock u.key next)) (some u)
  /-- It holds its key. -/
  | inside {p : Procedure α} {u : LockUse} (hp : p.HoldsOne (some u.key))
    (hphase : u.phase = .holding) : Stage (some p) (some u)
  /-- It gives its key back. -/
  | leaving {next : Procedure α} {u : LockUse} (hnext : next.HoldsOne none)
    (hphase : u.phase = .released ∨ u.phase = .notified ∨ u.phase = .leaving) :
    Stage (some (.unlock u.key next)) (some u)

namespace Stage

variable {α : Type} {p p' : Procedure α}

/-- What is left to a thread that waits for its key. -/
theorem exists_of_waiting {u : LockUse} {p : Option (Procedure α)} (h : Stage p (some u))
    (hphase : u.phase = .awake ∨ u.phase = .asleep) :
    ∃ next, p = some (.lock u.key next) ∧ next.HoldsOne (some u.key) := by
  cases h with
  | @waiting next _ hnext => exact ⟨next, rfl, hnext⟩
  | inside _ hinside => simp [hinside] at hphase
  | leaving _ hleaving => rcases hphase with hphase | hphase <;> simp [hphase] at hleaving

/-- What is left to a thread that holds its key. -/
theorem exists_of_holding {u : LockUse} {p : Option (Procedure α)} (h : Stage p (some u))
    (hphase : u.phase = .holding) : ∃ q, p = some q ∧ q.HoldsOne (some u.key) := by
  cases h with
  | waiting _ hwaiting => simp [hphase] at hwaiting
  | @inside q _ hq => exact ⟨q, rfl, hq⟩
  | leaving _ hleaving => simp [hphase] at hleaving

/-- What is left to a thread that gives its key back. -/
theorem exists_of_leaving {u : LockUse} {p : Option (Procedure α)} (h : Stage p (some u))
    (hphase : u.phase = .released ∨ u.phase = .notified ∨ u.phase = .leaving) :
    ∃ next, p = some (.unlock u.key next) ∧ next.HoldsOne none := by
  cases h with
  | waiting _ hwaiting => rcases hwaiting with hwaiting | hwaiting <;> simp [hwaiting] at hphase
  | inside _ hinside => simp [hinside] at hphase
  | @leaving next _ hnext => exact ⟨next, rfl, hnext⟩

/-- A thread that waits may be woken. -/
theorem awake {u : LockUse} {p : Option (Procedure α)} (h : Stage p (some u))
    (hphase : u.phase = .asleep) : Stage p (some { u with phase := .awake }) := by
  obtain ⟨next, rfl, hnext⟩ := h.exists_of_waiting (.inr hphase)
  exact .waiting (u := { u with phase := .awake }) hnext (.inl rfl)

/-- A thread keeps its own stage with each step with a lock. -/
theorem lock {s s' : KeyLocks} {step : LockStep} (h : Stage (some p) (s.use? t))
    (hp : p.afterLock? step = some p') (hstep : StepOf s t step s') :
    Stage (some p') (s'.use? t) := by
  cases hstep with
  | @enter key hidle =>
    have hnone : s.use? t = none := by
      rw [use?, hidle]
      rfl
    have hlt : t < (s.findOrMake key).2.threads.length := by
      rw [threads_findOrMake]
      exact (List.getElem?_eq_some_iff.1 hidle).1
    rw [hnone] at h
    rw [use?_change hlt, if_pos rfl]
    cases h with
    | outside h =>
      cases h with
      | @lock key' next hnext =>
        rw [afterLock?] at hp
        split at hp
        · rename_i hkey
          cases hkey
          cases hp
          exact .waiting (u := ⟨key, _, .awake⟩) hnext (.inl rfl)
        · cases hp
      | _ => cases hp
  | @take u slot hu hslot hphase hfree =>
    rw [hu] at h
    rw [setPhase, use?_change (lt_of_use? hu), if_pos rfl]
    obtain ⟨next, ⟨⟩, hnext⟩ := h.exists_of_waiting (.inl hphase)
    cases hp
    exact .inside (u := { u with phase := .holding }) hnext rfl
  | @sleep u slot hu hslot hphase hheld =>
    rw [hu] at h
    rw [use?_setPhase hu, if_pos rfl]
    obtain ⟨next, ⟨⟩, hnext⟩ := h.exists_of_waiting (.inl hphase)
    cases hp
    exact .waiting (u := { u with phase := .asleep }) hnext (.inr rfl)
  | @wake u hu hphase =>
    rw [hu] at h
    rw [use?_setPhase hu, if_pos rfl]
    obtain ⟨next, ⟨⟩, hnext⟩ := h.exists_of_waiting (.inr hphase)
    cases hp
    exact h.awake hphase
  | @release u hu hphase =>
    rw [hu] at h
    rw [setPhase, use?_change (lt_of_use? hu), if_pos rfl]
    obtain ⟨q, ⟨⟩, hq⟩ := h.exists_of_holding hphase
    cases hq with
    | unlock hnext =>
      cases hp
      exact .leaving (u := { u with phase := .released }) hnext (.inl rfl)
    | _ => cases hp
  | @notifyNone u hu hphase hnone =>
    rw [hu] at h
    rw [use?_setPhase hu, if_pos rfl]
    obtain ⟨next, ⟨⟩, hnext⟩ := h.exists_of_leaving (.inl hphase)
    cases hp
    exact .leaving (u := { u with phase := .notified }) hnext (.inr (.inl rfl))
  | @notify u v sleeper hu hphase hv hslot hsleep =>
    have hlt : t < (s.setPhase sleeper v .awake).threads.length :=
      (List.length_set ..).symm ▸ lt_of_use? hu
    rw [hu] at h
    rw [setPhase, use?_setUse hlt, if_pos rfl]
    obtain ⟨next, ⟨⟩, hnext⟩ := h.exists_of_leaving (.inl hphase)
    cases hp
    exact .leaving (u := { u with phase := .notified }) hnext (.inr (.inl rfl))
  | @tidy u slot hu hslot hphase =>
    have hu' : (if slot.references = 2 then s.forget u.key else s).use? t = some u := by
      split
      · rw [use?_forget, hu]
      · exact hu
    rw [hu] at h
    rw [use?_setPhase hu', if_pos rfl]
    obtain ⟨next, ⟨⟩, hnext⟩ := h.exists_of_leaving (.inr (.inl hphase))
    cases hp
    exact .leaving (u := { u with phase := .leaving }) hnext (.inr (.inr rfl))
  | @leave u hu hphase =>
    rw [hu] at h
    rw [use?_change (lt_of_use? hu), if_pos rfl]
    obtain ⟨next, ⟨⟩, hnext⟩ := h.exists_of_leaving (.inr (.inr hphase))
    cases hp
    exact .outside hnext

end Stage

/-- What holds of threads and their locks after every turn. -/
structure Sound (m : Workers σ) : Prop where
  /-- The locks are sound. -/
  locks : m.locks.Sound
  /-- Sleepers on free slots are attended. -/
  attended : m.locks.Attended
  /-- The locks are those of the threads. -/
  length : m.threads.length = m.locks.threads.length
  /-- What a thread does with locks is what its call has come to. -/
  stage : ∀ {t th}, m.threads[t]? = some th → Stage (th.running.map Prod.snd) (m.locks.use? t)

namespace Sound

theorem start (storage : σ) (programs : List (List Request)) : Sound (start storage programs) where
  locks := .start programs.length
  attended := .of_isReachable ⟨[], rfl⟩
  length := by simp [Workers.start, KeyLocks.start]
  stage {t th} hth := by
    have hwaits : (programs[t]?.map fun p => ({ waiting := p } : Thread)) = some th := by
      rw [← List.getElem?_map]
      exact hth
    obtain ⟨p, -, rfl⟩ := Option.map_eq_some_iff.1 hwaits
    rw [Workers.start, use?_start]
    exact .idle

/-- One thread is replaced, and the locks by those in which the stages of the others are what they
were. -/
theorem set (h : Sound m) {s : σ} {locks : KeyLocks} {th : Thread} (hsound : locks.Sound)
    (hattended : locks.Attended) (hlength : locks.threads.length = m.locks.threads.length)
    (hothers : ∀ {t' : Nat} {p : Option (Procedure (Except StateError Reply))}, t' ≠ t →
      Stage p (m.locks.use? t') → Stage p (locks.use? t'))
    (hstage : Stage (th.running.map Prod.snd) (locks.use? t)) :
    Sound ⟨s, locks, m.threads.set t th⟩ := by
  refine ⟨hsound, hattended, ?_, fun {t' th'} hth' => ?_⟩
  · exact (List.length_set ..).trans (h.length.trans hlength.symm)
  · have hget : (m.threads.set t th)[t']? = some th' := hth'
    rw [List.getElem?_set] at hget
    split at hget
    · rename_i hsame
      split at hget
      · cases hget
        exact hsame ▸ hstage
      · cases hget
    · rename_i hne
      exact hothers (Ne.symm hne) (h.stage hget)

/-- Work between locks leaves the locks alone and the thread in its stage. -/
theorem work {wall : Instant} (h : Sound m) (hwork : m.work? b store wall t = some m') :
    Sound m' := by
  obtain ⟨th, hth, hwork⟩ := Option.bind_eq_some_iff.1 hwork
  split at hwork
  · cases hwork
  · rename_i hlock
    obtain ⟨r, hstep, hwork⟩ := Option.bind_eq_some_iff.1 hwork
    cases hwork
    have hstage := h.stage hth
    cases Threads.stepOf_of_step? hstep with
    | @begins r rs results hth' =>
      cases hth.symm.trans hth'
      refine h.set h.locks h.attended rfl (fun _ hstage => hstage) ?_
      generalize m.locks.use? t = use at hstage ⊢
      cases hstage
      exact .outside (Request.holdsOne_call store r)
    | @advances r p p' waiting results s holders hth' hp =>
      cases hth.symm.trans hth'
      refine h.set h.locks h.attended rfl (fun _ hstage => hstage) ?_
      have hbetween : p.isAtLock = false := Bool.eq_false_iff.2 hlock
      generalize m.locks.use? t = use at hstage ⊢
      cases hstage with
      | outside hone => exact .outside (hone.advance hbetween hp)
      | waiting => cases hbetween
      | inside hone hphase => exact .inside (hone.advance hbetween hp) hphase
      | leaving => cases hbetween
    | @ends r result waiting results hth' =>
      cases hth.symm.trans hth'
      refine h.set h.locks h.attended rfl (fun _ hstage => hstage) ?_
      generalize m.locks.use? t = use at hstage ⊢
      -- a call that has ended holds no key
      cases hstage with
      | outside => exact .idle
      | inside hone => cases hone

/-- A step with a lock keeps the stages of all threads. -/
theorem lock {step : LockStep} (h : Sound m) (hlock : m.lock? step t = some m') : Sound m' := by
  obtain ⟨th, hth, hlock⟩ := Option.bind_eq_some_iff.1 hlock
  obtain ⟨⟨r, p⟩, hrunning, hlock⟩ := Option.bind_eq_some_iff.1 hlock
  obtain ⟨p', hp, hlock⟩ := Option.bind_eq_some_iff.1 hlock
  obtain ⟨locks, hstep, hlock⟩ := Option.bind_eq_some_iff.1 hlock
  cases hlock
  have hstep := stepOf_of_step? hstep
  have hstage := h.stage hth
  rw [hrunning] at hstage
  refine h.set (h.locks.step hstep) (h.attended.step h.locks hstep) hstep.length_threads ?_
    (hstage.lock hp hstep)
  intro t' q hne hother
  rcases hstep.use?_of_ne hne with hsame | ⟨v, hv, hasleep, hwoken⟩
  · rw [hsame]
    exact hother
  · rw [hwoken]
    rw [hv] at hother
    exact hother.awake hasleep

theorem take {turn : Turn σ} (h : Sound m) (hturn : m.take? b store turn = some m') : Sound m' := by
  cases turn with
  | thread t move =>
    cases move with
    | work wall => exact h.work hturn
    | lock step => exact h.lock hturn
  | storage s =>
    cases hturn
    exact ⟨h.locks, h.attended, h.length, h.stage⟩

/-! ## Whoever does not sleep goes on -/

/-- Between locks there is always something that a thread with something left can do. -/
theorem exists_step_of_not_isAtLock {threads : Threads σ} {th : Thread}
    (hth : threads.threads[t]? = some th) (hleft : th.isFinished = false)
    (hlock : (th.running.any fun (_, p) => p.isAtLock) = false) :
    ∃ r, Threads.step? b store .epoch t threads = some r := by
  obtain ⟨running, waiting, results⟩ := th
  rw [Threads.step?, hth]
  rcases running with _ | ⟨r, p⟩
  · rcases waiting with _ | ⟨r, rs⟩
    · cases hleft
    · exact ⟨_, rfl⟩
  · cases p with
    | lock => cases hlock
    | unlock => cases hlock
    | _ => exact ⟨_, rfl⟩

theorem exists_work {th : Thread} (hth : m.threads[t]? = some th) (hleft : th.isFinished = false)
    (hlock : (th.running.any fun (_, p) => p.isAtLock) = false) :
    ∃ move m', move ≠ .lock .wake ∧ m.move? b store t move = some m' := by
  have hstep : ∃ r, Threads.step? b store .epoch t { storage := m.storage, threads := m.threads } =
      some r := exists_step_of_not_isAtLock hth hleft hlock
  obtain ⟨r, hr⟩ := hstep
  refine ⟨.work .epoch, { m with storage := r.storage, threads := r.threads }, by simp, ?_⟩
  rw [move?, work?, hth, Option.bind_eq_bind, Option.bind_some, hlock, hr]
  rfl

/-- A step with a lock that the thread can take, and that its call is waiting for, is a move. -/
theorem exists_lock {r : Request} {p p' : Procedure (Except StateError Reply)}
    {waiting : List Request} {results : Results} {step : LockStep} {locks : KeyLocks}
    (hth : m.threads[t]? = some ⟨some (r, p), waiting, results⟩)
    (hp : p.afterLock? step = some p') (hstep : m.locks.step? t step = some locks)
    (hwake : step ≠ .wake) :
    ∃ move m', move ≠ .lock .wake ∧ m.move? b store t move = some m' := by
  refine ⟨.lock step, ⟨m.storage, locks, m.threads.set t ⟨some (r, p'), waiting, results⟩⟩,
    fun h => hwake (Move.lock.inj h), ?_⟩
  simp [move?, lock?, hth, hp, hstep]

/-- A thread that uses no key can ask for the one that its call needs. -/
theorem exists_enter (h : Sound m) {r : Request} {p : Procedure (Except StateError Reply)}
    {waiting : List Request} {results : Results}
    (hth : m.threads[t]? = some ⟨some (r, p), waiting, results⟩) (hlock : p.isAtLock = true)
    (hnone : m.locks.use? t = none) :
    ∃ move m', move ≠ .lock .wake ∧ m.move? b store t move = some m' := by
  have hidle : m.locks.threads[t]? = some none := by
    have hlt := (List.getElem?_eq_some_iff.1 hth).1
    rw [h.length] at hlt
    rw [use?, List.getElem?_eq_getElem hlt] at hnone
    rw [List.getElem?_eq_getElem hlt]
    exact congrArg some hnone
  have hstage := h.stage hth
  rw [hnone] at hstage
  cases hstage with
  | outside hone =>
    cases hone with
    | @lock key next hnext =>
      have hp : (Procedure.lock key next).afterLock? (.enter key) = some (.lock key next) :=
        if_pos rfl
      exact exists_lock hth hp (if_pos hidle) (by simp)
    | _ => cases hlock

/-- A thread that uses a key and does not sleep can go on with it. -/
theorem exists_goOn (h : Sound m) {r : Request} {p : Procedure (Except StateError Reply)}
    {waiting : List Request} {results : Results}
    (hth : m.threads[t]? = some ⟨some (r, p), waiting, results⟩) (hlock : p.isAtLock = true)
    {u : LockUse} (hu : m.locks.use? t = some u) (hawake : u.phase ≠ .asleep) :
    ∃ move m', move ≠ .lock .wake ∧ m.move? b store t move = some m' := by
  have hstage := h.stage hth
  rw [hu] at hstage
  cases hphase : u.phase with
  | awake =>
    obtain ⟨next, ⟨⟩, -⟩ := hstage.exists_of_waiting (.inl hphase)
    obtain ⟨step, s', rfl | rfl, hstep⟩ := h.locks.exists_look hu hphase
    · exact exists_lock hth rfl hstep (by simp)
    · exact exists_lock hth rfl hstep (by simp)
  | asleep => exact absurd hphase hawake
  | holding =>
    obtain ⟨q, ⟨⟩, hone⟩ := hstage.exists_of_holding hphase
    obtain ⟨s', hstep⟩ := h.locks.exists_step hu (.inl ⟨hphase, rfl⟩)
    cases hone with
    | unlock => exact exists_lock hth rfl hstep (by simp)
    | _ => cases hlock
  | released =>
    obtain ⟨next, ⟨⟩, -⟩ := hstage.exists_of_leaving (.inl hphase)
    obtain ⟨sleeper, s', hstep⟩ := h.locks.exists_notify hu hphase
    exact exists_lock hth rfl hstep (by simp)
  | notified =>
    obtain ⟨next, ⟨⟩, -⟩ := hstage.exists_of_leaving (.inr (.inl hphase))
    obtain ⟨s', hstep⟩ := h.locks.exists_step hu (.inr (.inl ⟨hphase, rfl⟩))
    exact exists_lock hth rfl hstep (by simp)
  | leaving =>
    obtain ⟨next, ⟨⟩, -⟩ := hstage.exists_of_leaving (.inr (.inr hphase))
    obtain ⟨s', hstep⟩ := h.locks.exists_step hu (.inr (.inr ⟨hphase, rfl⟩))
    exact exists_lock hth rfl hstep (by simp)

/-- A thread that has something left to do and does not sleep can make a move. -/
theorem exists_move (h : Sound m) {th : Thread} (hth : m.threads[t]? = some th)
    (hleft : th.isFinished = false)
    (hawake : ∀ u, m.locks.use? t = some u → u.phase ≠ .asleep) :
    ∃ move m', move ≠ .lock .wake ∧ m.move? b store t move = some m' := by
  rcases hlock : th.running.any fun (_, p) => p.isAtLock with _ | _
  · exact exists_work hth hleft hlock
  · obtain ⟨running, waiting, results⟩ := th
    rcases running with _ | ⟨r, p⟩
    · cases hlock
    · rcases hu : m.locks.use? t with _ | u
      · exact h.exists_enter hth hlock hu
      · exact h.exists_goOn hth hlock hu (hawake u hu)

/-- A thread that uses a key has something left to do. -/
theorem exists_thread (h : Sound m) {u : LockUse} (hu : m.locks.use? t = some u) :
    ∃ th, m.threads[t]? = some th ∧ th.isFinished = false := by
  have hlt : t < m.threads.length := by
    rw [h.length]
    exact lt_of_use? hu
  refine ⟨_, List.getElem?_eq_getElem hlt, ?_⟩
  have hstage := h.stage (List.getElem?_eq_getElem hlt)
  rw [hu] at hstage
  generalize m.threads[t] = th at hstage ⊢
  obtain ⟨running, waiting, results⟩ := th
  rcases running with _ | x
  · cases hstage
  · rfl

/-- A thread that uses a key and does not sleep can make a move. -/
theorem exists_move_of_use (h : Sound m) {u : LockUse} (hu : m.locks.use? t = some u)
    (hawake : u.phase ≠ .asleep) :
    ∃ move m', move ≠ .lock .wake ∧ m.move? b store t move = some m' := by
  obtain ⟨th, hth, hleft⟩ := h.exists_thread hu
  refine h.exists_move hth hleft fun v hv => ?_
  cases hu.symm.trans hv
  exact hawake

/-- Where a thread sleeps, another one can make a move: the one that holds the key, or one that
attends the sleepers. -/
theorem exists_move_of_asleep (h : Sound m) {u : LockUse} (hu : m.locks.use? t = some u)
    (hasleep : u.phase = .asleep) :
    ∃ t move m', move ≠ .lock .wake ∧ m.move? b store t move = some m' := by
  obtain ⟨slot, hslot⟩ := h.locks.exists_slot hu
  rcases hheld : slot.held with _ | _
  · obtain ⟨t', u', hu', -, hattends⟩ := h.attended u.slot t u slot hu rfl hasleep hslot hheld
    refine ⟨t', h.exists_move_of_use hu' ?_⟩
    intro hphase
    rcases hattends with hattends | hattends <;> cases hattends.symm.trans hphase
  · have hcount : 0 < m.locks.count (holdsSlot u.slot) := by
      rw [h.locks.held hslot, hheld]
      exact Nat.one_pos
    obtain ⟨t', u', hu', hholds⟩ := exists_of_count_pos hcount
    rw [holdsSlot, Bool.and_eq_true, beq_iff_eq, beq_iff_eq] at hholds
    refine ⟨t', h.exists_move_of_use hu' ?_⟩
    rw [hholds.2]
    decide

end Sound

theorem Sound.of_isReachable {storage : σ} {programs : List (List Request)}
    (h : IsReachable b store storage programs m) : Sound m := by
  obtain ⟨schedule, hrun⟩ := h
  exact foldlM_induction (fun _ _ _ hs hturn => hs.take hturn) (.start storage programs) hrun

/-- **No lost wakeup and no deadlock.** Threads make any requests of a store over any storage, and
their steps interleave in any order. If a thread sleeps and nobody holds its key, then a thread is
there that is about to notify on that slot, or that is awake and about to look at it. And as long as
a thread has something left to do, some thread can make a move, even if nobody wakes up without
being notified. -/
theorem no_lost_wakeup_no_deadlock {storage : σ} {programs : List (List Request)}
    (h : IsReachable b store storage programs m) :
    (∀ t u, m.locks.use? t = some u → u.phase = .asleep →
      ∃ slot, m.locks.slots[u.slot]? = some slot ∧
        (slot.held = false → m.locks.HasAttendant u.slot)) ∧
      (m.isFinished = false →
        ∃ t move m', move ≠ .lock .wake ∧ m.move? b store t move = some m') := by
  have hs := Sound.of_isReachable h
  constructor
  · intro t u hu hasleep
    obtain ⟨slot, hslot⟩ := hs.locks.exists_slot hu
    exact ⟨slot, hslot, hs.attended u.slot t u slot hu rfl hasleep hslot⟩
  · intro hunfinished
    obtain ⟨th, hmem, hleft⟩ := List.all_eq_false.1 hunfinished
    obtain ⟨t, hth⟩ := List.getElem?_of_mem hmem
    by_cases hasleep : ∃ u, m.locks.use? t = some u ∧ u.phase = .asleep
    · obtain ⟨u, hu, hphase⟩ := hasleep
      exact hs.exists_move_of_asleep hu hphase
    · refine ⟨t, hs.exists_move hth (Bool.eq_false_iff.2 hleft) fun u hu hphase => ?_⟩
      exact hasleep ⟨u, hu, hphase⟩

/-- Two deletions of one context: the second thread falls asleep, and the first one has released
the key and has not yet notified. -/
def betweenReleaseAndNotify : List (Turn (MemoryStore Context)) :=
  [.thread 0 (.work .epoch), .thread 0 (.lock (.enter "a")), .thread 0 (.lock .take),
    .thread 1 (.work .epoch), .thread 1 (.lock (.enter "a")), .thread 1 (.lock .sleep),
    .thread 0 (.work .epoch), .thread 0 (.lock .release)]

/-- The thread that sleeps on the free slot is attended, and one of the two can make a move. -/
theorem no_lost_wakeup_between_release_and_notify :
    ∃ m, IsReachable MemoryStore.backend {} (.new .epoch) [[.delete "a"], [.delete "a"]] m ∧
      m.locks.use? 1 = some ⟨"a", 0, .asleep⟩ ∧ m.locks.slots[0]? = some ⟨false, 3⟩ ∧
      m.locks.HasAttendant 0 ∧ m.isFinished = false ∧
      ∃ t move m', move ≠ .lock .wake ∧ m.move? MemoryStore.backend {} t move = some m' := by
  have hrun : ((start (.new .epoch) [[.delete "a"], [.delete "a"]]).run? MemoryStore.backend {}
      betweenReleaseAndNotify).any (fun m =>
        decide (m.locks.use? 1 = some ⟨"a", 0, .asleep⟩) &&
          decide (m.locks.slots[0]? = some ⟨false, 3⟩) && decide (m.isFinished = false)) =
      true := by
    rfl
  simp only [Option.any_eq_true, Bool.and_eq_true, decide_eq_true_eq] at hrun
  obtain ⟨m, hm, ⟨hu, hslot⟩, hunfinished⟩ := hrun
  have hreachable : IsReachable MemoryStore.backend {} (.new .epoch)
      [[.delete "a"], [.delete "a"]] m := ⟨betweenReleaseAndNotify, hm⟩
  obtain ⟨hattended, hmove⟩ := no_lost_wakeup_no_deadlock hreachable
  obtain ⟨slot, hslot', hfree⟩ := hattended 1 _ hu rfl
  cases hslot.symm.trans hslot'
  exact ⟨m, hreachable, hu, hslot, hfree rfl, hunfinished, hmove hunfinished⟩

end Workers

end KeyedState

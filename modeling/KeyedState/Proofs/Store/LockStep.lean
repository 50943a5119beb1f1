import KeyedState.Proofs.Except
import KeyedState.Store.KeyLocks

/-!
# Steps of threads that use locks

All that a step of a thread can be (`KeyLocks.StepOf`), and what the changes that steps are made of
do to what the threads use (`KeyLocks.use?`), to the slots, and to the number of threads that use
something of a kind (`KeyLocks.count`). The invariants of locks are stated and proved in these
terms.
-/

namespace KeyedState

namespace KeyLocks

variable {s s' : KeyLocks} {t : Nat} {u : LockUse}

/-! ## What threads use -/

theorem getElem?_of_use? (h : s.use? t = some u) : s.threads[t]? = some (some u) :=
  Option.join_eq_some_iff.1 h

theorem lt_of_use? (h : s.use? t = some u) : t < s.threads.length :=
  (List.getElem?_eq_some_iff.1 (getElem?_of_use? h)).1

theorem use?_setUse (ht : t < s.threads.length) (use : Option LockUse) (t' : Nat) :
    (s.setUse t use).use? t' = if t' = t then use else s.use? t' := by
  unfold use? setUse
  rw [List.getElem?_set]
  by_cases h : t = t'
  · rw [if_pos h, if_pos ht, if_pos h.symm]
    rfl
  · rw [if_neg h, if_neg (Ne.symm h)]

theorem use?_setPhase (h : s.use? t = some u) (phase : LockPhase) (t' : Nat) :
    (s.setPhase t u phase).use? t' = if t' = t then some { u with phase } else s.use? t' :=
  use?_setUse (lt_of_use? h) _ t'

theorem use?_change (ht : t < s.threads.length) (i : Nat) (f : KeySlot → KeySlot)
    (use : Option LockUse) (t' : Nat) :
    ((s.changeSlot i f).setUse t use).use? t' = if t' = t then use else s.use? t' :=
  use?_setUse (s := s.changeSlot i f) ht use t'

/-! ## Slots -/

theorem changeSlot_id (s : KeyLocks) (i : Nat) : s.changeSlot i id = s := by
  unfold changeSlot
  rw [List.modify_id]

theorem threads_findOrMake (s : KeyLocks) (key : String) :
    (s.findOrMake key).2.threads = s.threads := by
  unfold findOrMake
  split
  · rfl
  · rfl

/-- The table has no other slot than before but that of the key asked for. -/
theorem table_findOrMake {key key' : String} {i : Nat}
    (h : (s.findOrMake key).2.table.get? key' = some i) :
    i = (s.findOrMake key).1 ∨ s.table.get? key' = some i := by
  revert h
  unfold findOrMake
  split
  · exact .inr
  · intro h
    rw [KeyMap.get?_insert] at h
    split at h
    · exact .inl (Option.some.inj h).symm
    · exact .inr h

/-- The slot at one place after the slot at another one is changed. -/
def changed (i j : Nat) (f : KeySlot → KeySlot) (slot : KeySlot) : KeySlot :=
  if i = j then f slot else slot

theorem slots_changeSlot (s : KeyLocks) (i j : Nat) (f : KeySlot → KeySlot) :
    (s.changeSlot i f).slots[j]? = s.slots[j]?.map (changed i j f) :=
  List.getElem?_modify ..

/-! ## Numbers of threads -/

/-- The number of threads that use something of a kind. -/
def count (s : KeyLocks) (kind : LockUse → Bool) : Nat := s.threads.countP (·.any kind)

/-- What a thread uses counts as one if it is of a kind. -/
def weight (kind : LockUse → Bool) (use : Option LockUse) : Nat := if use.any kind then 1 else 0

theorem count_setUse (ht : t < s.threads.length) (use : Option LockUse) (kind : LockUse → Bool) :
    (s.setUse t use).count kind + weight kind (s.use? t) = s.count kind + weight kind use := by
  have hold : s.use? t = s.threads[t] := by
    rw [use?, List.getElem?_eq_getElem ht]
    rfl
  unfold count setUse weight
  rw [List.countP_set ht, hold]
  by_cases h : s.threads[t].any kind = true
  · have hpos : 0 < s.threads.countP (·.any kind) :=
      List.countP_pos_iff.2 ⟨_, List.getElem_mem ht, h⟩
    rw [if_pos h]
    omega
  · rw [if_neg h]
    omega

/-- Slots do not count, so a change of one may go with what a thread uses. -/
theorem count_change (ht : t < s.threads.length) (i : Nat) (f : KeySlot → KeySlot)
    (use : Option LockUse) (kind : LockUse → Bool) :
    ((s.changeSlot i f).setUse t use).count kind + weight kind (s.use? t) =
      s.count kind + weight kind use :=
  count_setUse (s := s.changeSlot i f) ht use kind

theorem count_findOrMake (s : KeyLocks) (key : String) (kind : LockUse → Bool) :
    (s.findOrMake key).2.count kind = s.count kind :=
  congrArg (List.countP _) (threads_findOrMake s key)

/-- Threads of a kind are counted by the two kinds that make it up. -/
theorem count_eq_add (s : KeyLocks) {kind kind₁ kind₂ : LockUse → Bool}
    (h : ∀ u, weight kind (some u) = weight kind₁ (some u) + weight kind₂ (some u)) :
    s.count kind = s.count kind₁ + s.count kind₂ := by
  have huse : ∀ use, weight kind use = weight kind₁ use + weight kind₂ use := by
    intro use
    cases use with
    | none => rfl
    | some u => exact h u
  have hcons : ∀ kind use uses, List.countP (·.any kind) (use :: uses) =
      List.countP (·.any kind) uses + weight kind use := fun _ _ _ => List.countP_cons
  unfold count
  induction s.threads with
  | nil => rfl
  | cons use uses ih =>
    rw [hcons, hcons, hcons, ih, huse]
    omega

/-- A thread counts where it uses something of the kind. -/
theorem count_pos {kind : LockUse → Bool} (h : s.use? t = some u) (hu : kind u = true) :
    0 < s.count kind :=
  List.countP_pos_iff.2 ⟨some u, List.mem_of_getElem? (getElem?_of_use? h), hu⟩

/-- Where threads are counted, there is one. -/
theorem exists_of_count_pos {kind : LockUse → Bool} (h : 0 < s.count kind) :
    ∃ t u, s.use? t = some u ∧ kind u = true := by
  obtain ⟨use, huse, hkind⟩ := List.countP_pos_iff.1 h
  obtain ⟨t, ht⟩ := List.getElem?_of_mem huse
  obtain ⟨u, rfl, hu⟩ := (Option.any_eq_true ..).1 hkind
  exact ⟨t, u, Option.join_eq_some_iff.2 ht, hu⟩

/-- One thread that is counted leaves no room for another where no more than one is. -/
theorem eq_of_count_le_one {kind : LockUse → Bool} (h : s.count kind ≤ 1) {t' : Nat} {u' : LockUse}
    (hu : s.use? t = some u) (hkind : kind u = true) (hu' : s.use? t' = some u')
    (hkind' : kind u' = true) : t' = t := by
  refine Classical.byContradiction fun hne => ?_
  -- without the first thread the second one would still be counted
  have hcount := count_setUse (lt_of_use? hu) none kind
  have hother : (s.setUse t none).use? t' = some u' := by
    rw [use?_setUse (lt_of_use? hu), if_neg hne, hu']
  have hpos := count_pos hother hkind'
  have hone : weight kind (s.use? t) = 1 := by
    rw [hu]
    exact if_pos hkind
  have hzero : weight kind none = 0 := rfl
  omega

/-! ## Steps -/

/-- What a step of thread `t` can be. -/
inductive StepOf (s : KeyLocks) (t : Nat) : LockStep → KeyLocks → Prop where
  | enter {key : String} (hidle : s.threads[t]? = some none) :
    StepOf s t (.enter key)
      (((s.findOrMake key).2.changeSlot (s.findOrMake key).1 refer).setUse t
        (some ⟨key, (s.findOrMake key).1, .awake⟩))
  | take {u : LockUse} {slot : KeySlot} (hu : s.use? t = some u)
    (hslot : s.slots[u.slot]? = some slot) (hphase : u.phase = .awake) (hfree : slot.held = false) :
    StepOf s t .take
      ((s.changeSlot u.slot fun slot => { slot with held := true }).setPhase t u .holding)
  | sleep {u : LockUse} {slot : KeySlot} (hu : s.use? t = some u)
    (hslot : s.slots[u.slot]? = some slot) (hphase : u.phase = .awake) (hheld : slot.held = true) :
    StepOf s t .sleep (s.setPhase t u .asleep)
  | wake {u : LockUse} (hu : s.use? t = some u) (hphase : u.phase = .asleep) :
    StepOf s t .wake (s.setPhase t u .awake)
  | release {u : LockUse} (hu : s.use? t = some u) (hphase : u.phase = .holding) :
    StepOf s t .release
      ((s.changeSlot u.slot fun slot => { slot with held := false }).setPhase t u .released)
  | notifyNone {u : LockUse} (hu : s.use? t = some u) (hphase : u.phase = .released)
    (hnone : s.hasSleeper u.slot = false) :
    StepOf s t (.notify none) (s.setPhase t u .notified)
  | notify {u v : LockUse} {sleeper : Nat} (hu : s.use? t = some u) (hphase : u.phase = .released)
    (hv : s.use? sleeper = some v) (hslot : v.slot = u.slot) (hsleep : v.phase = .asleep) :
    StepOf s t (.notify (some sleeper)) ((s.setPhase sleeper v .awake).setPhase t u .notified)
  | tidy {u : LockUse} {slot : KeySlot} (hu : s.use? t = some u)
    (hslot : s.slots[u.slot]? = some slot) (hphase : u.phase = .notified) :
    StepOf s t .tidy
      ((if slot.references = 2 then s.forget u.key else s).setPhase t u .leaving)
  | leave {u : LockUse} (hu : s.use? t = some u) (hphase : u.phase = .leaving) :
    StepOf s t .leave ((s.changeSlot u.slot unrefer).setUse t none)

theorem stepOf_of_stepUse? {slot : KeySlot} {phase : LockPhase} {step : LockStep}
    (hu : s.use? t = some u) (hslot : s.slots[u.slot]? = some slot) (hphase : u.phase = phase)
    (h : s.stepUse? t u slot phase step = some s') : StepOf s t step s' := by
  unfold stepUse? at h
  split at h
  · split at h
    · cases h
    · rename_i hfree
      cases h
      exact .take hu hslot hphase (Bool.eq_false_iff.2 hfree)
  · split at h
    · rename_i hheld
      cases h
      exact .sleep hu hslot hphase hheld
    · cases h
  · cases h
    exact .wake hu hphase
  · cases h
    exact .release hu hphase
  · split at h
    · cases h
    · rename_i hnone
      cases h
      exact .notifyNone hu hphase (Bool.eq_false_iff.2 hnone)
  · split at h
    · cases h
    · rename_i v hv
      split at h
      · rename_i hsleeps
        cases h
        rw [sleepsOn, hv, Option.any_some, Bool.and_eq_true, beq_iff_eq, beq_iff_eq] at hsleeps
        exact .notify hu hphase hv hsleeps.1 hsleeps.2
      · cases h
  · cases h
    exact .tidy hu hslot hphase
  · cases h
    exact .leave hu hphase
  · cases h

theorem stepOf_of_step? {step : LockStep} (h : s.step? t step = some s') : StepOf s t step s' := by
  have huse : ∀ {step : LockStep}, ((s.use? t).bind fun u => s.slots[u.slot]?.bind fun slot =>
      s.stepUse? t u slot u.phase step) = some s' → StepOf s t step s' := by
    intro step h
    obtain ⟨u, hu, h⟩ := Option.bind_eq_some_iff.1 h
    obtain ⟨slot, hslot, h⟩ := Option.bind_eq_some_iff.1 h
    exact stepOf_of_stepUse? hu hslot rfl h
  cases step with
  | enter key =>
    rw [step?, enter?] at h
    split at h
    · rename_i hidle
      cases h
      exact .enter hidle
    · cases h
  | take => exact huse h
  | sleep => exact huse h
  | wake => exact huse h
  | release => exact huse h
  | notify sleeper => exact huse h
  | tidy => exact huse h
  | leave => exact huse h

/-- What holds at the start and is kept by every step holds of every state that can come about. -/
theorem IsReachable.induction {threads : Nat} {P : KeyLocks → Prop} (base : P (start threads))
    (keep : ∀ s s' t step, P s → s.step? t step = some s' → P s') {s : KeyLocks}
    (h : IsReachable threads s) : P s := by
  obtain ⟨schedule, h⟩ := h
  exact foldlM_induction (fun s s' (x : Nat × LockStep) => keep s s' x.1 x.2) base h

end KeyLocks

end KeyedState

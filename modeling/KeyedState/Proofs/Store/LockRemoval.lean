import KeyedState.Proofs.Store.LockExclusion

/-!
# Slots of keys that nobody uses

A slot stays in the table as long as somebody uses its key, and the last thread to use it is to take
it out. It does so unless another thread has looked at the references in vain and has not yet given
up its own: then both find one reference too many, and the slot stays where it is though nobody uses
it (`KeyLocks.slot_stays_behind`). Such a slot is free, and nobody but the table refers to it
(`KeyLocks.slot_of_unused_key`), so that it is found by the next thread that asks for the key.

Steps are orderly (`KeyLocks.isOrderly`) if a thread looks at the references of a slot only while no
other thread has yet to give up its reference after such a look. Where all steps are orderly, the
table has slots of used keys only (`KeyLocks.no_slot_of_unused_key`).
-/

namespace KeyedState

namespace KeyLocks

variable {s s' : KeyLocks} {t : Nat} {u : LockUse} {key : String} {i : Nat}

/-- Whether no thread uses a key. -/
def Unused (s : KeyLocks) (key : String) : Prop := ∀ t u, s.use? t = some u → u.key ≠ key

/-! ## A slot that stays behind -/

/-- Two threads use a key one after the other. The second one looks at the references before the
first has given up its own. -/
def overtaking : List (Nat × LockStep) :=
  [(0, .enter "a"), (0, .take), (1, .enter "a"), (1, .sleep), (0, .release), (0, .notify (some 1)),
    (0, .tidy), (1, .take), (1, .release), (1, .notify none), (1, .tidy), (1, .leave), (0, .leave)]

/-- Neither thread takes the slot out of the table, and in the end nobody uses anything. -/
theorem slot_stays_behind :
    let s : KeyLocks :=
      { table := .ofList [("a", 0)], slots := [⟨false, 1⟩], threads := [none, none] }
    (start 2).run? overtaking = some s ∧ (∀ t, s.use? t = none) ∧ s.table.get? "a" = some 0 := by
  refine ⟨by rfl, ?_, by rfl⟩
  rintro (_ | _ | t)
  · rfl
  · rfl
  · rfl

/-- A slot of a key that nobody uses is free, and only the table refers to it. -/
theorem slot_of_unused_key {threads : Nat} (h : IsReachable threads s) (hunused : s.Unused key)
    (hkey : s.table.get? key = some i) : s.slots[i]? = some ⟨false, 1⟩ := by
  have hs := Sound.of_isReachable h
  have hnone : ∀ kind : LockUse → Bool, (∀ u, kind u = true → u.slot = i) → s.count kind = 0 := by
    intro kind hkind
    refine Nat.eq_zero_of_not_pos fun hpos => ?_
    obtain ⟨t, u, hu, hk⟩ := exists_of_count_pos hpos
    exact hunused t u hu (hs.keyed hu ((hkind u hk).symm ▸ hkey))
  obtain ⟨⟨held, references⟩, hslot, hrefs⟩ := hs.references hkey
  have husers := hnone (usesSlot i) fun u hu => beq_iff_eq.1 hu
  have hholders := hnone (holdsSlot i) fun u hu => beq_iff_eq.1 (Bool.and_eq_true_iff.1 hu).1
  rw [hs.held hslot] at hholders
  rw [husers] at hrefs
  cases held with
  | false => rw [hslot, show references = 1 from hrefs]
  | true => cases hholders

/-! ## Orderly steps -/

/-- Whether a thread has looked at the references of a slot and has yet to give up its own. -/
def leavesSlot (i : Nat) (u : LockUse) : Bool := u.slot == i && u.phase == .leaving

/-- Whether a thread uses a slot and may still look at its references. -/
def staysOnSlot (i : Nat) (u : LockUse) : Bool := u.slot == i && u.phase != .leaving

/-- Whether a step is no look at the references of a slot to which another thread has yet to give
up its reference. -/
def isOrderly (s : KeyLocks) (t : Nat) : LockStep → Bool
  | .tidy => (s.use? t).all fun u => s.count (leavesSlot u.slot) == 0
  | _ => true

/-- The state after a schedule of steps, if each is orderly and can be taken. -/
def runOrderly? (s : KeyLocks) (schedule : List (Nat × LockStep)) : Option KeyLocks :=
  schedule.foldlM (fun s (t, step) => if s.isOrderly t step then s.step? t step else none) s

/-- Whether a state can come about among so many threads in orderly steps. -/
def IsOrderlyReachable (threads : Nat) (s : KeyLocks) : Prop :=
  ∃ schedule, (start threads).runOrderly? schedule = some s

theorem IsOrderlyReachable.induction {threads : Nat} {P : KeyLocks → Prop}
    (base : P (start threads))
    (keep : ∀ s s' t step, P s → s.isOrderly t step = true → s.step? t step = some s' → P s')
    (h : IsOrderlyReachable threads s) : P s := by
  obtain ⟨schedule, h⟩ := h
  refine foldlM_induction (fun s s' (x : Nat × LockStep) hs hstep => ?_) base h
  dsimp only at hstep
  split at hstep
  · rename_i horderly
    exact keep _ _ _ _ hs horderly hstep
  · cases hstep

/-- Every slot in the table has a user that may still take it out. -/
def Staffed (s : KeyLocks) : Prop :=
  ∀ key i, s.table.get? key = some i → 0 < s.count (staysOnSlot i)

/-- The users of a slot are those that may still look at its references and those that have. -/
theorem count_usesSlot (s : KeyLocks) (i : Nat) :
    s.count (usesSlot i) = s.count (staysOnSlot i) + s.count (leavesSlot i) := by
  refine s.count_eq_add fun u => ?_
  by_cases hslot : u.slot = i <;> by_cases hphase : u.phase = .leaving <;>
    simp [weight, usesSlot, staysOnSlot, leavesSlot, hslot, hphase]

namespace Staffed

theorem start (threads : Nat) : Staffed (start threads) := by
  intro key i h
  cases h

/-- What a thread uses is replaced. No slot loses somebody who may still look at it. -/
theorem setUse (h : Staffed s) (ht : t < s.threads.length) (f : KeySlot → KeySlot)
    {use : Option LockUse}
    (hstays : ∀ j, weight (staysOnSlot j) (s.use? t) ≤ weight (staysOnSlot j) use) :
    Staffed ((s.changeSlot i f).setUse t use) := by
  intro key j hj
  have hcount := count_change ht i f use (staysOnSlot j)
  have hpos := h key j hj
  have hle := hstays j
  omega

/-- A thread that stays with its slot goes on to another phase. -/
theorem turn (h : Staffed s) (hu : s.use? t = some u) (f : KeySlot → KeySlot) {phase : LockPhase}
    (hphase : phase ≠ .leaving) : Staffed ((s.changeSlot i f).setPhase t u phase) := by
  refine h.setUse (lt_of_use? hu) f fun j => ?_
  rw [hu]
  by_cases hslot : u.slot = j
  · simp only [weight, Option.any_some, staysOnSlot, hslot, beq_self_eq_true, Bool.true_and,
      bne_iff_ne.2 hphase, if_true]
    split <;> omega
  · simp [weight, staysOnSlot, hslot]

/-- Who asks for a key stays with its slot. -/
theorem enter (h : Staffed s) (key : String) (hidle : s.threads[t]? = some none) :
    Staffed (((s.findOrMake key).2.changeSlot (s.findOrMake key).1 refer).setUse t
      (some ⟨key, (s.findOrMake key).1, .awake⟩)) := by
  have ht : t < (s.findOrMake key).2.threads.length := by
    rw [threads_findOrMake]
    exact (List.getElem?_eq_some_iff.1 hidle).1
  have hnone : (s.findOrMake key).2.use? t = none := by
    rw [use?, threads_findOrMake, hidle]
    rfl
  intro key' j hj
  have hcount := count_change ht (s.findOrMake key).1 refer
    (some ⟨key, (s.findOrMake key).1, .awake⟩) (staysOnSlot j)
  rw [hnone, count_findOrMake] at hcount
  have hzero : weight (staysOnSlot j) none = 0 := rfl
  have hfound : (s.findOrMake key).2.table.get? key' = some j := hj
  rcases table_findOrMake hfound with rfl | hold
  · have hone : weight (staysOnSlot (s.findOrMake key).1)
        (some ⟨key, (s.findOrMake key).1, .awake⟩) = 1 := by
      simp [weight, staysOnSlot]
    omega
  · have hpos := h key' j hold
    omega

/-- A thread takes its slot out of the table unless it leaves somebody behind who will look at the
references after it. -/
theorem tidy (h : Staffed s) (hs : Sound s) (hu : s.use? t = some u) {slot : KeySlot}
    (hslot : s.slots[u.slot]? = some slot) (hphase : u.phase = .notified)
    (horderly : s.count (leavesSlot u.slot) = 0) :
    Staffed ((if slot.references = 2 then s.forget u.key else s).setPhase t u .leaving) := by
  have hkey : s.table.get? u.key = some u.slot := hs.found hu (by rw [hphase]; decide)
  obtain ⟨_, hslot', hrefs⟩ := hs.references hkey
  cases hslot.symm.trans hslot'
  have hcount : ∀ j, (s.setPhase t u .leaving).count (staysOnSlot j) +
      weight (staysOnSlot j) (some u) = s.count (staysOnSlot j) := by
    intro j
    have hset := count_setUse (lt_of_use? hu) (some { u with phase := .leaving }) (staysOnSlot j)
    have hzero : weight (staysOnSlot j) (some { u with phase := .leaving }) = 0 := by
      simp [weight, staysOnSlot]
    rw [hu, hzero] at hset
    exact hset
  have hother : ∀ {j}, u.slot ≠ j → weight (staysOnSlot j) (some u) = 0 := by
    intro j hne
    simp [weight, staysOnSlot, hne]
  split
  · rw [Sound.forget_eq hkey]
    intro key' j hj
    rw [show ((({ s with table := s.table.erase u.key } : KeyLocks).changeSlot u.slot
      unrefer).setPhase t u .leaving).table = s.table.erase u.key from rfl, KeyMap.get?_erase] at hj
    split at hj
    · cases hj
    · rename_i hne
      have hpos := h key' j hj
      have hsame := hcount j
      have hslot : u.slot ≠ j := by
        rintro rfl
        exact hne (hs.distinct hj hkey)
      rw [hother hslot] at hsame
      show 0 < (s.setPhase t u .leaving).count (staysOnSlot j)
      omega
  · rename_i hmore
    intro key' j hj
    have hpos := h key' j hj
    have hsame := hcount j
    by_cases hslot : u.slot = j
    · -- the references count this thread, the table and at least one more, who is not leaving
      subst hslot
      have husers := s.count_usesSlot u.slot
      have hone : weight (staysOnSlot u.slot) (some u) = 1 := by
        simp [weight, staysOnSlot, hphase]
      omega
    · rw [hother hslot] at hsame
      omega

/-- Every orderly step leaves slots in the table only where somebody will look at them. -/
theorem step (h : Staffed s) (hs : Sound s) {step : LockStep}
    (horderly : s.isOrderly t step = true) (hstep : StepOf s t step s') : Staffed s' := by
  cases hstep with
  | enter hidle => exact h.enter _ hidle
  | take hu => exact h.turn hu _ nofun
  | @sleep u _ hu => exact changeSlot_id s u.slot ▸ h.turn hu id nofun
  | @wake u hu => exact changeSlot_id s u.slot ▸ h.turn hu id nofun
  | release hu => exact h.turn hu _ nofun
  | @notifyNone u hu => exact changeSlot_id s u.slot ▸ h.turn hu id nofun
  | @notify u v sleeper hu hphase hv hslot hsleep =>
    have hne : t ≠ sleeper := by
      rintro rfl
      cases hu.symm.trans hv
      cases hphase.symm.trans hsleep
    have hwoken : Staffed (s.setPhase sleeper v .awake) :=
      changeSlot_id s v.slot ▸ h.turn hv id nofun
    have hu' : (s.setPhase sleeper v .awake).use? t = some u := by
      rw [use?_setPhase hv, if_neg hne, hu]
    exact changeSlot_id (s.setPhase sleeper v .awake) u.slot ▸ hwoken.turn hu' id nofun
  | tidy hu hslot hphase =>
    rw [isOrderly, hu, Option.all_some, beq_iff_eq] at horderly
    exact h.tidy hs hu hslot hphase horderly
  | leave hu hphase =>
    refine h.setUse (lt_of_use? hu) unrefer fun j => ?_
    rw [hu]
    simp [weight, staysOnSlot, hphase]

end Staffed

/-- **Slots of used keys only.** Among any number of threads whose steps are orderly, the table has
no slot for a key that nobody uses, and it is empty when nobody uses any key. -/
theorem no_slot_of_unused_key {threads : Nat} (h : IsOrderlyReachable threads s) :
    (∀ key, s.Unused key → s.table.get? key = none) ∧
      ((∀ t, s.use? t = none) → s.table = ∅) := by
  have hinv : Sound s ∧ Staffed s := by
    refine h.induction (P := fun s => Sound s ∧ Staffed s)
      ⟨Sound.start threads, Staffed.start threads⟩ ?_
    rintro r r' t step ⟨hsound, hstaffed⟩ horderly hstep
    have hstep := stepOf_of_step? hstep
    exact ⟨hsound.step hstep, hstaffed.step hsound horderly hstep⟩
  have hnone : ∀ key, s.Unused key → s.table.get? key = none := by
    intro key hunused
    refine Option.eq_none_iff_forall_ne_some.2 fun i hkey => ?_
    obtain ⟨t, u, hu, hstays⟩ := exists_of_count_pos (hinv.2 key i hkey)
    rw [staysOnSlot, Bool.and_eq_true, beq_iff_eq] at hstays
    exact hunused t u hu (hinv.1.keyed hu (hstays.1.symm ▸ hkey))
  refine ⟨hnone, fun hidle => KeyMap.ext_get? fun key => hnone key fun t u hu => ?_⟩
  rw [hidle] at hu
  cases hu

/-- Two threads use a key one after the other, and the first one gives up its reference in time. -/
def inTurn : List (Nat × LockStep) :=
  [(0, .enter "a"), (0, .take), (1, .enter "a"), (1, .sleep), (0, .release), (0, .notify (some 1)),
    (0, .tidy), (1, .take), (1, .release), (1, .notify none), (0, .leave), (1, .tidy), (1, .leave)]

/-- The second thread takes the slot out of the table. -/
theorem no_slot_after_turns :
    let s : KeyLocks := { table := ∅, slots := [⟨false, 0⟩], threads := [none, none] }
    (start 2).runOrderly? inTurn = some s ∧ (∀ key, s.Unused key → s.table.get? key = none) ∧
      ((∀ t, s.use? t = none) → s.table = ∅) := by
  intro s
  have hrun : (start 2).runOrderly? inTurn = some s := by rfl
  exact ⟨hrun, no_slot_of_unused_key ⟨inTurn, hrun⟩⟩

end KeyLocks

end KeyedState

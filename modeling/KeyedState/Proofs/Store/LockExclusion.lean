import KeyedState.Proofs.Store.LockStep

/-!
# One holder of each key

Whatever steps threads take with the locks of keys, at most one thread holds a key, and all threads
that wait for the key or hold it refer to one slot, the one that the table has for the key
(`KeyLocks.OneHolder`).

The invariant is `KeyLocks.Sound`. A slot in the table has as many references as it has users, and
one from the table. So a thread that looks at the references of its slot and finds two is the only
user of the slot, and when it takes the slot out of the table it leaves nobody behind who waits.
-/

namespace KeyedState

namespace KeyLocks

variable {s s' : KeyLocks} {t : Nat} {u : LockUse} {key : String} {i : Nat}

/-- Whether a thread uses a slot. -/
def usesSlot (i : Nat) (u : LockUse) : Bool := u.slot == i

/-- Whether a thread holds a slot. -/
def holdsSlot (i : Nat) (u : LockUse) : Bool := u.slot == i && u.phase == .holding

/-- What holds of the locks of keys after every step. -/
structure Sound (s : KeyLocks) : Prop where
  /-- A slot in the table is referred to by the table and by each thread that uses it. -/
  references : ∀ {key i}, s.table.get? key = some i →
    ∃ slot, s.slots[i]? = some slot ∧ slot.references = s.count (usesSlot i) + 1
  /-- A slot is in the table for one key. -/
  distinct : ∀ {key key' i}, s.table.get? key = some i → s.table.get? key' = some i → key = key'
  /-- A slot is marked as held exactly while one thread holds it. -/
  held : ∀ {i slot}, s.slots[i]? = some slot → s.count (holdsSlot i) = slot.held.toNat
  /-- A thread uses a slot that has been made. -/
  made : ∀ {t u}, s.use? t = some u → u.slot < s.slots.length
  /-- The slot of a thread that may still look at the table is the one that the table has. -/
  found : ∀ {t u}, s.use? t = some u → u.phase ≠ .leaving → s.table.get? u.key = some u.slot
  /-- The slot of a thread is in the table for no other key. -/
  keyed : ∀ {t u key}, s.use? t = some u → s.table.get? key = some u.slot → u.key = key

namespace Sound

theorem start (threads : Nat) : Sound (start threads) where
  references h := by cases h
  distinct h := by cases h
  held h := by cases h
  made h := by
    have := List.eq_of_mem_replicate (List.mem_of_getElem? (getElem?_of_use? h))
    cases this
  found h := by
    have := List.eq_of_mem_replicate (List.mem_of_getElem? (getElem?_of_use? h))
    cases this
  keyed _ h := by cases h

/-! ## Changes of the table -/

/-- Nobody uses a slot that has not been made. -/
theorem count_eq_zero (h : Sound s) {kind : LockUse → Bool}
    (hkind : ∀ u, kind u = true → s.slots.length ≤ u.slot) : s.count kind = 0 := by
  refine Nat.eq_zero_of_not_pos fun hpos => ?_
  obtain ⟨t, u, hu, hk⟩ := exists_of_count_pos hpos
  exact Nat.not_lt.2 (hkind u hk) (h.made hu)

/-- A new slot is free, and is referred to by the table alone. -/
theorem findOrMake (h : Sound s) (key : String) :
    Sound (s.findOrMake key).2 ∧
      (s.findOrMake key).2.table.get? key = some (s.findOrMake key).1 := by
  unfold KeyLocks.findOrMake
  rcases hkey : s.table.get? key with _ | i
  · refine ⟨⟨?_, ?_, ?_, ?_, ?_, ?_⟩, ?_⟩
    · intro key' i hi
      rw [KeyMap.get?_insert] at hi
      split at hi
      · cases hi
        refine ⟨{}, List.getElem?_concat_length, ?_⟩
        have hnone : s.count (usesSlot s.slots.length) = 0 :=
          h.count_eq_zero fun u hu => Nat.le_of_eq (beq_iff_eq.1 hu).symm
        exact congrArg (· + 1) hnone.symm
      · obtain ⟨slot, hslot, href⟩ := h.references hi
        have hlt := (List.getElem?_eq_some_iff.1 hslot).1
        exact ⟨slot, (List.getElem?_append_left hlt).trans hslot, href⟩
    · have hnew : ∀ {key'}, s.table.get? key' ≠ some s.slots.length := by
        intro key' hi
        obtain ⟨slot, hslot, -⟩ := h.references hi
        exact Nat.lt_irrefl _ (List.getElem?_eq_some_iff.1 hslot).1
      intro key₁ key₂ i h₁ h₂
      rw [KeyMap.get?_insert] at h₁ h₂
      split at h₁ <;> split at h₂
      · rename_i hk₁ hk₂
        rw [hk₁, hk₂]
      · cases h₁
        exact absurd h₂ hnew
      · cases h₂
        exact absurd h₁ hnew
      · exact h.distinct h₁ h₂
    · intro i slot hslot
      rw [List.getElem?_append] at hslot
      split at hslot
      · exact h.held hslot
      · rename_i hi
        have hslot' := List.mem_singleton.1 (List.mem_of_getElem? hslot)
        rw [hslot']
        refine h.count_eq_zero fun u hu => ?_
        rw [holdsSlot, Bool.and_eq_true, beq_iff_eq] at hu
        rw [hu.1]
        exact Nat.not_lt.1 hi
    · intro t u hu
      rw [List.length_append]
      exact Nat.lt_add_right _ (h.made hu)
    · intro t u hu hphase
      have hfound := h.found hu hphase
      rw [KeyMap.get?_insert, if_neg]
      · exact hfound
      · intro hk
        rw [hk, hkey] at hfound
        cases hfound
    · intro t u key' hu hkey'
      rw [KeyMap.get?_insert] at hkey'
      split at hkey'
      · exact absurd (Option.some.inj hkey').symm (Nat.ne_of_lt (h.made hu))
      · exact h.keyed hu hkey'
    · rw [KeyMap.get?_insert, if_pos rfl]
  · exact ⟨h, hkey⟩

theorem forget_eq (hkey : s.table.get? key = some i) :
    s.forget key = { s with table := s.table.erase key }.changeSlot i unrefer := by
  unfold forget
  rw [hkey]

/-- A slot may be taken out of the table when all its users have looked at the table. -/
theorem forget (h : Sound s) (hkey : s.table.get? key = some i)
    (hunused : ∀ {t u}, s.use? t = some u → u.slot = i → u.phase = .leaving) :
    Sound (s.forget key) := by
  rw [forget_eq hkey]
  have hkept : ∀ {key' j}, (s.table.erase key).get? key' = some j →
      s.table.get? key' = some j ∧ i ≠ j := by
    intro key' j hj
    rw [KeyMap.get?_erase] at hj
    split at hj
    · cases hj
    · rename_i hne
      refine ⟨hj, ?_⟩
      rintro rfl
      exact hne (h.distinct hj hkey)
  refine ⟨?_, ?_, ?_, ?_, ?_, ?_⟩
  · intro key' j hj
    obtain ⟨hj, hne⟩ := hkept hj
    obtain ⟨slot, hslot, hrefs⟩ := h.references hj
    rw [slots_changeSlot, hslot]
    exact ⟨_, rfl, (congrArg KeySlot.references (if_neg hne)).trans hrefs⟩
  · intro key₁ key₂ j h₁ h₂
    exact h.distinct (hkept h₁).1 (hkept h₂).1
  · intro j slot hslot
    rw [slots_changeSlot] at hslot
    obtain ⟨old, hold, rfl⟩ := Option.map_eq_some_iff.1 hslot
    have hmark : (changed i j unrefer old).held = old.held := by
      unfold changed
      split
      · rfl
      · rfl
    rw [hmark]
    exact h.held hold
  · intro t u hu
    show u.slot < (s.slots.modify i unrefer).length
    rw [List.length_modify]
    exact h.made hu
  · intro t u hu hphase
    have hfound := h.found hu hphase
    show (s.table.erase key).get? u.key = _
    rw [KeyMap.get?_erase, if_neg, hfound]
    intro hk
    rw [hk, hkey] at hfound
    exact hphase (hunused hu (Option.some.inj hfound).symm)
  · intro t u key' hu hkey'
    exact h.keyed hu (hkept hkey').1

/-! ## Changes of what a thread uses -/

/-- What one thread uses is replaced and a slot is changed. The references and the mark of every
slot must change with the number of its users and of its holders. -/
theorem setUse (h : Sound s) (ht : t < s.threads.length) {f : KeySlot → KeySlot}
    {use : Option LockUse}
    (hrefs : ∀ {j slot}, s.slots[j]? = some slot → slot.references = s.count (usesSlot j) + 1 →
      (changed i j f slot).references + weight (usesSlot j) (s.use? t) =
        slot.references + weight (usesSlot j) use)
    (hheld : ∀ {j slot}, s.slots[j]? = some slot →
      (changed i j f slot).held.toNat + weight (holdsSlot j) (s.use? t) =
        slot.held.toNat + weight (holdsSlot j) use)
    (hmade : ∀ {u}, use = some u → u.slot < s.slots.length)
    (hfound : ∀ {u}, use = some u → u.phase ≠ .leaving → s.table.get? u.key = some u.slot)
    (hkeyed : ∀ {u key}, use = some u → s.table.get? key = some u.slot → u.key = key) :
    Sound ((s.changeSlot i f).setUse t use) := by
  have huse : ∀ {t' u'}, ((s.changeSlot i f).setUse t use).use? t' = some u' →
      use = some u' ∨ s.use? t' = some u' := by
    intro t' u' hu'
    rw [use?_change ht] at hu'
    split at hu'
    · exact .inl hu'
    · exact .inr hu'
  refine ⟨?_, h.distinct, ?_, ?_, ?_, ?_⟩
  · intro key j hj
    obtain ⟨slot, hslot, hold⟩ := h.references hj
    have hnew := hrefs hslot hold
    have husers := count_change ht i f use (usesSlot j)
    refine ⟨changed i j f slot, ?_, by omega⟩
    show (s.changeSlot i f).slots[j]? = _
    rw [slots_changeSlot, hslot]
    rfl
  · intro j slot hslot
    have hslot' : (s.changeSlot i f).slots[j]? = some slot := hslot
    rw [slots_changeSlot] at hslot'
    obtain ⟨old, hold, rfl⟩ := Option.map_eq_some_iff.1 hslot'
    have hmark := h.held hold
    have hnew := hheld hold
    have hholders := count_change ht i f use (holdsSlot j)
    omega
  · intro t' u' hu'
    show u'.slot < (s.slots.modify i f).length
    rw [List.length_modify]
    rcases huse hu' with hu' | hu'
    · exact hmade hu'
    · exact h.made hu'
  · intro t' u' hu' hphase
    rcases huse hu' with hu' | hu'
    · exact hfound hu' hphase
    · exact h.found hu' hphase
  · intro t' u' key hu' hkey
    rcases huse hu' with hu' | hu'
    · exact hkeyed hu' hkey
    · exact h.keyed hu' hkey

/-- A thread that begins to use the slot of a key refers to it. -/
theorem enter (h : Sound s) (hkey : s.table.get? key = some i) (hidle : s.threads[t]? = some none) :
    Sound ((s.changeSlot i refer).setUse t (some ⟨key, i, .awake⟩)) := by
  have hnone : s.use? t = none := by
    rw [use?, hidle]
    rfl
  refine h.setUse (List.getElem?_eq_some_iff.1 hidle).1 ?_ ?_ ?_ ?_ ?_
  · intro j slot _ _
    rw [hnone]
    by_cases hj : i = j
    · simp [changed, weight, usesSlot, hj, refer]
    · simp [changed, weight, usesSlot, hj]
  · intro j slot _
    rw [hnone]
    by_cases hj : i = j
    · simp [changed, weight, holdsSlot, hj, refer]
    · simp [changed, weight, holdsSlot, hj]
  · rintro u ⟨⟩
    obtain ⟨slot, hslot, -⟩ := h.references hkey
    exact (List.getElem?_eq_some_iff.1 hslot).1
  · rintro u ⟨⟩ _
    exact hkey
  · rintro u key' ⟨⟩ hkey'
    exact h.distinct hkey hkey'

/-- A thread goes on to another phase. What it does to its slot changes no reference, and marks the
slot as held exactly if the thread holds it from then on. -/
theorem setPhase (h : Sound s) (hu : s.use? t = some u) {phase : LockPhase}
    {f : KeySlot → KeySlot} (hrefs : ∀ slot, (f slot).references = slot.references)
    (hheld : ∀ slot, s.slots[u.slot]? = some slot →
      (f slot).held.toNat + (if u.phase = .holding then 1 else 0) =
        slot.held.toNat + if phase = .holding then 1 else 0)
    (hleaving : u.phase = .leaving → phase = .leaving) :
    Sound ((s.changeSlot u.slot f).setPhase t u phase) := by
  refine h.setUse (lt_of_use? hu) ?_ ?_ ?_ ?_ ?_
  · intro j slot _ _
    rw [hu]
    by_cases hj : u.slot = j
    · simp [changed, weight, usesSlot, hj, hrefs]
    · simp [changed, weight, usesSlot, hj]
  · intro j slot hslot
    rw [hu]
    by_cases hj : u.slot = j
    · subst hj
      simpa [changed, weight, holdsSlot] using hheld slot hslot
    · simp [changed, weight, holdsSlot, hj]
  · rintro u' ⟨⟩
    exact h.made (u := u) hu
  · rintro u' ⟨⟩ hphase
    exact h.found (u := u) hu fun hl => hphase (hleaving hl)
  · rintro u' key ⟨⟩ hkey
    exact h.keyed (u := u) hu hkey

/-- A thread that gives up its reference uses the slot no more. -/
theorem leave (h : Sound s) (hu : s.use? t = some u) (hphase : u.phase = .leaving) :
    Sound ((s.changeSlot u.slot unrefer).setUse t none) := by
  refine h.setUse (lt_of_use? hu) ?_ ?_ ?_ ?_ ?_
  · intro j slot _ hcount
    rw [hu]
    by_cases hj : u.slot = j
    · simp only [changed, weight, usesSlot, hj, unrefer, if_true, Option.any_some, Option.any_none,
        beq_self_eq_true, Bool.false_eq_true, if_false]
      omega
    · simp [changed, weight, usesSlot, hj]
  · intro j slot _
    rw [hu]
    by_cases hj : u.slot = j
    · simp [changed, weight, holdsSlot, hj, unrefer, hphase]
    · simp [changed, weight, holdsSlot, hj]
  · intro u' hu'
    cases hu'
  · intro u' hu'
    cases hu'
  · intro u' key hu'
    cases hu'

/-- A thread goes on to another phase and touches no slot. -/
theorem turn (h : Sound s) (hu : s.use? t = some u) {phase : LockPhase}
    (hholding : u.phase = .holding ↔ phase = .holding)
    (hleaving : u.phase = .leaving → phase = .leaving) : Sound (s.setPhase t u phase) := by
  have hid := h.setPhase (f := id) hu (fun _ => rfl) (fun slot _ => by simp only [hholding, id])
    hleaving
  rw [changeSlot_id] at hid
  exact hid

/-- A thread that finds two references to its slot is alone with the table, and may take the slot
out of it. -/
theorem tidy (h : Sound s) (hu : s.use? t = some u) {slot : KeySlot}
    (hslot : s.slots[u.slot]? = some slot) (hphase : u.phase = .notified) :
    Sound ((if slot.references = 2 then s.forget u.key else s).setPhase t u .leaving) := by
  have hleft : Sound (s.setPhase t u .leaving) :=
    h.turn hu (by rw [hphase]; decide) fun _ => rfl
  split
  · rename_i htwo
    have hkey : s.table.get? u.key = some u.slot := h.found hu (by rw [hphase]; decide)
    obtain ⟨_, hslot', hrefs⟩ := h.references hkey
    cases hslot.symm.trans hslot'
    have halone : s.count (usesSlot u.slot) ≤ 1 := by omega
    have hforget := hleft.forget (show (s.setPhase t u .leaving).table.get? u.key = _ from hkey)
      fun {t' u'} hu' hsame => by
        rw [use?_setPhase hu] at hu'
        split at hu'
        · cases hu'
          rfl
        · rename_i hne
          refine absurd ?_ hne
          exact eq_of_count_le_one halone hu (beq_iff_eq.2 rfl) hu' (beq_iff_eq.2 hsame)
    rw [forget_eq (show (s.setPhase t u .leaving).table.get? u.key = _ from hkey)] at hforget
    rw [forget_eq hkey]
    exact hforget
  · exact hleft

/-- Every step keeps the locks sound. -/
theorem step (h : Sound s) {step : LockStep} (hstep : StepOf s t step s') : Sound s' := by
  cases hstep with
  | enter hidle =>
    obtain ⟨hmade, hkey⟩ := h.findOrMake _
    exact hmade.enter hkey ((threads_findOrMake s _).symm ▸ hidle)
  | @take u slot hu hslot hphase hfree =>
    refine h.setPhase hu (fun _ => rfl) (fun slot' hslot' => ?_) ?_
    · cases hslot.symm.trans hslot'
      simp [hphase, hfree]
    · simp [hphase]
  | sleep hu hslot hphase hheld => exact h.turn hu (by simp [hphase]) (by simp [hphase])
  | wake hu hphase => exact h.turn hu (by simp [hphase]) (by simp [hphase])
  | @release u hu hphase =>
    refine h.setPhase hu (fun _ => rfl) (fun slot hslot => ?_) ?_
    · have hholds : holdsSlot u.slot u = true := by simp [holdsSlot, hphase]
      have hpos := count_pos hu hholds
      rw [h.held hslot] at hpos
      have hmarked : slot.held = true := eq_true_of_ne_false fun hfree => by
        rw [hfree] at hpos
        cases hpos
      simp [hphase, hmarked]
    · simp [hphase]
  | notifyNone hu hphase hnone => exact h.turn hu (by simp [hphase]) (by simp [hphase])
  | @notify u v sleeper hu hphase hv hslot hsleep =>
    have hne : t ≠ sleeper := by
      rintro rfl
      cases hu.symm.trans hv
      cases hphase.symm.trans hsleep
    have hwoken : Sound (s.setPhase sleeper v .awake) :=
      h.turn hv (by simp [hsleep]) (by simp [hsleep])
    refine hwoken.turn ?_ (by simp [hphase]) (by simp [hphase])
    rw [use?_setPhase hv, if_neg hne, hu]
  | tidy hu hslot hphase => exact h.tidy hu hslot hphase
  | leave hu hphase => exact h.leave hu hphase

theorem of_isReachable {threads : Nat} (h : IsReachable threads s) : Sound s :=
  h.induction (start threads) fun _ _ _ _ hs hstep => hs.step (stepOf_of_step? hstep)

end Sound

/-- At most one thread holds each key, and all threads that wait for a key or hold it refer to one
slot. A thread waits for its key or holds it in all phases but the last ones; it is no holder any
more, but still refers to that slot, until it has looked at the references. -/
structure OneHolder (s : KeyLocks) : Prop where
  /-- Two threads that hold a key are one thread. -/
  single : ∀ {t t' u u'}, s.use? t = some u → s.use? t' = some u' → u.key = u'.key →
    u.phase = .holding → u'.phase = .holding → t = t'
  /-- The slot of a thread that is not leaving is that which the table has for its key. -/
  inTable : ∀ {t u}, s.use? t = some u → u.phase ≠ .leaving → s.table.get? u.key = some u.slot
  /-- Two threads that are not leaving and have one key have one slot. -/
  same : ∀ {t t' u u'}, s.use? t = some u → s.use? t' = some u' → u.key = u'.key →
    u.phase ≠ .leaving → u'.phase ≠ .leaving → u.slot = u'.slot

theorem Sound.oneHolder (h : Sound s) : OneHolder s := by
  have hsame : ∀ {t t' u u'}, s.use? t = some u → s.use? t' = some u' → u.key = u'.key →
      u.phase ≠ .leaving → u'.phase ≠ .leaving → u.slot = u'.slot := by
    intro t t' u u' hu hu' hkey hphase hphase'
    have hslot := h.found hu hphase
    rw [hkey, h.found hu' hphase'] at hslot
    exact (Option.some.inj hslot).symm
  refine ⟨?_, h.found, hsame⟩
  intro t t' u u' hu hu' hkey hphase hphase'
  have hslot : u'.slot = u.slot :=
    (hsame hu hu' hkey (by rw [hphase]; decide) (by rw [hphase']; decide)).symm
  have hone : s.count (holdsSlot u.slot) ≤ 1 := by
    rw [h.held (List.getElem?_eq_getElem (h.made hu))]
    exact Bool.toNat_le _
  have hholds : ∀ v : LockUse, v.slot = u.slot → v.phase = .holding →
      holdsSlot u.slot v = true := by
    intro v hv hp
    rw [holdsSlot, hv, hp]
    exact Bool.and_eq_true_iff.2 ⟨beq_iff_eq.2 rfl, rfl⟩
  exact (eq_of_count_le_one hone hu (hholds u rfl hphase) hu' (hholds u' hslot hphase')).symm

/-- **One holder of each key.** Among any number of threads, whatever keys they ask for and however
their steps interleave, at most one thread at a time holds a key, and all that wait for it or hold
it refer to the slot that the table has for it. -/
theorem one_holder_of_each_key {threads : Nat} (h : IsReachable threads s) : OneHolder s :=
  (Sound.of_isReachable h).oneHolder

/-- A key is asked for again before the thread that used it last has given up its reference. -/
def askedAgain : List (Nat × LockStep) :=
  [(0, .enter "a"), (0, .take), (0, .release), (0, .notify none), (0, .tidy), (1, .enter "a"),
    (1, .take), (2, .enter "a"), (2, .sleep)]

/-- The first thread still refers to a slot that the table has no more. The two that use the key now
have another slot in common, and one of them holds it. -/
theorem one_holder_of_key_asked_again :
    let s : KeyLocks :=
      { table := .ofList [("a", 1)], slots := [⟨false, 1⟩, ⟨true, 3⟩],
        threads := [some ⟨"a", 0, .leaving⟩, some ⟨"a", 1, .holding⟩, some ⟨"a", 1, .asleep⟩] }
    (start 3).run? askedAgain = some s ∧ OneHolder s := by
  intro s
  have hrun : (start 3).run? askedAgain = some s := by rfl
  exact ⟨hrun, one_holder_of_each_key ⟨askedAgain, hrun⟩⟩

end KeyLocks

end KeyedState

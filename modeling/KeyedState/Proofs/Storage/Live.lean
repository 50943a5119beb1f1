import KeyedState.Storage.Memory

/-!
# Live slots

What each operation of a store in memory does to its slots, and to the live ones among them. A
value is visible exactly while its slot is live (`get?_eq_live`), and a slot that is dead stays
dead as long as the clock does not move back (`live_get?_move`).
-/

namespace KeyedState

namespace Instant

/-- An instant before which another one comes is also after all that the other is after. -/
theorem before_of_le_of_before {i j k : Instant} (h : j.before i = false)
    (hk : j.before k = true) : i.before k = true := by
  simp only [before, Bool.or_eq_false_iff, Bool.and_eq_false_iff, decide_eq_false_iff_not,
    beq_eq_false_iff_ne, Bool.or_eq_true, Bool.and_eq_true, decide_eq_true_eq, beq_iff_eq] at *
  omega

/-- What lies a positive duration ahead is later, also within a leap second. -/
theorem before_of_add? {i j : Instant} {d : Duration} (hd : 0 < d.nanos) (h : i.add? d = some j) :
    i.before j = true := by
  rw [add?] at h
  split at h
  · cases h
  split at h
  · rw [of?] at h
    split at h
    · cases h
      simp [before, hd]
    · cases h
  · rename_i hlasts
    obtain ⟨hj, htotal⟩ := ofTotal?_eq_some_iff.1 h
    have hi := i.nanos_lt
    simp only [lasts, isLeap, Bool.and_eq_true, decide_eq_true_eq, not_and, Nat.not_lt,
      decide_eq_false_iff_not] at hlasts hj
    simp only [total] at htotal
    simp only [before, Bool.or_eq_true, Bool.and_eq_true, decide_eq_true_eq, beq_iff_eq]
    omega

end Instant

/-- A slot that is live is live at all earlier times. -/
theorem Slot.isLive_of_le {α : Type} {slot : Slot α} {now later : Instant}
    (h : later.before now = false) (hlive : slot.isLive later = true) : slot.isLive now = true := by
  unfold Slot.isLive at *
  cases hd : slot.deadline with
  | none => rfl
  | some deadline =>
    rw [hd] at hlive
    exact Instant.before_of_le_of_before h hlive

/-- Of slots that are live by a later clock none is dead by an earlier one. -/
theorem Slot.filter_filter_isLive {α : Type} {now later : Instant} (h : later.before now = false)
    (slot : Option (Slot α)) :
    (slot.filter (Slot.isLive now)).filter (Slot.isLive later) =
      slot.filter (Slot.isLive later) := by
  rw [Option.filter_filter]
  congr 1
  funext slot
  rw [Bool.and_eq_right_iff_imp]
  exact Slot.isLive_of_le h

namespace MemoryStore

variable {α : Type} (s : MemoryStore α)

/-- The store with a slot for a key, in place of what was there. -/
def setSlot (key : String) (slot : Slot α) : MemoryStore α :=
  { s with slots := s.slots.insert key slot }

/-- The store without slots for some keys. -/
def removeAll (keys : List String) : MemoryStore α := keys.foldl remove s

theorem removeAll_singleton (key : String) : s.removeAll [key] = s.remove key := rfl

theorem put_eq (key : String) (value : α) (ttl : Option Duration) :
    s.put key value ttl =
      (deadline? s.now ttl).map fun deadline => s.setSlot key ⟨value, deadline⟩ :=
  rfl

/-- The deadline of what is stored now is as far from now as its time to live is long. -/
theorem deadline?_eq_ok {now : Instant} {ttl : Option Duration} {deadline : Option Instant}
    (h : deadline? now ttl = .ok deadline) : deadline = ttl.bind now.add? := by
  unfold deadline? at h
  cases ttl with
  | none => exact (Except.ok.inj h).symm
  | some d =>
    cases hd : now.add? d with
    | none => simp only [hd, reduceCtorEq] at h
    | some i =>
      simp only [hd, Except.ok.injEq] at h
      rw [← h, Option.bind_some, hd]

/-! ## All slots -/

/-- Stores that show the same time and have the same slots are the same. -/
theorem ext_slots {s s' : MemoryStore α} (hnow : s.now = s'.now)
    (h : ∀ key, s.slots.get? key = s'.slots.get? key) : s = s' := by
  obtain ⟨slots, now⟩ := s
  obtain ⟨slots', now'⟩ := s'
  cases hnow
  cases (KeyMap.ext_get? h : slots = slots')
  rfl

@[simp] theorem now_setSlot (key : String) (slot : Slot α) : (s.setSlot key slot).now = s.now := rfl

@[simp] theorem now_remove (key : String) : (s.remove key).now = s.now := rfl

@[simp] theorem slots_get?_setSlot (key key' : String) (slot : Slot α) :
    (s.setSlot key slot).slots.get? key' = if key' = key then some slot else s.slots.get? key' :=
  KeyMap.get?_insert ..

/-- Of two slots for a key the second one stays. -/
theorem setSlot_setSlot (key : String) (slot slot' : Slot α) :
    (s.setSlot key slot).setSlot key slot' = s.setSlot key slot' := by
  unfold setSlot
  congr 1
  refine KeyMap.ext_get? fun key' => ?_
  simp only [KeyMap.get?_insert]
  split
  · rfl
  · rfl

@[simp] theorem slots_get?_remove (key key' : String) :
    (s.remove key).slots.get? key' = if key' = key then none else s.slots.get? key' :=
  KeyMap.get?_erase ..

@[simp] theorem now_removeAll (keys : List String) : (s.removeAll keys).now = s.now := by
  induction keys generalizing s with
  | nil => rfl
  | cons key keys ih => exact ih (s.remove key)

theorem slots_get?_removeAll (keys : List String) (key : String) :
    (s.removeAll keys).slots.get? key = if key ∈ keys then none else s.slots.get? key := by
  induction keys generalizing s with
  | nil => simp [removeAll]
  | cons k keys ih =>
    have h := ih (s.remove k)
    rw [slots_get?_remove] at h
    by_cases hk : key = k
    · subst hk
      rw [if_pos List.mem_cons_self]
      exact h.trans (by rw [if_pos rfl, ite_self])
    · rw [if_neg hk] at h
      simp only [List.mem_cons, hk, false_or]
      exact h

/-! ## Live slots -/

theorem live_get? (key : String) :
    s.live.get? key = (s.slots.get? key).filter (Slot.isLive s.now) :=
  KeyMap.get?_filter ..

/-- The visible values are those of the live slots. -/
theorem get?_eq_live (key : String) : s.get? key = (s.live.get? key).map Slot.value := by
  rw [live_get?, get?]

theorem live_get?_setSlot (key key' : String) (slot : Slot α) :
    (s.setSlot key slot).live.get? key' =
      if key' = key then (some slot).filter (Slot.isLive s.now) else s.live.get? key' := by
  rw [live_get?, slots_get?_setSlot, live_get?, now_setSlot]
  split <;> rfl

/-- A value that is put with a time to live that is positive is visible. -/
theorem get?_setSlot_of_positive (key : String) (value : α) {ttl : Option Duration}
    (h : ∀ d, ttl = some d → 0 < d.nanos) :
    (s.setSlot key ⟨value, ttl.bind s.now.add?⟩).get? key = some value := by
  have hlive : Slot.isLive s.now ⟨value, ttl.bind s.now.add?⟩ = true := by
    rw [Slot.isLive, Option.all_eq_true]
    intro deadline hdeadline
    obtain ⟨d, hd, hadd⟩ := Option.bind_eq_some_iff.1 hdeadline
    exact Instant.before_of_add? (h d hd) hadd
  simp [get?_eq_live, live_get?_setSlot, hlive, Option.filter]

theorem live_get?_removeAll (keys : List String) (key : String) :
    (s.removeAll keys).live.get? key = if key ∈ keys then none else s.live.get? key := by
  rw [live_get?, slots_get?_removeAll, live_get?, now_removeAll]
  split <;> rfl

/-- Removing the listed keys that a test accepts. -/
theorem live_get?_removeAll_filter (accepts : String → Bool) (key : String) :
    (s.removeAll (s.keys.filter accepts)).live.get? key =
      if accepts key then none else s.live.get? key := by
  rw [live_get?_removeAll]
  by_cases haccepts : accepts key = true
  · rw [if_pos haccepts]
    split
    · rfl
    · -- a key that is accepted and not removed is not listed, so nothing is live there
      rename_i hmem
      have hkey : key ∉ s.keys := fun hk => hmem (List.mem_filter.2 ⟨hk, haccepts⟩)
      rw [mem_keys_iff, get?_eq_live, Option.isSome_map, Option.not_isSome_iff_eq_none] at hkey
      exact hkey
  · rw [if_neg haccepts, if_neg fun hmem => haccepts (List.mem_filter.1 hmem).2]

theorem live_get?_remove (key key' : String) :
    (s.remove key).live.get? key' = if key' = key then none else s.live.get? key' := by
  have h := s.live_get?_removeAll [key] key'
  simp only [List.mem_singleton] at h
  exact h

/-- A purge drops no live slot. -/
theorem live_get?_purge (key : String) : s.purge.1.live.get? key = s.live.get? key := by
  have h : s.purge.1.live.get? key = (s.live.get? key).filter (Slot.isLive s.now) :=
    KeyMap.get?_filter ..
  rw [h, live_get?, Option.filter_filter]
  simp only [Bool.and_self]

/-- A move of the clock that is not back drops live slots and adds none. -/
theorem live_get?_move {m : ClockMove} (h : (m.apply s.now).before s.now = false) (key : String) :
    (s.move m).live.get? key = (s.live.get? key).filter (Slot.isLive (m.apply s.now)) := by
  have hm : (s.move m).live.get? key = (s.slots.get? key).filter (Slot.isLive (m.apply s.now)) :=
    live_get? ..
  rw [hm, live_get?, Slot.filter_filter_isLive h]

end MemoryStore

end KeyedState

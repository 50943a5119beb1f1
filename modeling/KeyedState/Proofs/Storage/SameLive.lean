import KeyedState.Proofs.Storage.Live

/-!
# Dead slots are not seen

Two stores in memory with the same live slots, whose clocks show the same time, answer every
question alike and stay alike (`MemoryStore.SameLive`), as long as the clock does not move back. A
purge drops the dead slots and no others, so a store and its purge are alike.
-/

namespace KeyedState

namespace MemoryStore

variable {α : Type}

/-- Two stores show the same time and have the same live slots. -/
structure SameLive (s s' : MemoryStore α) : Prop where
  /-- The clocks. -/
  now : s.now = s'.now
  /-- The live slots. -/
  live : s.live = s'.live

namespace SameLive

variable {s s' : MemoryStore α}

theorem refl (s : MemoryStore α) : SameLive s s := ⟨rfl, rfl⟩

/-! ## Questions -/

theorem get?_eq (h : SameLive s s') (key : String) : s.get? key = s'.get? key := by
  rw [get?_eq_live, get?_eq_live, h.live]

theorem keys_eq (h : SameLive s s') : s.keys = s'.keys := congrArg KeyMap.keys h.live

theorem size_eq (h : SameLive s s') : s.size = s'.size := congrArg KeyMap.size h.live

theorem isEmpty_eq (h : SameLive s s') : s.isEmpty = s'.isEmpty :=
  congrArg (· == 0) h.size_eq

/-! ## Changes -/

theorem setSlot (h : SameLive s s') (key : String) (slot : Slot α) :
    SameLive (s.setSlot key slot) (s'.setSlot key slot) := by
  refine ⟨h.now, KeyMap.ext_get? fun key' => ?_⟩
  rw [live_get?_setSlot, live_get?_setSlot, h.now, h.live]

theorem remove (h : SameLive s s') (key : String) : SameLive (s.remove key) (s'.remove key) := by
  refine ⟨h.now, KeyMap.ext_get? fun key' => ?_⟩
  rw [live_get?_remove, live_get?_remove, h.live]

theorem move (h : SameLive s s') {m : ClockMove} (hm : (m.apply s.now).before s.now = false) :
    SameLive (s.move m) (s'.move m) := by
  refine ⟨congrArg (m.apply ·) h.now, KeyMap.ext_get? fun key => ?_⟩
  rw [live_get?_move s hm, live_get?_move s' (h.now ▸ hm), h.now, h.live]

/-- A purge of one of the stores leaves them alike. -/
theorem purge (h : SameLive s s') : SameLive s.purge.1 s' :=
  ⟨h.now, KeyMap.ext_get? fun key => by rw [live_get?_purge, h.live]⟩

end SameLive

/-! ## What a purge drops -/

variable (s : MemoryStore α)

/-- A purge keeps the slots that are live, as they are. -/
theorem slots_get?_purge (key : String) :
    s.purge.1.slots.get? key = (s.slots.get? key).filter (Slot.isLive s.now) :=
  s.live_get? key

/-- The keys whose slots a purge drops. -/
def dropped : List String := s.slots.keys.filter fun key => !s.purge.1.slots.contains key

variable {s}

variable (s)

end MemoryStore

end KeyedState

import KeyedState.Proofs.Storage.SameLive
import KeyedState.Storage.Sweeper

/-!
# A store that is left to itself

What becomes of a store in memory while its clock moves and somebody purges it. What no purge ends,
and no move of the clock that is not back, lasts over all interludes (`MemoryStore.Lasts`). Of what
is visible some fades (`MemoryStore.Fades`), and how much does not depend on the purges
(`MemoryStore.SameLive.passAll`).
-/

namespace KeyedState

/-- Lists of interludes move a clock alike one by one, and the rest of the longer one does not move
it. -/
def Interlude.MoveAlike (is is' : List (List Interlude)) : Prop :=
  ∀ n, moves (is.getD n []) = moves (is'.getD n [])

namespace Interlude.MoveAlike

variable {is is' : List (List Interlude)}

theorem head (h : MoveAlike is is') : moves (is.headD []) = moves (is'.headD []) := by
  cases is <;> cases is' <;> exact h 0

theorem tail (h : MoveAlike is is') : MoveAlike is.tail is'.tail := by
  intro n
  cases is <;> cases is' <;> exact h (n + 1)

/-- What is moved alike one by one is moved alike together. -/
theorem flatten (h : MoveAlike is is') : moves is.flatten = moves is'.flatten := by
  have hsplit : ∀ is : List (List Interlude),
      moves is.flatten = moves (is.headD []) ++ moves is.tail.flatten := by
    rintro (_ | ⟨i, is⟩)
    · rfl
    · exact moves_append i is.flatten
  induction is generalizing is' with
  | nil =>
    induction is' with
    | nil => rfl
    | cons i' is' ih =>
      rw [hsplit (i' :: is'), ← h.head]
      exact ih h.tail
  | cons i is ih =>
    rw [hsplit (i :: is), hsplit is', h.head]
    exact congrArg _ (ih h.tail)

end Interlude.MoveAlike

namespace MemoryStore

variable {α : Type} {s s' t : MemoryStore α} {is is' : List Interlude} {later : List ClockMove}

/-- What is true of a store remains so while it is left to itself, if its clock does not move
back. -/
structure Lasts (P : MemoryStore α → Prop) : Prop where
  /-- While the clock moves. -/
  move : ∀ {s : MemoryStore α} {m : ClockMove}, P s → (m.apply s.now).before s.now = false →
    P (s.move m)
  /-- While the store is purged. -/
  purge : ∀ {s : MemoryStore α}, P s → P s.purge.1

theorem Lasts.pass {P : MemoryStore α → Prop} (hP : Lasts P) {i : Interlude}
    (hf : ClockMove.AreForward s.now (Interlude.moves [i])) (hs : P s) : P (s.pass i) := by
  cases i with
  | move m => exact hP.move hs hf.1
  | purge => exact hP.purge hs

theorem Lasts.passAll {P : MemoryStore α → Prop} (hP : Lasts P)
    (hf : ClockMove.AreForward s.now (Interlude.moves is ++ later)) (hs : P s) :
    P (is.foldl MemoryStore.pass s) ∧
      ClockMove.AreForward (is.foldl MemoryStore.pass s).now later := by
  induction is generalizing s with
  | nil => exact ⟨hs, hf⟩
  | cons i is ih =>
    cases i with
    | move m => exact ih hf.2 (hP.move hs hf.1)
    | purge => exact ih hf (hP.purge hs)

/-! ## What fades -/

/-- What is live in the second store is what is live in the first one and has not expired by the
clock of the second one. -/
def Fades (s t : MemoryStore α) : Prop :=
  ∀ key, t.live.get? key = (s.live.get? key).filter (Slot.isLive t.now)

namespace Fades

theorem refl (s : MemoryStore α) : Fades s s := by
  intro key
  rw [live_get?, Option.filter_filter]
  simp only [Bool.and_self]

theorem lasts (s : MemoryStore α) : Lasts (Fades s) where
  move := by
    intro t m h hm key
    rw [live_get?_move t hm, h key, Slot.filter_filter_isLive hm]
    rfl
  purge := by
    intro t h key
    rw [live_get?_purge, h key]
    rfl

theorem get?_eq_or (h : Fades s t) (key : String) :
    t.get? key = s.get? key ∨ t.get? key = none := by
  rw [get?_eq_live, get?_eq_live, h key]
  cases s.live.get? key with
  | none => exact .inl rfl
  | some slot =>
    rw [Option.filter_some]
    split
    · exact .inl rfl
    · exact .inr rfl

/-- Nothing fades while the clock stands still. -/
theorem get?_eq_of_now (h : Fades s t) (hnow : t.now = s.now) (key : String) :
    t.get? key = s.get? key := by
  rw [get?_eq_live, get?_eq_live, h key, hnow, ← refl s key]

/-- What is visible in between is as at first, or else as at last. -/
theorem between {u : MemoryStore α} (h : Fades s t) (h' : Fades t u) (key : String) :
    t.get? key = s.get? key ∨ t.get? key = u.get? key := by
  rcases h.get?_eq_or key with ht | ht
  · exact .inl ht
  · have hu := h'.get?_eq_or key
    rw [ht, or_self] at hu
    exact .inr (ht.trans hu.symm)

end Fades

/-! ## Purges do not matter -/

namespace SameLive

theorem symm (h : SameLive s s') : SameLive s' s := ⟨h.now.symm, h.live.symm⟩

theorem trans (h : SameLive s s') (h' : SameLive s' t) : SameLive s t :=
  ⟨h.now.trans h'.now, h.live.trans h'.live⟩

/-- Interludes do what the moves among them do. -/
theorem passAll_moves (h : SameLive s s')
    (hf : ClockMove.AreForward s.now (Interlude.moves is ++ later)) :
    SameLive (is.foldl pass s) ((Interlude.moves is).foldl (fun s m => s.move m) s') := by
  induction is generalizing s s' with
  | nil => exact h
  | cons i is ih =>
    cases i with
    | move m => exact ih (h.move hf.1) hf.2
    | purge => exact ih h.purge hf

/-- Interludes that move the clock alike keep stores alike. -/
theorem passAll (h : SameLive s s')
    (hf : ClockMove.AreForward s.now (Interlude.moves is ++ later))
    (hmoves : Interlude.moves is = Interlude.moves is') :
    SameLive (is.foldl pass s) (is'.foldl pass s') := by
  have hf' : ClockMove.AreForward s'.now (Interlude.moves is' ++ later) := hmoves ▸ h.now ▸ hf
  have hs' := (SameLive.refl s').passAll_moves hf'
  rw [← hmoves] at hs'
  exact (h.passAll_moves hf).trans hs'.symm

/-- It does not matter in which order keys are removed, or how often. -/
theorem removeAll (h : SameLive s s') {keys keys' : List String}
    (hkeys : ∀ key, key ∈ keys ↔ key ∈ keys') :
    SameLive (s.removeAll keys) (s'.removeAll keys') := by
  refine ⟨?_, KeyMap.ext_get? fun key => ?_⟩
  · rw [now_removeAll, now_removeAll, h.now]
  · simp only [live_get?_removeAll, h.live, hkeys]

end SameLive

/-! ## Removals -/

theorem remove_pass (s : MemoryStore α) (key : String) (i : Interlude) :
    (s.remove key).pass i = (s.pass i).remove key := by
  cases i with
  | move m => rfl
  | purge =>
    refine ext_slots rfl fun key' => ?_
    show (s.remove key).live.get? key' = (s.purge.1.remove key).slots.get? key'
    rw [live_get?_remove, slots_get?_remove, slots_get?_purge, live_get?]

/-- A removal may as well come after what happens to the store. -/
theorem remove_passAll (s : MemoryStore α) (key : String) (is : List Interlude) :
    is.foldl pass (s.remove key) = (is.foldl pass s).remove key := by
  induction is generalizing s with
  | nil => rfl
  | cons i is ih => rw [List.foldl_cons, remove_pass, ih, List.foldl_cons]

end MemoryStore

end KeyedState

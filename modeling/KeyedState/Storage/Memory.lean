import KeyedState.Error
import KeyedState.KeyMap.Basic
import KeyedState.Time.Clock

/-!
# A store in memory

A `MemoryStore` holds values with optional deadlines and shows the time of its clock. An entry
whose deadline has come is invisible at once; `purge` drops such entries, which nothing but
`slots` shows. `get?` is the view: each operation has a lemma that says what it does to it.
-/

namespace KeyedState

/-- A stored value and its deadline. -/
structure Slot (α : Type) where
  /-- The value. -/
  value : α
  /-- The instant from which on the value is invisible. -/
  deadline : Option Instant
deriving DecidableEq

/-- Whether the value is visible. -/
def Slot.isLive {α : Type} (now : Instant) (s : Slot α) : Bool := s.deadline.all (now.before ·)

/-- A store in memory. -/
structure MemoryStore (α : Type) where
  /-- All entries, visible or not. -/
  slots : KeyMap (Slot α)
  /-- The time that the clock of the store shows. -/
  now : Instant
deriving DecidableEq

namespace MemoryStore

variable {α : Type}

/-- The store without entries. -/
def new (now : Instant) : MemoryStore α := ⟨∅, now⟩

/-- The store after its clock has moved. -/
def move (m : ClockMove) (s : MemoryStore α) : MemoryStore α := { s with now := m.apply s.now }

/-- The visible value under a key. -/
def get? (s : MemoryStore α) (key : String) : Option α :=
  ((s.slots.get? key).filter (Slot.isLive s.now)).map Slot.value

/-- The deadline of a value that is stored now; none where the value does not expire, and a failure
where its end is no instant. -/
def deadline? (now : Instant) : Option Duration → Except StorageError (Option Instant)
  | none => .ok none
  | some ttl =>
    match now.add? ttl with
    | some at_ => .ok (some at_)
    | none => .error (.backend s!"ttl out of range: {ttl.text}")

/-- The store with a value under a key, in place of what was there. -/
def put (s : MemoryStore α) (key : String) (value : α) (ttl : Option Duration) :
    Except StorageError (MemoryStore α) :=
  (deadline? s.now ttl).map fun deadline =>
    { s with slots := s.slots.insert key ⟨value, deadline⟩ }

/-- The store without an entry for a key. -/
def remove (s : MemoryStore α) (key : String) : MemoryStore α :=
  { s with slots := s.slots.erase key }

/-- The visible entries. -/
def live (s : MemoryStore α) : KeyMap (Slot α) := s.slots.filter fun _ => Slot.isLive s.now

/-- The keys of the visible entries. -/
def keys (s : MemoryStore α) : List String := s.live.keys

/-- The number of visible entries. -/
def size (s : MemoryStore α) : Nat := s.live.size

/-- Whether no entry is visible. -/
def isEmpty (s : MemoryStore α) : Bool := s.size == 0

/-- The store without the entries that are not visible, and their number. -/
def purge (s : MemoryStore α) : MemoryStore α × Nat :=
  ({ s with slots := s.live }, s.slots.size - s.live.size)

/-! ## The view -/

@[simp] theorem get?_new (now : Instant) (key : String) :
    (new now : MemoryStore α).get? key = none :=
  rfl

@[simp] theorem get?_remove (s : MemoryStore α) (key key' : String) :
    (s.remove key).get? key' = if key' = key then none else s.get? key' := by
  simp only [get?, remove, KeyMap.get?_erase]
  split <;> rfl

@[simp] theorem get?_purge (s : MemoryStore α) (key : String) :
    s.purge.1.get? key = s.get? key := by
  simp only [get?, purge, live, KeyMap.get?_filter]
  cases s.slots.get? key with
  | none => rfl
  | some slot => by_cases h : slot.isLive s.now <;> simp [Option.filter, h]

/-- A visible key is one with a visible value. -/
theorem mem_keys_iff {s : MemoryStore α} {key : String} :
    key ∈ s.keys ↔ (s.get? key).isSome := by
  simp [keys, live, KeyMap.mem_keys, get?]

end MemoryStore

end KeyedState

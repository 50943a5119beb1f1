import KeyedState.KeyMap.Basic

/-!
# The locks of keys

Every key that some thread holds or waits for has a slot, which a table finds by the key. A slot
counts the references to it: one from the table and one from each thread that uses it. A thread
refers to the slot of its key, looks whether the key is held, sleeps while it is, and holds it
from then on. It gives the key back in four steps: it releases the key, notifies one sleeper,
takes the slot out of the table if nobody else refers to it, and gives up its own reference.

`KeyLocks.step?` is one such step, which nothing interrupts, and `KeyLocks.run?` runs a schedule of
steps.
-/

namespace KeyedState

/-- The state of the lock of one key. -/
structure KeySlot where
  /-- Whether a thread holds the key. -/
  held : Bool := false
  /-- The number of references to the slot. -/
  references : Nat := 1
deriving DecidableEq

/-- How far a thread is with its key. -/
inductive LockPhase where
  /-- It is about to look whether the key is held. -/
  | awake
  /-- It sleeps until it is notified. -/
  | asleep
  /-- It holds the key. -/
  | holding
  /-- It has released the key and is about to notify a sleeper. -/
  | released
  /-- It has notified and is about to look at the references. -/
  | notified
  /-- It has nothing left to do but to give up its reference. -/
  | leaving
deriving DecidableEq

/-- A thread that uses a slot. -/
structure LockUse where
  /-- The key. -/
  key : String
  /-- The place of the slot. -/
  slot : Nat
  /-- How far the thread is. -/
  phase : LockPhase
deriving DecidableEq

/-- A step of a thread. -/
inductive LockStep where
  /-- It asks for a key: it finds or makes the slot and refers to it. -/
  | enter (key : String)
  /-- It finds that the key is free, and holds it. -/
  | take
  /-- It finds that the key is held, and falls asleep. -/
  | sleep
  /-- It wakes up without being notified. -/
  | wake
  /-- It releases the key. -/
  | release
  /-- It wakes one thread that sleeps on the slot, if there is one. -/
  | notify (sleeper : Option Nat)
  /-- It takes the slot out of the table if nobody else refers to it. -/
  | tidy
  /-- It gives up its reference. -/
  | leave
deriving DecidableEq

/-- The locks of keys and the threads that use them. -/
structure KeyLocks where
  /-- The place of the slot of each key. -/
  table : KeyMap Nat := ∅
  /-- All slots that were ever made. -/
  slots : List KeySlot := []
  /-- What each thread uses; threads are named by their places. -/
  threads : List (Option LockUse)
deriving DecidableEq

namespace KeyLocks

/-- No key is used by any of so many threads. -/
def start (threads : Nat) : KeyLocks := { threads := List.replicate threads none }

/-- What a thread uses. -/
def use? (s : KeyLocks) (t : Nat) : Option LockUse := s.threads[t]?.join

/-- The state with one slot changed. -/
def changeSlot (s : KeyLocks) (i : Nat) (f : KeySlot → KeySlot) : KeyLocks :=
  { s with slots := s.slots.modify i f }

/-- The state with what one thread uses replaced. -/
def setUse (s : KeyLocks) (t : Nat) (u : Option LockUse) : KeyLocks :=
  { s with threads := s.threads.set t u }

/-- The state with the phase of a thread that uses a slot replaced. -/
def setPhase (s : KeyLocks) (t : Nat) (u : LockUse) (phase : LockPhase) : KeyLocks :=
  s.setUse t (some { u with phase })

/-- The slot with one reference more. -/
def refer (slot : KeySlot) : KeySlot := { slot with references := slot.references + 1 }

/-- The slot with one reference less. -/
def unrefer (slot : KeySlot) : KeySlot := { slot with references := slot.references - 1 }

/-- The place of the slot of a key, and the state in which the table has that slot. -/
def findOrMake (s : KeyLocks) (key : String) : Nat × KeyLocks :=
  match s.table.get? key with
  | some i => (i, s)
  | none =>
    let i := s.slots.length
    (i, { s with table := s.table.insert key i, slots := s.slots ++ [{}] })

/-- The state without a slot for a key in the table, which gives up its reference. -/
def forget (s : KeyLocks) (key : String) : KeyLocks :=
  match s.table.get? key with
  | none => s
  | some i => { s with table := s.table.erase key }.changeSlot i unrefer

/-- Whether a thread sleeps on a slot. -/
def sleepsOn (s : KeyLocks) (slot t : Nat) : Bool :=
  (s.use? t).any fun u => u.slot == slot && u.phase == .asleep

/-- Whether some thread sleeps on a slot. -/
def hasSleeper (s : KeyLocks) (slot : Nat) : Bool :=
  (List.range s.threads.length).any (s.sleepsOn slot)

/-- A thread that uses nothing asks for a key. -/
def enter? (s : KeyLocks) (t : Nat) (key : String) : Option KeyLocks :=
  if s.threads[t]? = some none then
    let (i, s) := s.findOrMake key
    some ((s.changeSlot i refer).setUse t (some ⟨key, i, .awake⟩))
  else none

/-- A step of thread `t` that uses a slot, in its phase. -/
def stepUse? (s : KeyLocks) (t : Nat) (u : LockUse) (slot : KeySlot) :
    LockPhase → LockStep → Option KeyLocks
  | .awake, .take =>
    if slot.held then none
    else some ((s.changeSlot u.slot fun slot => { slot with held := true }).setPhase t u .holding)
  | .awake, .sleep => if slot.held then some (s.setPhase t u .asleep) else none
  | .asleep, .wake => some (s.setPhase t u .awake)
  | .holding, .release =>
    some ((s.changeSlot u.slot fun slot => { slot with held := false }).setPhase t u .released)
  | .released, .notify none =>
    if s.hasSleeper u.slot then none else some (s.setPhase t u .notified)
  | .released, .notify (some sleeper) =>
    match s.use? sleeper with
    | none => none
    | some v =>
      if s.sleepsOn u.slot sleeper then
        some ((s.setPhase sleeper v .awake).setPhase t u .notified)
      else none
  | .notified, .tidy =>
    let s := if slot.references = 2 then s.forget u.key else s
    some (s.setPhase t u .leaving)
  | .leaving, .leave => some ((s.changeSlot u.slot unrefer).setUse t none)
  | _, _ => none

/-- The state after a step of thread `t`, if it can take that step. -/
def step? (s : KeyLocks) (t : Nat) : LockStep → Option KeyLocks
  | .enter key => s.enter? t key
  | step => do
    let u ← s.use? t
    let slot ← s.slots[u.slot]?
    s.stepUse? t u slot u.phase step

/-- The state after a schedule of steps, if each can be taken. -/
def run? (s : KeyLocks) (schedule : List (Nat × LockStep)) : Option KeyLocks :=
  schedule.foldlM (fun s (t, step) => s.step? t step) s

/-- Whether a state can come about among so many threads. -/
def IsReachable (threads : Nat) (s : KeyLocks) : Prop :=
  ∃ schedule, (start threads).run? schedule = some s

end KeyLocks

end KeyedState

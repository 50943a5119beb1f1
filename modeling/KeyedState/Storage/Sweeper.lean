import KeyedState.Settings.Basic
import KeyedState.Storage.Memory

/-!
# What happens to a store by itself

While nobody asks a store in memory anything, its clock moves, and a sweeper purges it at fixed
intervals. An `Interlude` is one of these. The sweeper exists where the settings give an interval,
and no interval is shorter than a millisecond.
-/

namespace KeyedState

/-- A sweeper. -/
structure Sweeper where
  /-- The time between two sweeps. -/
  interval : Duration
deriving DecidableEq

namespace Sweeper

/-- The shortest interval. -/
def shortest : Duration := ⟨1000000, by decide⟩

/-- The sweeper with an interval, which is lengthened to the shortest one. -/
def every (interval : Duration) : Sweeper :=
  ⟨if interval.nanos < shortest.nanos then shortest else interval⟩

/-- The sweeper that settings ask for. -/
def ofSettings? (s : Settings) : Option Sweeper := s.sweepInterval.map every

/-- One sweep. -/
def sweep {α : Type} (store : MemoryStore α) : MemoryStore α := store.purge.1

end Sweeper

/-- What may happen to a store in memory while nobody asks it anything. -/
inductive Interlude where
  /-- Its clock moves. -/
  | move (m : ClockMove)
  /-- It is purged. -/
  | purge
deriving DecidableEq

/-- The store after an interlude. -/
def MemoryStore.pass {α : Type} (s : MemoryStore α) : Interlude → MemoryStore α
  | .move m => s.move m
  | .purge => s.purge.1

namespace Interlude

/-- The move of the clock, if it moves. -/
def move? : Interlude → Option ClockMove
  | .move m => some m
  | .purge => none

/-- The moves of the clock among interludes. -/
def moves (interludes : List Interlude) : List ClockMove := interludes.filterMap move?

theorem moves_append (is is' : List Interlude) : moves (is ++ is') = moves is ++ moves is' :=
  List.filterMap_append

end Interlude

end KeyedState

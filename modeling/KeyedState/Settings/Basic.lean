import KeyedState.KeyMap.Basic
import KeyedState.Time.Duration

/-!
# Settings

`Settings` holds the times of a store and the settings of its log. Where the default time to live
is not given, contexts do not expire; where the sweep interval is not given or is zero, nothing is
swept.
-/

namespace KeyedState

/-- The settings of a log. -/
structure LogSettings where
  /-- The level, or a filter. -/
  level : String := "info"
  /-- The format of the output. -/
  format : String := "text"
  /-- Whether the output is colored. -/
  color : Bool := true
  /-- The levels of modules. -/
  modules : KeyMap String := ∅
deriving DecidableEq

/-- All settings. -/
structure Settings where
  /-- The milliseconds that a context lives when a write does not say. -/
  defaultTtlMillis : Option U64 := none
  /-- The milliseconds between two sweeps. -/
  sweepIntervalMillis : Option U64 := none
  /-- The settings of the log. -/
  logging : LogSettings := {}
deriving DecidableEq

namespace Settings

/-- The time that a context lives when a write does not say. -/
def defaultTtl (s : Settings) : Option Duration := s.defaultTtlMillis.map Duration.ofMillis

/-- The time between two sweeps. -/
def sweepInterval (s : Settings) : Option Duration :=
  (s.sweepIntervalMillis.filter (0 < ·.val)).map Duration.ofMillis

end Settings

end KeyedState

import KeyedState.KeyMap.Basic
import KeyedState.Regex.Pattern

/-!
# A cache of compiled patterns

A `PatternCache` maps patterns to their compiled forms. Threads that share one look a pattern up,
compile it if it is missing, and put it in; a cache that is full is emptied before something is
put in. `CacheUsers` are threads that interleave these steps.
-/

namespace KeyedState

/-- A cache of compiled patterns. -/
structure PatternCache where
  /-- The compiled patterns. -/
  entries : KeyMap WholePattern := ∅

namespace PatternCache

/-- The number of entries from which on a cache is full. -/
def limit : Nat := 1024

/-- The compiled form of a pattern, if the cache has it. -/
def find? (c : PatternCache) (pattern : String) : Option WholePattern := c.entries.get? pattern

/-- The cache with room for one more entry. -/
def withRoom (c : PatternCache) : PatternCache := if c.entries.size < limit then c else {}

/-- The cache with a compiled pattern put in, unless it has one for that pattern already. -/
def insert (c : PatternCache) (pattern : String) (p : WholePattern) : PatternCache :=
  let c := c.withRoom
  if c.entries.contains pattern then c else ⟨c.entries.insert pattern p⟩

end PatternCache

/-- How far a thread is with a pattern. -/
inductive CachePhase where
  /-- It is about to look the pattern up. -/
  | finding
  /-- It has not found the pattern and is about to compile it. -/
  | compiling
  /-- It has compiled the pattern and is about to put it in. -/
  | inserting (p : WholePattern)

/-- A thread that compiles patterns. -/
structure CacheUser where
  /-- The pattern at hand and how far the thread is with it. -/
  current : Option (String × CachePhase) := none
  /-- The patterns still to be compiled. -/
  waiting : List String
  /-- The patterns so far and what came of each, the last one first. -/
  results : List (String × Except ConfigurationError WholePattern) := []

namespace CacheUser

/-- The thread once the pattern at hand has a result. -/
def finish (u : CacheUser) (pattern : String) (result : Except ConfigurationError WholePattern) :
    CacheUser :=
  { u with current := none, results := (pattern, result) :: u.results }

/-- One step of a thread, which nothing interrupts: the thread and the cache after it. There is no
step when all patterns have results. -/
def step? (u : CacheUser) (c : PatternCache) : Option (CacheUser × PatternCache) :=
  match u.current, u.waiting with
  | none, [] => none
  | none, pattern :: rest =>
    some ({ u with current := some (pattern, .finding), waiting := rest }, c)
  | some (pattern, .finding), _ =>
    match c.find? pattern with
    | some p => some (u.finish pattern (.ok p), c)
    | none => some ({ u with current := some (pattern, .compiling) }, c)
  | some (pattern, .compiling), _ =>
    match WholePattern.compile pattern with
    | .error e => some (u.finish pattern (.error e), c)
    | .ok p => some ({ u with current := some (pattern, .inserting p) }, c)
  | some (pattern, .inserting p), _ => some (u.finish pattern (.ok p), c.insert pattern p)

end CacheUser

/-- Threads that share a cache. -/
structure CacheUsers where
  /-- The cache. -/
  cache : PatternCache := {}
  /-- The threads, which are named by their places. -/
  users : List CacheUser

namespace CacheUsers

/-- Threads that have compiled none of their patterns, and an empty cache. -/
def start (programs : List (List String)) : CacheUsers :=
  { users := programs.map fun p => { waiting := p } }

/-- The state after a step of thread `t`, if it can take one. -/
def step? (s : CacheUsers) (t : Nat) : Option CacheUsers := do
  let u ← s.users[t]?
  let (u, cache) ← u.step? s.cache
  return { cache, users := s.users.set t u }

/-- The state after a schedule, which says whose turn it is, if each turn can be taken. -/
def run? (s : CacheUsers) (schedule : List Nat) : Option CacheUsers := schedule.foldlM step? s

end CacheUsers

end KeyedState

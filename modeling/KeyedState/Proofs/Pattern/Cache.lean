import KeyedState.Pattern.Cache
import KeyedState.Proofs.Except

/-!
# Nobody notices the cache of compiled patterns

Threads that share a cache get for each pattern what compiling it gives, however their steps
interleave, and a thread is done after four steps of its own for each of its patterns.

A `PatternCache` is sound if each of its entries is what the pattern is compiled to and there are not
too many of them. `CacheUser.StepOf` lists what a step of a thread can be; of these only the last
one of a call that compiles its pattern changes the cache, and it puts in just what was compiled.
-/

namespace KeyedState

namespace PatternCache

/-- Each entry is what its pattern is compiled to, and the cache is within its limit. -/
structure Sound (c : PatternCache) : Prop where
  /-- The entries. -/
  compiled : ∀ {pattern p}, c.find? pattern = some p → WholePattern.compile pattern = .ok p
  /-- The number of entries. -/
  size_le : c.entries.size ≤ limit

theorem size_withRoom_lt (c : PatternCache) : c.withRoom.entries.size < limit := by
  unfold withRoom
  split
  · assumption
  · decide

namespace Sound

variable {c : PatternCache} {pattern : String} {p : WholePattern}

theorem empty : Sound {} := ⟨fun h => (by cases h), Nat.zero_le _⟩

theorem withRoom (h : c.Sound) : c.withRoom.Sound := by
  unfold PatternCache.withRoom
  split
  · exact h
  · exact empty

theorem insert (h : c.Sound) (hp : WholePattern.compile pattern = .ok p) :
    (c.insert pattern p).Sound := by
  unfold PatternCache.insert
  dsimp only
  split
  · exact h.withRoom
  · refine ⟨fun {pattern' p'} hfind => ?_, ?_⟩
    · rw [find?, KeyMap.get?_insert] at hfind
      split at hfind
      · rename_i hpattern
        rw [hpattern, hp, Option.some.inj hfind]
      · exact h.withRoom.compiled hfind
    · exact Nat.le_trans (KeyMap.size_insert_le ..) c.size_withRoom_lt

end Sound

end PatternCache

/-- The most steps that a call takes from a phase on. -/
def CachePhase.stepsLeft : CachePhase → Nat
  | .finding => 3
  | .compiling => 2
  | .inserting _ => 1

namespace CacheUser

/-! ## Steps of one thread -/

/-- The pattern that the next step of a thread is for. -/
def pattern? (u : CacheUser) : Option String := (u.current.map Prod.fst).or u.waiting.head?

/-- All patterns of a thread, in order: those that have results, the one at hand, the others. -/
def patterns (u : CacheUser) : List String :=
  (u.results.map Prod.fst).reverse ++ (u.current.map Prod.fst).toList ++ u.waiting

/-- The most steps that a thread takes until all its patterns have results. -/
def stepsLeft (u : CacheUser) : Nat :=
  (u.current.elim 0 fun e => e.2.stepsLeft) + 4 * u.waiting.length

/-- What a thread has is what compiling gives. -/
structure Sound (u : CacheUser) : Prop where
  /-- The results. -/
  results : ∀ e ∈ u.results, e.2 = WholePattern.compile e.1
  /-- What is about to be put in. -/
  inserting : ∀ pattern p, u.current = some (pattern, .inserting p) →
    WholePattern.compile pattern = .ok p

theorem Sound.results_eq {u : CacheUser} (h : u.Sound) :
    u.results = (u.results.map Prod.fst).map fun pattern =>
      (pattern, WholePattern.compile pattern) := by
  rw [List.map_map]
  refine (List.map_id u.results).symm.trans (List.map_congr_left fun e he => ?_)
  exact Prod.ext rfl (h.results e he)

/-- What a step of a thread can be: the thread and the cache before and after it. -/
inductive StepOf (c : PatternCache) : CacheUser → CacheUser → PatternCache → Prop where
  | start {pattern : String} {rest : List String}
    {results : List (String × Except ConfigurationError WholePattern)} :
    StepOf c ⟨none, pattern :: rest, results⟩ ⟨some (pattern, .finding), rest, results⟩ c
  | found {pattern : String} {p : WholePattern} {rest : List String}
    {results : List (String × Except ConfigurationError WholePattern)}
    (h : c.find? pattern = some p) :
    StepOf c ⟨some (pattern, .finding), rest, results⟩ ⟨none, rest, (pattern, .ok p) :: results⟩ c
  | missed {pattern : String} {rest : List String}
    {results : List (String × Except ConfigurationError WholePattern)} :
    StepOf c ⟨some (pattern, .finding), rest, results⟩
      ⟨some (pattern, .compiling), rest, results⟩ c
  | failed {pattern : String} {e : ConfigurationError} {rest : List String}
    {results : List (String × Except ConfigurationError WholePattern)}
    (h : WholePattern.compile pattern = .error e) :
    StepOf c ⟨some (pattern, .compiling), rest, results⟩
      ⟨none, rest, (pattern, .error e) :: results⟩ c
  | compiled {pattern : String} {p : WholePattern} {rest : List String}
    {results : List (String × Except ConfigurationError WholePattern)}
    (h : WholePattern.compile pattern = .ok p) :
    StepOf c ⟨some (pattern, .compiling), rest, results⟩
      ⟨some (pattern, .inserting p), rest, results⟩ c
  | inserted {pattern : String} {p : WholePattern} {rest : List String}
    {results : List (String × Except ConfigurationError WholePattern)} :
    StepOf c ⟨some (pattern, .inserting p), rest, results⟩
      ⟨none, rest, (pattern, .ok p) :: results⟩ (c.insert pattern p)

variable {u u' : CacheUser} {c c' : PatternCache}

theorem stepOf_of_step? (h : u.step? c = some (u', c')) : StepOf c u u' c' := by
  obtain ⟨_ | ⟨pattern, _ | _ | p⟩, waiting, results⟩ := u
  · rcases waiting with _ | ⟨pattern, rest⟩
    · cases h
    · cases h
      exact .start
  · simp only [step?] at h
    split at h
    · rename_i hfind
      cases h
      exact .found hfind
    · cases h
      exact .missed
  · simp only [step?] at h
    split at h
    · rename_i hp
      cases h
      exact .failed hp
    · rename_i hp
      cases h
      exact .compiled hp
  · cases h
    exact .inserted

/-- A thread that can take no step has results for all its patterns. -/
theorem patterns_of_step?_eq_none (h : u.step? c = none) :
    u.patterns = (u.results.map Prod.fst).reverse := by
  obtain ⟨_ | ⟨pattern, _ | _ | p⟩, waiting, results⟩ := u
  · rcases waiting with _ | ⟨pattern, rest⟩
    · simp [patterns]
    · cases h
  · simp only [step?] at h
    split at h
    · cases h
    · cases h
  · simp only [step?] at h
    split at h
    · cases h
    · cases h
  · cases h

namespace StepOf

/-- No step loses a pattern or changes the order of the patterns. -/
theorem patterns_eq (h : StepOf c u u' c') : u'.patterns = u.patterns := by
  cases h <;> simp [patterns]

theorem stepsLeft_lt (h : StepOf c u u' c') : u'.stepsLeft < u.stepsLeft := by
  cases h <;> simp [stepsLeft, CachePhase.stepsLeft]
  omega

/-- A step of a call that cannot compile its pattern leaves the cache as it is. -/
theorem cache_eq (h : StepOf c u u' c') (hu : u.Sound) {pattern : String} {e : ConfigurationError}
    (hpattern : u.pattern? = some pattern) (he : WholePattern.compile pattern = .error e) :
    c' = c := by
  cases h with
  | inserted =>
    have hp := hu.inserting _ _ rfl
    cases hpattern
    rw [he] at hp
    cases hp
  | _ => rfl

/-- What a thread gets is what compiling gives. -/
theorem sound (h : StepOf c u u' c') (hu : u.Sound) (hc : c.Sound) : u'.Sound := by
  cases h with
  | start => exact ⟨hu.results, fun _ _ h => by cases h⟩
  | found hfind =>
    exact ⟨List.forall_mem_cons.2 ⟨(hc.compiled hfind).symm, hu.results⟩, fun _ _ h => by cases h⟩
  | missed => exact ⟨hu.results, fun _ _ h => by cases h⟩
  | failed he => exact ⟨List.forall_mem_cons.2 ⟨he.symm, hu.results⟩, fun _ _ h => by cases h⟩
  | compiled hp =>
    refine ⟨hu.results, fun pattern p h => ?_⟩
    cases h
    exact hp
  | inserted =>
    have hp := hu.inserting _ _ rfl
    exact ⟨List.forall_mem_cons.2 ⟨hp.symm, hu.results⟩, fun _ _ h => by cases h⟩

/-- What a thread puts into the cache is what compiling gives. -/
theorem sound_cache (h : StepOf c u u' c') (hu : u.Sound) (hc : c.Sound) : c'.Sound := by
  cases h with
  | inserted => exact hc.insert (hu.inserting _ _ rfl)
  | _ => exact hc

end StepOf

end CacheUser

namespace CacheUsers

/-! ## Steps of all threads -/

/-- The cache is sound, and so is all that the threads have. -/
structure Sound (s : CacheUsers) : Prop where
  /-- The cache. -/
  cache : s.cache.Sound
  /-- The threads. -/
  users : ∀ u ∈ s.users, u.Sound

/-- The most steps that a thread takes until all its patterns have results. -/
def stepsLeft (s : CacheUsers) (t : Nat) : Nat := s.users[t]?.elim 0 CacheUser.stepsLeft

variable {s s' : CacheUsers} {t : Nat}

/-- A step is that of one thread. -/
theorem exists_of_step? (h : s.step? t = some s') :
    ∃ u u', s.users[t]? = some u ∧ CacheUser.StepOf s.cache u u' s'.cache ∧
      s'.users = s.users.set t u' := by
  obtain ⟨u, hu, h⟩ := Option.bind_eq_some_iff.1 h
  obtain ⟨⟨u', c'⟩, hstep, h⟩ := Option.bind_eq_some_iff.1 h
  cases h
  exact ⟨u, u', hu, CacheUser.stepOf_of_step? hstep, rfl⟩

theorem step?_eq_none {u : CacheUser} (hu : s.users[t]? = some u) (h : s.step? t = none) :
    u.step? s.cache = none := by
  have hrest := Option.bind_eq_none_iff.1 h u hu
  refine Option.eq_none_iff_forall_ne_some.2 fun r hr => ?_
  cases Option.bind_eq_none_iff.1 hrest r hr

theorem Sound.step (hs : s.Sound) (h : s.step? t = some s') : s'.Sound := by
  obtain ⟨u, u', hu, hstep, husers⟩ := exists_of_step? h
  have hsound := hs.users u (List.mem_of_getElem? hu)
  refine ⟨hstep.sound_cache hsound hs.cache, fun v hv => ?_⟩
  rw [husers] at hv
  rcases List.mem_or_eq_of_mem_set hv with hv | rfl
  · exact hs.users v hv
  · exact hstep.sound hsound hs.cache

theorem map_patterns_step (h : s.step? t = some s') :
    s'.users.map CacheUser.patterns = s.users.map CacheUser.patterns := by
  obtain ⟨u, u', hu, hstep, husers⟩ := exists_of_step? h
  obtain ⟨ht, hget⟩ := List.getElem?_eq_some_iff.1 hu
  rw [husers, List.map_set, hstep.patterns_eq, ← hget, ← List.getElem_map CacheUser.patterns,
    List.set_getElem_self]
  · rwa [List.length_map]

/-- Each step of a thread brings it nearer to its end, and no other one takes it back. -/
theorem stepsLeft_step (h : s.step? t = some s') (t' : Nat) :
    s'.stepsLeft t' + (if t == t' then 1 else 0) ≤ s.stepsLeft t' := by
  obtain ⟨u, u', hu, hstep, husers⟩ := exists_of_step? h
  obtain ⟨ht, -⟩ := List.getElem?_eq_some_iff.1 hu
  unfold stepsLeft
  rw [husers]
  by_cases htt : t = t'
  · subst htt
    rw [List.getElem?_set_self ht, hu, beq_self_eq_true, if_pos rfl]
    exact hstep.stepsLeft_lt
  · rw [List.getElem?_set_ne htt, beq_false_of_ne htt]
    exact Nat.le_refl _

/-! ## Schedules -/

variable {programs : List (List String)} {schedule : List Nat}

theorem Sound.start (programs : List (List String)) : (start programs).Sound := by
  refine ⟨.empty, fun u hu => ?_⟩
  obtain ⟨program, -, rfl⟩ := List.mem_map.1 hu
  exact ⟨List.forall_mem_nil _, fun _ _ h => by cases h⟩

theorem map_patterns_run (h : s.run? schedule = some s') :
    s'.users.map CacheUser.patterns = s.users.map CacheUser.patterns :=
  foldlM_induction
    (P := fun s' => s'.users.map CacheUser.patterns = s.users.map CacheUser.patterns)
    (fun _ _ _ hs hstep => (map_patterns_step hstep).trans hs) rfl h

/-- The turns that a thread has had are steps on its way to its end. -/
theorem count_add_stepsLeft_le (h : s.run? schedule = some s') (t : Nat) :
    s'.stepsLeft t + schedule.count t ≤ s.stepsLeft t := by
  induction schedule generalizing s with
  | nil =>
    cases h
    exact Nat.le_refl _
  | cons x xs ih =>
    obtain ⟨r, hstep, hrest⟩ := Option.bind_eq_some_iff.1 h
    calc s'.stepsLeft t + (x :: xs).count t
        = s'.stepsLeft t + xs.count t + (if x == t then 1 else 0) := by
          rw [List.count_cons, Nat.add_assoc]
      _ ≤ r.stepsLeft t + (if x == t then 1 else 0) := Nat.add_le_add_right (ih hrest) _
      _ ≤ s.stepsLeft t := stepsLeft_step hstep t

theorem map_patterns_start (programs : List (List String)) :
    (start programs).users.map CacheUser.patterns = programs := by
  rw [start, List.map_map]
  exact List.map_id _

theorem stepsLeft_start {t : Nat} {program : List String} (h : programs[t]? = some program) :
    (start programs).stepsLeft t = 4 * program.length := by
  rw [stepsLeft, start, List.getElem?_map, h]
  exact Nat.zero_add _

/-- **The cache is not noticed.** Threads that start with an empty cache and compile patterns, however
their steps interleave: every result is what compiling the pattern gives, be it a failure; every
entry of the cache is what its pattern is compiled to, and there are never more than the limit; no
step of a call that cannot compile its pattern changes the cache. Each thread goes through its
patterns in order, at most four steps of its own for each, and when it has no step left it has the
results of all of them. -/
theorem compiled_as_without_cache (h : (start programs).run? schedule = some s) :
    (∀ u ∈ s.users, ∀ e ∈ u.results, e.2 = WholePattern.compile e.1) ∧
    (∀ pattern p, s.cache.find? pattern = some p → WholePattern.compile pattern = .ok p) ∧
    s.cache.entries.size ≤ PatternCache.limit ∧
    (∀ t u s' pattern e, s.users[t]? = some u → u.pattern? = some pattern →
      WholePattern.compile pattern = .error e → s.step? t = some s' → s'.cache = s.cache) ∧
    ∀ t program, programs[t]? = some program → schedule.count t ≤ 4 * program.length ∧
      ∃ u, s.users[t]? = some u ∧ u.patterns = program ∧
        (s.step? t = none → u.results.reverse =
          program.map fun pattern => (pattern, WholePattern.compile pattern)) := by
  have hsound : s.Sound := foldlM_induction (fun _ _ _ hs hstep => hs.step hstep) (.start programs) h
  refine ⟨fun u hu => (hsound.users u hu).results, fun _ _ => hsound.cache.compiled,
    hsound.cache.size_le, ?_, fun t program hprogram => ⟨?_, ?_⟩⟩
  · intro t u s' pattern e hu hpattern he hstep
    obtain ⟨v, v', hv, hstep, -⟩ := exists_of_step? hstep
    rw [hu] at hv
    cases hv
    exact hstep.cache_eq (hsound.users u (List.mem_of_getElem? hu)) hpattern he
  · have hcount := count_add_stepsLeft_le h t
    rw [stepsLeft_start hprogram] at hcount
    exact Nat.le_trans (Nat.le_add_left ..) hcount
  · have hpatterns := (map_patterns_run h).trans (map_patterns_start programs)
    rw [← hpatterns, List.getElem?_map] at hprogram
    obtain ⟨u, hu, hup⟩ := Option.map_eq_some_iff.1 hprogram
    refine ⟨u, hu, hup, fun hdone => ?_⟩
    rw [(hsound.users u (List.mem_of_getElem? hu)).results_eq, ← List.map_reverse,
      ← CacheUser.patterns_of_step?_eq_none (step?_eq_none hu hdone), hup]

/-- Two threads that compile the same pattern, one of them after a text that is no pattern. -/
def sharing : List (List String) := [["a(", "b"], ["b"]]

/-- The turns of the two threads, in which both look for the pattern before one puts it in. -/
def sharingTurns : List Nat := [0, 0, 0, 0, 0, 1, 1, 0, 1, 1, 0]

theorem compiled_as_without_cache_race :
    ∃ s, (start sharing).run? sharingTurns = some s ∧ s.cache.entries.keys = ["b"] ∧
      s.step? 0 = none ∧ sharingTurns.count 0 = 7 ∧ 7 ≤ 4 * ["a(", "b"].length ∧
      ∃ u, s.users[0]? = some u ∧ u.results.reverse =
        ["a(", "b"].map fun pattern => (pattern, WholePattern.compile pattern) := by
  have hrun : ((start sharing).run? sharingTurns).map
      (fun s => (s.cache.entries.keys, (s.step? 0).isNone)) = some (["b"], true) := by decide +kernel
  obtain ⟨s, hs, hend⟩ := Option.map_eq_some_iff.1 hrun
  obtain ⟨hkeys, hdone⟩ := Prod.mk.inj hend
  have hdone := Option.isNone_iff_eq_none.1 hdone
  obtain ⟨-, -, -, -, hthreads⟩ := compiled_as_without_cache hs
  obtain ⟨hcount, u, hu, -, hresults⟩ := hthreads 0 ["a(", "b"] rfl
  exact ⟨s, hs, hkeys, hdone, rfl, hcount, u, hu, hresults hdone⟩

end CacheUsers

end KeyedState

import KeyedState.Time.Duration

/-!
# Instants

An `Instant` is a second since the epoch, between `Instant.earliestSecond` and
`Instant.latestSecond`, and the nanoseconds since it began. The last second of a minute may be
followed by a leap second, which has no number of its own: it counts as nanoseconds beyond the
first whole second. Instants are in the order of their seconds, then of their nanoseconds.

A sum stays within a leap second where the duration is short enough (`Instant.lasts`), and
otherwise counts as if the leap second were the second before it. It fails exactly where it would be
after the latest instant (`add?_eq_none_iff_overruns`). `add?_eq_some_iff` and `add?_eq_none_iff`
give the sums of instants outside of leap seconds, which are exact. Durations longer than
`Instant.longestSpan` are never added, but lead from no instant to another anyway.
-/

namespace KeyedState

namespace Instant

/-- The first second that has instants. -/
def earliestSecond : Int := -8334601228800

/-- The last second that has instants. -/
def latestSecond : Int := 8210266876799

/-- The longest span that is added to an instant: `2 ^ 63 - 1` milliseconds, in nanoseconds. -/
def longestSpan : Nat := 9223372036854775807 * 1000000

end Instant

/-- A representable instant. -/
structure Instant where
  /-- The whole seconds since the epoch, rounded down. -/
  second : Int
  /-- The nanoseconds since that second began. -/
  nanos : Nat
  /-- The instant is not before the first second. -/
  earliest_le : Instant.earliestSecond ≤ second
  /-- The instant is not after the last second. -/
  le_latest : second ≤ Instant.latestSecond
  /-- A second is over after a thousand million nanoseconds, or twice as many at the end of a
  minute. -/
  nanos_lt : nanos < 1000000000 ∨ (nanos < 2000000000 ∧ second % 60 = 59)
deriving DecidableEq

namespace Instant

/-- The instant of a second and nanoseconds, if it is representable. -/
def of? (second : Int) (nanos : Nat) : Option Instant :=
  if h : (earliestSecond ≤ second ∧ second ≤ latestSecond) ∧
      (nanos < 1000000000 ∨ (nanos < 2000000000 ∧ second % 60 = 59)) then
    some ⟨second, nanos, h.1.1, h.1.2, h.2⟩
  else none

/-- Whether an instant is within a leap second. -/
def isLeap (i : Instant) : Bool := 1000000000 ≤ i.nanos

/-- All nanoseconds since the epoch, a leap second counting as the second before it. -/
def total (i : Instant) : Int := i.second * 1000000000 + (i.nanos % 1000000000 : Nat)

/-- The number of nanoseconds since the epoch at the last instant outside of a leap second. -/
def latest : Int := latestSecond * 1000000000 + 999999999

/-- The instant outside of a leap second at so many nanoseconds, if it is representable. -/
def ofTotal? (n : Int) : Option Instant := of? (n / 1000000000) (n % 1000000000).toNat

/-- The last instant outside of a leap second. -/
def max : Instant := ⟨latestSecond, 999999999, by decide, by decide, by decide⟩

/-- The epoch. -/
def epoch : Instant := ⟨0, 0, by decide, by decide, by decide⟩

instance : Inhabited Instant := ⟨epoch⟩

/-- Whether one instant is before another. -/
def before (i j : Instant) : Bool :=
  i.second < j.second || (i.second == j.second && i.nanos < j.nanos)

/-- Whether a leap second at an instant lasts beyond a duration. -/
def lasts (i : Instant) (d : Duration) : Bool := i.isLeap && i.nanos + d.nanos < 2000000000

/-- The instant a duration later, if it is representable. -/
def add? (i : Instant) (d : Duration) : Option Instant :=
  if longestSpan < d.nanos then none
  else if i.lasts d then of? i.second (i.nanos + d.nanos)
  else ofTotal? (i.total + d.nanos)

/-- What lies a duration ahead is after the last instant. -/
def Overruns (now : Instant) (d : Duration) : Prop :=
  now.lasts d = false ∧ latest < now.total + d.nanos

instance (now : Instant) (d : Duration) : Decidable (now.Overruns d) :=
  inferInstanceAs (Decidable (_ ∧ _))

/-! ## Sums -/

/-- An instant outside of a leap second is known by its nanoseconds since the epoch. -/
theorem ofTotal?_eq_some_iff {n : Int} {i : Instant} :
    ofTotal? n = some i ↔ i.isLeap = false ∧ i.total = n := by
  have hs := i.earliest_le
  have hl := i.le_latest
  simp only [ofTotal?, of?, isLeap, total, decide_eq_false_iff_not]
  constructor
  · intro h
    split at h
    · cases h
      constructor <;> dsimp only <;> omega
    · cases h
  · intro ⟨hn, ht⟩
    have hd : n / 1000000000 = i.second := by omega
    have hm : (n % 1000000000).toNat = i.nanos := by omega
    rw [dif_pos (by rw [hd, hm]; exact ⟨⟨hs, hl⟩, Or.inl (by omega)⟩)]
    cases i
    simp_all

/-- An instant outside of a leap second exists for every number from the first to the last. -/
theorem ofTotal?_eq_none_iff {n : Int} (h : earliestSecond * 1000000000 ≤ n) :
    ofTotal? n = none ↔ latest < n := by
  rw [ofTotal?, of?]
  split
  case isTrue hc =>
    simp only [reduceCtorEq, false_iff]
    simp only [latest, latestSecond, earliestSecond] at *
    omega
  case isFalse hc =>
    simp only [true_iff]
    simp only [latest, latestSecond, earliestSecond] at *
    omega

/-- A sum fails exactly when it overruns the last instant. -/
theorem add?_eq_none_iff_overruns {now : Instant} {d : Duration} :
    now.add? d = none ↔ now.Overruns d := by
  have hearliest := now.earliest_le
  have hlatest := now.le_latest
  have hnanos := now.nanos_lt
  have hlasts : now.lasts d = true ↔ 1000000000 ≤ now.nanos ∧ now.nanos + d.nanos < 2000000000 := by
    simp only [lasts, isLeap, Bool.and_eq_true, decide_eq_true_eq]
  have htotal : earliestSecond * 1000000000 ≤ now.total := by
    simp only [total]
    omega
  rw [add?, Overruns, ← Bool.not_eq_true]
  split
  case isTrue hspan =>
    -- so long a duration leads beyond the last instant from each of them
    refine iff_of_true rfl ⟨fun h => ?_, ?_⟩
    · have hsum := hlasts.1 h
      simp only [longestSpan] at hspan
      omega
    · simp only [longestSpan, latest, earliestSecond, latestSecond] at *
      omega
  case isFalse =>
    split
    case isTrue h =>
      -- the sum is within the leap second
      have hsum := hlasts.1 h
      rw [of?, dif_pos (by omega)]
      exact iff_of_false (fun hnone => by cases hnone) fun hover => hover.1 h
    case isFalse h =>
      rw [ofTotal?_eq_none_iff (by omega)]
      exact ⟨fun hover => ⟨h, hover⟩, fun hover => hover.2⟩

theorem exists_of_not_overruns {now : Instant} {d : Duration} (h : ¬ now.Overruns d) :
    ∃ i, now.add? d = some i :=
  Option.ne_none_iff_exists'.1 fun hnone => h (add?_eq_none_iff_overruns.1 hnone)

theorem lasts_eq_false {i : Instant} {d : Duration} (hi : i.isLeap = false) :
    i.lasts d = false := by
  simp [lasts, hi]

/-- The sum of an instant outside of a leap second and a duration exists exactly when it is not
after the latest instant, and then it is exact. -/
theorem add?_eq_some_iff {i j : Instant} {d : Duration} (hi : i.isLeap = false) :
    i.add? d = some j ↔ j.isLeap = false ∧ j.total = i.total + d.nanos := by
  rw [add?, lasts_eq_false hi]
  simp only [Bool.false_eq_true, if_false]
  split
  · have hs := i.earliest_le
    have hl := j.le_latest
    simp only [earliestSecond, latestSecond, longestSpan] at *
    simp only [total]
    constructor
    · intro h; cases h
    · intro ⟨_, h⟩; omega
  · exact ofTotal?_eq_some_iff

/-- The sum fails exactly when it is after the latest instant. -/
theorem add?_eq_none_iff {i : Instant} {d : Duration} (hi : i.isLeap = false) :
    i.add? d = none ↔ latest < i.total + d.nanos := by
  rw [add?_eq_none_iff_overruns, Overruns, lasts_eq_false hi]
  exact and_iff_right rfl

end Instant

end KeyedState

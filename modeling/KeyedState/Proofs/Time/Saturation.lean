import Mathlib.Algebra.GroupWithZero.Nat
import KeyedState.Time.Clock

/-!
# Clocks that stop at the last instant

A clock that is moved forward shows the exact sum of what it showed and the duration, or the last
instant where that sum is later (`Instant.total_advance`). As it moves in one direction only, it
stops at most once: moves one after the other come to one move by their sum, whether or not that sum
is a duration (`Instant.total_foldl_advance`).

Outside of leap seconds an instant is known by its nanoseconds since the epoch, in which all of this
is stated (`Instant.eq_of_total_eq`, `Instant.before_iff_total_lt`).
-/

namespace KeyedState

namespace Instant

variable {i j : Instant}

theorem eq_of_total_eq (hi : i.isLeap = false) (hj : j.isLeap = false) (h : i.total = j.total) :
    i = j := by
  have hsum : ofTotal? i.total = some i := ofTotal?_eq_some_iff.2 ⟨hi, rfl⟩
  have hsum' : ofTotal? i.total = some j := ofTotal?_eq_some_iff.2 ⟨hj, h.symm⟩
  exact Option.some.inj (hsum.symm.trans hsum')

theorem before_iff_total_lt (hi : i.isLeap = false) (hj : j.isLeap = false) :
    i.before j = true ↔ i.total < j.total := by
  simp only [isLeap, decide_eq_false_iff_not] at hi hj
  simp only [before, total, Bool.or_eq_true, Bool.and_eq_true, decide_eq_true_eq, beq_iff_eq]
  omega

theorem total_le_latest (i : Instant) : i.total ≤ latest := by
  have hsecond := i.le_latest
  simp only [total, latest]
  omega

/-! ## Moves forward -/

/-- A sum is an instant exactly when it does not exceed the last one. -/
theorem exists_add?_iff (hi : i.isLeap = false) {d : Duration} :
    (∃ j, i.add? d = some j) ↔ i.total + d.nanos ≤ latest := by
  rw [← Int.not_lt, ← add?_eq_none_iff hi]
  exact Option.ne_none_iff_exists'.symm

theorem isLeap_advance (hi : i.isLeap = false) (d : Duration) : (i.advance d).isLeap = false := by
  rw [advance]
  cases hsum : i.add? d with
  | none => rfl
  | some j => exact ((add?_eq_some_iff hi).1 hsum).1

theorem total_advance (hi : i.isLeap = false) (d : Duration) :
    (i.advance d).total = min (i.total + d.nanos) latest := by
  rw [advance]
  cases hsum : i.add? d with
  | none =>
    have hlate := (add?_eq_none_iff hi).1 hsum
    have hmax : max.total = latest := rfl
    rw [Option.getD_none, hmax]
    omega
  | some j =>
    have htotal := ((add?_eq_some_iff hi).1 hsum).2
    have hle := j.total_le_latest
    rw [Option.getD_some, htotal]
    omega

/-- No move leads back. -/
theorem advance_not_before (hi : i.isLeap = false) (d : Duration) :
    (i.advance d).before i = false := by
  have hle := i.total_le_latest
  rw [Bool.eq_false_iff, Ne, before_iff_total_lt (isLeap_advance hi d) hi, total_advance hi]
  omega

/-- Moves one after the other come to one move by their sum. -/
theorem total_foldl_advance (hi : i.isLeap = false) (ds : List Duration) :
    (ds.foldl advance i).isLeap = false ∧
      (ds.foldl advance i).total = min (i.total + (ds.map Duration.nanos).sum) latest := by
  induction ds generalizing i with
  | nil =>
    have hle := i.total_le_latest
    refine ⟨hi, ?_⟩
    simp only [List.foldl_nil, List.map_nil, List.sum_nil]
    omega
  | cons d ds ih =>
    obtain ⟨hleap, htotal⟩ := ih (isLeap_advance hi d)
    rw [List.foldl_cons, List.map_cons, List.sum_cons]
    refine ⟨hleap, ?_⟩
    rw [htotal, total_advance hi]
    omega

/-- Two moves come to one move by their sum. -/
theorem advance_advance (hi : i.isLeap = false) {a b c : Duration}
    (h : c.nanos = a.nanos + b.nanos) : (i.advance a).advance b = i.advance c := by
  obtain ⟨hleap, htotal⟩ := total_foldl_advance hi [a, b]
  refine eq_of_total_eq hleap (isLeap_advance hi c) (htotal.trans ?_)
  rw [total_advance hi, h]
  simp

/-- **Moves of a clock are exact and stop at the last instant.** From an instant outside of a leap
second, the sum with a duration is the instant that many nanoseconds later, and exists exactly when
that does not exceed the last one. A clock shows that sum after a move, or the last instant where
there is no sum, and is never moved back. Two moves lead where one by the sum of their durations
leads, and any number of them leads where the exact sum of all is, or to the last instant. -/
theorem advance_exact_or_last (i : Instant) (hi : i.isLeap = false) :
    (∀ (d : Duration) (j : Instant),
      i.add? d = some j ↔ j.isLeap = false ∧ j.total = i.total + d.nanos) ∧
    (∀ d : Duration, (∃ j, i.add? d = some j) ↔ i.total + d.nanos ≤ latest) ∧
    (∀ d : Duration, (i.advance d).isLeap = false ∧
      (i.advance d).total = min (i.total + d.nanos) latest ∧ (i.advance d).before i = false) ∧
    (∀ a b c : Duration, c.nanos = a.nanos + b.nanos → (i.advance a).advance b = i.advance c) ∧
    ∀ ds : List Duration, (ds.foldl advance i).isLeap = false ∧
      (ds.foldl advance i).total = min (i.total + (ds.map Duration.nanos).sum) latest :=
  ⟨fun _ _ => add?_eq_some_iff hi, fun _ => exists_add?_iff hi,
    fun d => ⟨isLeap_advance hi d, total_advance hi d, advance_not_before hi d⟩,
    fun _ _ _ => advance_advance hi, total_foldl_advance hi⟩

/-- A move that carries into the seconds, and one more that leads beyond the last instant. -/
theorem advance_exact_or_last_carry :
    let i : Instant := ⟨8210266876700, 999999999, by decide, by decide, by decide⟩
    let a : Duration := ⟨50000000001, by decide⟩
    let b : Duration := ⟨49000000000, by decide⟩
    let c : Duration := ⟨99000000001, by decide⟩
    i.isLeap = false ∧ c.nanos = a.nanos + b.nanos ∧ latest < i.total + c.nanos ∧
      (i.advance a).total = 8210266876751000000000 ∧ (i.advance a).advance b = i.advance c ∧
      (i.advance c).total = latest := by
  intro i a b c
  have hi : i.isLeap = false := by decide
  have hsum : c.nanos = a.nanos + b.nanos := by decide
  obtain ⟨-, -, hmove, hmoves, -⟩ := advance_exact_or_last i hi
  have hcarry : (i.advance a).total = 8210266876751000000000 := (hmove a).2.1.trans (by decide)
  have hlast : (i.advance c).total = latest := (hmove c).2.1.trans (by decide)
  exact ⟨hi, hsum, by decide, hcarry, hmoves a b c hsum, hlast⟩

end Instant

end KeyedState

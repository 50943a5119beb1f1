import KeyedState.Settings.Layer

/-!
# Times in layers of settings

A layer holds integers of the signed range. A time beyond that range is held as a floating-point
number, of which there is one for each 2048 integers, so what is read from the layer is the nearest
multiple of 2048, a half going to the even one, or the largest integer
(`Setting.toU64?_ofJson_int`). A time is kept exactly when it is in the signed range, such a
multiple, or the largest integer (`U64.inLayer_eq_self_iff`).
-/

namespace KeyedState

/-! ## Integers as floating-point numbers -/

namespace Binary64

/-- A quotient is rounded down where not more than a half is left, and up where not less is. -/
theorem roundHalfEven_cases (num den : Nat) :
    roundHalfEven num den = num / den ∧ 2 * (num % den) ≤ den ∨
      roundHalfEven num den = num / den + 1 ∧ den ≤ 2 * (num % den) := by
  simp only [roundHalfEven]
  split
  · rename_i hdown
    exact .inl ⟨rfl, Nat.le_of_lt hdown⟩
  · rename_i hup
    split
    · exact .inr ⟨rfl, Nat.le_of_not_lt hup⟩
    · rename_i hdown
      split
      · exact .inl ⟨rfl, Nat.le_of_not_lt hdown⟩
      · exact .inr ⟨rfl, Nat.le_of_not_lt hup⟩

/-- A number whose exponent is not negative is a natural number. -/
theorem roundedMagnitude_eq {x : Binary64} {k : Nat} (h : x.exponent = k) :
    x.roundedMagnitude = x.significand * Nat.pow 2 k := by
  have hnum : x.num = x.significand * Nat.pow 2 k := by
    rw [num, h]
    rfl
  have hden : x.den = 1 := by
    rw [den, h, Int.toNat_neg_natCast]
  rw [roundedMagnitude, hnum, hden]
  omega

/-- An integer of 64 bits is rounded to a multiple of 2048. -/
theorem exists_ofRatio?_of_maxI64_lt {n : Nat} (hlow : maxI64 < n) (hhigh : n ≤ maxU64) :
    ∃ x, ofRatio? false n 1 = some x ∧ x.negative = false ∧
      x.roundedMagnitude = 2048 * roundHalfEven n 2048 := by
  simp only [maxI64, maxU64] at hlow hhigh
  have hne : n ≠ 0 := by omega
  have hlog : n.log2 = 63 := (Nat.log2_eq_iff hne).2 ⟨by omega, by omega⟩
  have hnum : scaledNum n 11 = n := Nat.mul_one n
  have hden : scaledDen 1 11 = 2048 := rfl
  have hexponent : exponentOf n 1 = 11 := by
    have hfull : ¬ n / 2048 < leastFull := by
      simp only [leastFull]
      omega
    have hq : ((63 : Nat) : Int) - (Nat.log2 1 : Nat) - 52 = 11 := rfl
    simp only [exponentOf, hlog, hq, hnum, hden, if_neg hfull]
    rfl
  have hround := roundHalfEven_cases n 2048
  simp only [ofRatio?, if_neg hne, hexponent, hnum, hden]
  -- a significand that is rounded up to the next power of two moves into the exponent
  by_cases hcarry : roundHalfEven n 2048 = 2 * leastFull
  · have hcanonical : Canonical leastFull 12 := by decide
    refine ⟨⟨false, leastFull, 12, hcanonical⟩, ?_, rfl, ?_⟩
    · simp [hcarry, hcanonical]
    · rw [roundedMagnitude_eq (k := 12) rfl, hcarry]
      show leastFull * Nat.pow 2 12 = 2048 * (2 * leastFull)
      decide
  · have hcanonical : Canonical (roundHalfEven n 2048) 11 := by
      simp only [leastFull] at hcarry
      refine .inr ?_
      simp only [leastFull]
      omega
    refine ⟨⟨false, roundHalfEven n 2048, 11, hcanonical⟩, ?_, rfl, ?_⟩
    · simp [hcarry, hcanonical]
    · rw [roundedMagnitude_eq (k := 11) rfl]
      exact Nat.mul_comm (roundHalfEven n 2048) (Nat.pow 2 11)

end Binary64

/-! ## Times -/

namespace U64

/-- An integer as a layer holds it: what is beyond the signed range becomes the nearest multiple of
2048, but not more than the largest integer. -/
def inLayer (n : U64) : U64 :=
  if n.val ≤ maxI64 then n
  else ⟨min maxU64 (2048 * Binary64.roundHalfEven n.val 2048),
    Nat.lt_succ_of_le (Nat.min_le_left ..)⟩

/-- The integers that a layer keeps. -/
theorem inLayer_eq_self_iff {n : U64} :
    n.inLayer = n ↔ n.val ≤ maxI64 ∨ 2048 ∣ n.val ∨ n.val = maxU64 := by
  have hn := n.isLt
  rw [inLayer]
  split
  · rename_i hle
    exact iff_of_true rfl (.inl hle)
  · rename_i hbeyond
    have hround := Binary64.roundHalfEven_cases n.val 2048
    simp only [Fin.ext_iff, maxU64, maxI64, Nat.dvd_iff_mod_eq_zero] at hbeyond ⊢
    omega

/-- What is too large is replaced by the largest integer. -/
theorem val_getD_ofInt? (m : Nat) : ((ofInt? (m : Int)).getD largest).val = min maxU64 m := by
  unfold ofInt?
  split
  · rename_i hfits
    simp only [maxU64, Option.getD_some, Int.toNat_natCast] at hfits ⊢
    omega
  · rename_i hlarge
    simp only [largest, maxU64, Option.getD_none, Int.toNat_natCast] at hlarge ⊢
    omega

end U64

/-- What is read from a layer that holds an unsigned integer. -/
theorem Setting.toU64?_ofJson_int (n : U64) :
    (ofJson (.int n.val)).toU64? = some n.inLayer := by
  have hn := n.isLt
  by_cases hle : n.val ≤ maxI64
  · have hint : (n.val : Int) ≤ maxI64 := Int.ofNat_le.2 hle
    rw [ofJson, if_pos hint, toU64?, U64.ofInt?_eq_some_iff, U64.inLayer, if_pos hle]
  · have hint : ¬ (n.val : Int) ≤ maxI64 := fun h => hle (Int.ofNat_le.1 h)
    have hmax : n.val ≤ maxU64 := Nat.le_of_lt_succ hn
    obtain ⟨x, hx, hpositive, hmagnitude⟩ :=
      Binary64.exists_ofRatio?_of_maxI64_lt (Nat.lt_of_not_le hle) hmax
    rw [ofJson, if_neg hint, Int.toNat_natCast, hx, Option.getD_some, toU64?, FloatSetting.toU64,
      hpositive, hmagnitude, if_neg Bool.false_ne_true, U64.inLayer, if_neg hle]
    exact congrArg some (Fin.ext (U64.val_getD_ofInt? _))

end KeyedState

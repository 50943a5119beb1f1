import KeyedState.Decimal.Layout
import KeyedState.Proofs.Decimal.Spelling
import KeyedState.Text.Blank

/-!
# Characters of written numbers

The text of a number is made of digits, signs, the point and the letter of the power of ten
(`isNumeral_toString_int`, `Binary64.isNumeral_render`). None of them is blank.
-/

namespace KeyedState

/-- The characters of written numbers. -/
def IsNumeral (c : Char) : Prop := c.isDigit = true ∨ c ∈ ['-', '+', '.', 'e']

theorem isNumeral_of_mem_toDigits {n : Nat} : ∀ c ∈ Nat.toDigits 10 n, IsNumeral c :=
  fun c hc => .inl (Integer.isDigit_of_mem_toDigits c hc)

theorem isNumeral_toString_nat (n : Nat) : ∀ c ∈ (toString n).toList, IsNumeral c := by
  rw [Nat.toString_eq_ofList_toDigits, String.toList_ofList]
  exact isNumeral_of_mem_toDigits

theorem isNumeral_toString_int (n : Int) : ∀ c ∈ (toString n).toList, IsNumeral c := by
  cases n with
  | ofNat n => exact isNumeral_toString_nat n
  | negSucc n =>
    rw [show toString (Int.negSucc n) = "-" ++ toString (n + 1) from rfl, String.toList_append]
    refine List.forall_mem_append.2 ⟨?_, isNumeral_toString_nat (n + 1)⟩
    simp [IsNumeral]

namespace Decimal

theorem isNumeral_replicate_zero (n : Nat) : ∀ c ∈ List.replicate n '0', IsNumeral c := by
  intro c hc
  rw [List.eq_of_mem_replicate hc]
  exact .inl (by decide)

theorem isNumeral_positional (pointZero : Bool) (d : Decimal) :
    ∀ c ∈ (d.positional pointZero).toList, IsNumeral c := by
  have hdigits := isNumeral_of_mem_toDigits (n := d.digits)
  have hzeros := isNumeral_replicate_zero
  unfold positional
  split
  · rw [String.toList_append, String.toList_ofList]
    refine List.forall_mem_append.2 ⟨List.forall_mem_append.2 ⟨hdigits, hzeros _⟩, ?_⟩
    cases pointZero <;> simp [IsNumeral]
  · -- cutting the digits at the point leaves each of them in a part
    have hall := List.forall_mem_append.2
      ⟨hzeros ((-d.exponent).toNat + 1 - (Nat.toDigits 10 d.digits).length), hdigits⟩
    simp only [List.splitAt_eq, String.toList_append, String.toList_ofList]
    refine List.forall_mem_append.2 ⟨List.forall_mem_append.2 ⟨?_, ?_⟩, ?_⟩
    · exact fun c hc => hall c (List.mem_of_mem_take hc)
    · simp [IsNumeral]
    · exact fun c hc => hall c (List.mem_of_mem_drop hc)

theorem isNumeral_scientific (d : Decimal) : ∀ c ∈ d.scientific.toList, IsNumeral c := by
  have hdigits := isNumeral_of_mem_toDigits (n := d.digits)
  unfold scientific
  simp only [String.toList_append]
  refine List.forall_mem_append.2 ⟨List.forall_mem_append.2 ⟨List.forall_mem_append.2 ⟨?_, ?_⟩, ?_⟩,
    isNumeral_toString_nat _⟩
  · split <;> simp_all [IsNumeral]
  · simp [IsNumeral]
  · split <;> simp [IsNumeral]

theorem isNumeral_render (n : Layout) (d : Decimal) : ∀ c ∈ (d.render n).toList, IsNumeral c := by
  dsimp only [render]
  split
  · exact isNumeral_positional _ d
  · exact isNumeral_scientific d

end Decimal

theorem Binary64.isNumeral_render (n : Decimal.Layout) (x : Binary64) :
    ∀ c ∈ (x.render n).toList, IsNumeral c := by
  unfold render
  rw [String.toList_append]
  refine List.forall_mem_append.2 ⟨?_, ?_⟩
  · split <;> simp [IsNumeral]
  · split
    · split <;> simp [IsNumeral]
    · exact Decimal.isNumeral_render n _

theorem IsNumeral.not_blank {c : Char} (h : IsNumeral c) : isBlank c = false := by
  rcases h with h | h
  · have hlow : 48 ≤ c.toNat := by
      simp only [Char.isDigit, Bool.and_eq_true, decide_eq_true_eq] at h
      exact h.1
    have hhigh : c.toNat ≤ 57 := by
      simp only [Char.isDigit, Bool.and_eq_true, decide_eq_true_eq] at h
      exact h.2
    simp [isBlank]
    omega
  · simp only [List.mem_cons, List.not_mem_nil, or_false] at h
    rcases h with rfl | rfl | rfl | rfl
    all_goals decide

/-- No blank stands around a written integer. -/
theorem trimBlank_toString (n : Int) : trimBlank (toString n) = toString n := by
  rw [trimBlank, trimBlankChars_of_forall fun c hc => (isNumeral_toString_int n c hc).not_blank,
    String.ofList_toList]

end KeyedState

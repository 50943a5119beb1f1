import KeyedState.Proofs.Decimal.Numeral
import KeyedState.Proofs.Decimal.Spelling
import KeyedState.Proofs.Except

/-!
# Integers that texts denote

A text denotes an integer if it is one or more digits with an optional sign before them
(`Integer.Denotes`), and then it denotes no other one (`Integer.Denotes.unique`). An integer in range
is read from exactly the texts that denote it (`readU64_eq_ok_iff_denotes`, `readI64_eq_ok_iff`). The
text that is written for an integer denotes it (`Integer.denotes_toString`). Where blanks are removed
first, the texts are those that denote the integer between blanks (`Integer.DenotesTrimmed`).
-/

namespace KeyedState

namespace Integer

/-! ## Digits -/

/-- Characters are one or more ASCII digits, and this is their decimal value. -/
structure IsDecimal (cs : List Char) (n : Nat) : Prop where
  ne_nil : cs ≠ []
  isDigit : ∀ c ∈ cs, c.isDigit = true
  value : Nat.ofDigitChars 10 cs 0 = n

theorem isDigit_of_digit? {c : Char} {d : Nat} (h : digit? c = some d) :
    c.isDigit = true ∧ d = c.toNat - 48 := by
  unfold digit? at h
  split at h
  · rename_i hc
    cases h
    refine ⟨?_, rfl⟩
    simp only [Char.isDigit, Bool.and_eq_true, decide_eq_true_eq]
    exact hc
  · cases h

theorem mapM_digit?_eq_some_iff {cs : List Char} {ds : List Nat} :
    cs.mapM digit? = some ds ↔
      (∀ c ∈ cs, c.isDigit = true) ∧ ds = cs.map fun c => c.toNat - 48 := by
  constructor
  · intro h
    induction cs generalizing ds with
    | nil =>
      cases h
      exact ⟨List.forall_mem_nil _, rfl⟩
    | cons c cs ih =>
      obtain ⟨d, hd, rest, hrest, rfl⟩ : ∃ d, digit? c = some d ∧
          ∃ rest, cs.mapM digit? = some rest ∧ d :: rest = ds := by
        simpa [List.mapM_cons, Option.bind_eq_some_iff] using h
      obtain ⟨hc, rfl⟩ := isDigit_of_digit? hd
      obtain ⟨hcs, rfl⟩ := ih hrest
      exact ⟨List.forall_mem_cons.2 ⟨hc, hcs⟩, rfl⟩
  · rintro ⟨hcs, rfl⟩
    exact mapM_digit?_of_isDigit hcs

theorem valueAfter_map (cs : List Char) :
    valueAfter 0 (cs.map fun c => c.toNat - 48) = Nat.ofDigitChars 10 cs 0 := by
  rw [Nat.ofDigitChars_eq_foldl, valueAfter, List.foldl_map]
  rfl

theorem isDecimal_iff {cs : List Char} {n : Nat} :
    IsDecimal cs n ↔ cs ≠ [] ∧ ∃ ds, cs.mapM digit? = some ds ∧ valueAfter 0 ds = n := by
  constructor
  · intro h
    exact ⟨h.ne_nil, _, mapM_digit?_of_isDigit h.isDigit, by rw [valueAfter_map, h.value]⟩
  · rintro ⟨hne, ds, hds, hn⟩
    obtain ⟨hdigits, rfl⟩ := mapM_digit?_eq_some_iff.1 hds
    exact ⟨hne, hdigits, by rw [← valueAfter_map, hn]⟩

/-- Digits are read as their value, if that is in range. -/
theorem map_readDigits_eq_ok_iff {limit : Nat} {overflow : IntegerFault} {cs : List Char}
    (hne : cs ≠ []) {f : Nat → Int} {n : Int} :
    ((readDigits limit overflow 0 (Nat.zero_le _) cs).map fun m => f m.val) = .ok n ↔
      ∃ m, IsDecimal cs m ∧ m ≤ limit ∧ n = f m := by
  constructor
  · intro h
    obtain ⟨m, hm, rfl⟩ := exists_of_map_eq_ok h
    exact ⟨m.val, isDecimal_iff.2 ⟨hne, readDigits_eq_ok_iff.1 hm⟩, m.property, rfl⟩
  · rintro ⟨m, hm, hlimit, rfl⟩
    rw [readDigits_eq_ok_iff (n := ⟨m, hlimit⟩).2 (isDecimal_iff.1 hm).2, map_ok]

/-! ## Signs -/

/-- Whether a minus sign is taken. -/
inductive Signedness where
  /-- Only a plus sign is. -/
  | unsigned
  /-- Either sign is. -/
  | signed

/-- Characters denote an integer: its digits, with an optional sign before them. -/
inductive Denotes (s : Signedness) : List Char → Int → Prop where
  | digits {cs : List Char} {n : Nat} (h : IsDecimal cs n) : Denotes s cs n
  | plus {cs : List Char} {n : Nat} (h : IsDecimal cs n) : Denotes s ('+' :: cs) n
  | minus {cs : List Char} {n : Nat} (hs : s = .signed) (h : IsDecimal cs n) :
    Denotes s ('-' :: cs) (-n)

variable {s : Signedness} {cs : List Char} {n : Int}

theorem IsDecimal.ne_cons {m : Nat} (h : IsDecimal cs m) {c : Char} (hc : c.isDigit = false)
    (cs' : List Char) : cs ≠ c :: cs' := by
  rintro rfl
  have := h.isDigit c List.mem_cons_self
  rw [hc] at this
  cases this

theorem denotes_plus_iff : Denotes s ('+' :: cs) n ↔ ∃ m, IsDecimal cs m ∧ n = m := by
  constructor
  · intro h
    cases h with
    | digits h => exact absurd rfl (h.ne_cons (by decide) cs)
    | plus h => exact ⟨_, h, rfl⟩
  · rintro ⟨m, hm, rfl⟩
    exact .plus hm

theorem denotes_minus_iff :
    Denotes s ('-' :: cs) n ↔ s = .signed ∧ ∃ m, IsDecimal cs m ∧ n = -m := by
  constructor
  · intro h
    cases h with
    | digits h => exact absurd rfl (h.ne_cons (by decide) cs)
    | minus hs h => exact ⟨hs, _, h, rfl⟩
  · rintro ⟨hs, m, hm, rfl⟩
    exact .minus hs hm

theorem denotes_iff_isDecimal (hplus : ∀ cs', cs ≠ '+' :: cs') (hminus : ∀ cs', cs ≠ '-' :: cs') :
    Denotes s cs n ↔ ∃ m, IsDecimal cs m ∧ n = m := by
  constructor
  · intro h
    cases h with
    | digits h => exact ⟨_, h, rfl⟩
    | plus h => exact absurd rfl (hplus _)
    | minus _ h => exact absurd rfl (hminus _)
  · rintro ⟨m, hm, rfl⟩
    exact .digits hm

/-- Characters denote one integer at most. -/
theorem Denotes.unique {n' : Int} (h : Denotes s cs n) (h' : Denotes s cs n') :
    n = n' := by
  cases h with
  | digits h =>
    -- no sign is a digit
    rw [denotes_iff_isDecimal (h.ne_cons (by decide)) (h.ne_cons (by decide))] at h'
    obtain ⟨m, hm, rfl⟩ := h'
    rw [← h.value, hm.value]
  | plus h =>
    obtain ⟨m, hm, rfl⟩ := denotes_plus_iff.1 h'
    rw [← h.value, hm.value]
  | minus _ h =>
    obtain ⟨-, m, hm, rfl⟩ := denotes_minus_iff.1 h'
    rw [← h.value, hm.value]

/-- Where a minus sign is taken, so is all else. -/
theorem Denotes.toSigned (h : Denotes s cs n) : Denotes .signed cs n := by
  cases h with
  | digits h => exact .digits h
  | plus h => exact .plus h
  | minus _ h => exact .minus rfl h

theorem Denotes.nonneg (h : Denotes .unsigned cs n) : 0 ≤ n := by
  cases h with
  | digits h => exact Int.natCast_nonneg _
  | plus h => exact Int.natCast_nonneg _
  | minus hs => cases hs

/-- The spellings of a natural are what denotes it without a minus sign. -/
theorem spells_iff_denotes {text : String} {m : Nat} :
    Spells text m ↔ Denotes .unsigned text.toList m := by
  simp only [Spells, ← valueAfter_zero]
  constructor
  · rintro ⟨cs, ds, htext, hne, hds⟩
    have hm : IsDecimal cs m := isDecimal_iff.2 ⟨hne, ds, hds⟩
    rcases htext with htext | htext
    · exact htext ▸ .digits hm
    · exact htext ▸ .plus hm
  · intro h
    -- the cases speak of any characters and any integer
    generalize htext : text.toList = cs at h
    generalize hn : (m : Int) = n at h
    cases h with
    | digits h =>
      cases Int.ofNat.inj hn
      obtain ⟨hne, ds, hds⟩ := isDecimal_iff.1 h
      exact ⟨cs, ds, .inl rfl, hne, hds⟩
    | plus h =>
      cases Int.ofNat.inj hn
      obtain ⟨hne, ds, hds⟩ := isDecimal_iff.1 h
      exact ⟨_, ds, .inr rfl, hne, hds⟩
    | minus hs => cases hs

/-- A natural of a signed range is bounded on one side only. -/
theorem exists_isDecimal_le_iff {limit : Nat} :
    (∃ m, IsDecimal cs m ∧ m ≤ limit ∧ n = m) ↔
      (∃ m, IsDecimal cs m ∧ n = m) ∧ -(limit + 1 : Int) ≤ n ∧ n ≤ limit := by
  constructor
  · rintro ⟨m, hm, hlimit, rfl⟩
    exact ⟨⟨m, hm, rfl⟩, by omega, by omega⟩
  · rintro ⟨⟨m, hm, rfl⟩, -, hlimit⟩
    exact ⟨m, hm, by omega, rfl⟩

/-- The integers of a range are read from what denotes them. -/
theorem readInt_eq_ok_iff {limit : Nat} :
    readInt limit cs = .ok n ↔ Denotes .signed cs n ∧ -(limit + 1 : Int) ≤ n ∧ n ≤ limit := by
  rw [readInt.eq_def]
  split
  -- nothing and a sign alone denote no integer
  · refine iff_of_false (fun h => by cases h) fun ⟨h, _⟩ => ?_
    cases h with
    | digits h => exact h.ne_nil rfl
  · refine iff_of_false (fun h => by cases h) fun ⟨h, _⟩ => ?_
    obtain ⟨m, hm, -⟩ := denotes_plus_iff.1 h
    exact hm.ne_nil rfl
  · refine iff_of_false (fun h => by cases h) fun ⟨h, _⟩ => ?_
    obtain ⟨-, m, hm, -⟩ := denotes_minus_iff.1 h
    exact hm.ne_nil rfl
  -- digits are read behind either sign, with one more value behind a minus sign, and without one
  · rename_i cs hne
    rw [map_readDigits_eq_ok_iff (fun h => hne (h ▸ rfl)) (f := fun m => m),
      exists_isDecimal_le_iff, denotes_plus_iff]
  · rename_i cs hne
    rw [map_readDigits_eq_ok_iff (fun h => hne (h ▸ rfl)) (f := fun m => -m), denotes_minus_iff]
    constructor
    · rintro ⟨m, hm, hlimit, rfl⟩
      exact ⟨⟨rfl, m, hm, rfl⟩, by omega, by omega⟩
    · rintro ⟨⟨-, m, hm, rfl⟩, hlimit, -⟩
      exact ⟨m, hm, by omega, rfl⟩
  · rename_i hne _ _ hplus hminus
    rw [map_readDigits_eq_ok_iff hne (f := fun m => m), exists_isDecimal_le_iff,
      denotes_iff_isDecimal hplus hminus]

/-- What is written for an integer denotes it. -/
theorem denotes_toString (n : Int) : Denotes .signed (toString n).toList n := by
  have hread : readInt n.natAbs (toString n).toList = .ok n :=
    readInt_toString (by omega) (by omega)
  exact (readInt_eq_ok_iff.1 hread).1

/-- What is written for an integer denotes that one only. -/
theorem denotes_signed_toString_iff {m : Int} :
    Denotes .signed (toString n).toList m ↔ m = n := by
  constructor
  · intro h
    exact h.unique (denotes_toString n)
  · rintro rfl
    exact denotes_toString m

/-- What is written for an integer denotes a natural only if it is one. -/
theorem denotes_unsigned_toString_iff {m : Int} :
    Denotes .unsigned (toString n).toList m ↔ m = n ∧ 0 ≤ n := by
  constructor
  · intro h
    cases denotes_signed_toString_iff.1 h.toSigned
    exact ⟨rfl, h.nonneg⟩
  · rintro ⟨rfl, hm⟩
    obtain ⟨k, rfl⟩ := Int.eq_ofNat_of_zero_le hm
    exact spells_iff_denotes.1 (spells_toString k)

/-! ## Blanks around -/

/-- A text denotes an integer when the blanks at its ends are removed. -/
def DenotesTrimmed (s : Signedness) (text : String) (n : Int) : Prop :=
  ∃ core, TrimsTo text.toList core ∧ Denotes s core n

theorem denotes_trimBlank_iff {text : String} :
    Denotes s (trimBlank text).toList n ↔ DenotesTrimmed s text n := by
  rw [trimBlank, String.toList_ofList]
  constructor
  · intro h
    exact ⟨_, trimBlankChars_eq_iff.1 rfl, h⟩
  · rintro ⟨core, hcore, h⟩
    rwa [trimBlankChars_eq_iff.2 hcore]

theorem denotesTrimmed_toString_iff {m : Int} :
    DenotesTrimmed s (toString n) m ↔ Denotes s (toString n).toList m := by
  rw [← denotes_trimBlank_iff, trimBlank_toString]

end Integer

/-! ## Integers of 64 bits -/

theorem readU64_eq_ok_iff_denotes {text : String} {n : U64} :
    readU64 text = .ok n ↔ Integer.Denotes .unsigned text.toList n.val := by
  rw [readU64_eq_ok_iff, Integer.spells_iff_denotes]

theorem readI64_eq_ok_iff {text : String} {n : Int} :
    readI64 text = .ok n ↔ Integer.Denotes .signed text.toList n ∧ -2 ^ 63 ≤ n ∧ n < 2 ^ 63 := by
  rw [readI64, Integer.readInt_eq_ok_iff]
  unfold maxI64
  refine and_congr_right fun _ => ?_
  omega

end KeyedState

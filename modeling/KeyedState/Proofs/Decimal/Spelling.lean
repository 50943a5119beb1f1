import KeyedState.Decimal.Integer
import Mathlib.Data.List.Induction
import Mathlib.Data.Nat.Digits.Defs

/-!
# Spellings of naturals

The texts that are read as a natural: an optional plus sign and one or more digits, with any number
of zeros in front (`Integer.Spells`). A natural of 64 bits is read from exactly the texts that spell
it, so it has many spellings. The form in which a number is written is one of them
(`readU64_toString`, `Integer.readInt_toString`), and a number that is out of range is not read from
it (`readI64_toString_of_lt`).
-/

namespace KeyedState

namespace Integer

/-- A text spells a natural: after an optional plus sign stand one or more digits whose value it
is. -/
def Spells (text : String) (n : Nat) : Prop :=
  ∃ cs ds, (text.toList = cs ∨ text.toList = '+' :: cs) ∧ cs ≠ [] ∧ cs.mapM digit? = some ds ∧
    Nat.ofDigits 10 ds.reverse = n

/-- The value of digits behind a prefix of value `acc`. -/
def valueAfter (acc : Nat) (ds : List Nat) : Nat := ds.foldl (fun n d => 10 * n + d) acc

theorem le_valueAfter (acc : Nat) (ds : List Nat) : acc ≤ valueAfter acc ds := by
  induction ds generalizing acc with
  | nil => exact Nat.le_refl acc
  | cons d ds ih =>
    have := ih (10 * acc + d)
    simp only [valueAfter, List.foldl_cons] at this ⊢
    omega

theorem valueAfter_zero (ds : List Nat) : valueAfter 0 ds = Nat.ofDigits 10 ds.reverse := by
  induction ds using List.reverseRecOn with
  | nil => rfl
  | append_singleton ds d ih =>
    rw [List.reverse_append, List.reverse_singleton, List.singleton_append, Nat.ofDigits_cons, ← ih]
    simp only [valueAfter, List.foldl_append, List.foldl_cons, List.foldl_nil]
    omega

/-- Digits are read when their value is in range, which it then is all the way. -/
theorem readDigits_eq_ok_iff {limit acc : Nat} {overflow : IntegerFault} {h : acc ≤ limit}
    {cs : List Char} {n : { n : Nat // n ≤ limit }} :
    readDigits limit overflow acc h cs = .ok n ↔
      ∃ ds, cs.mapM digit? = some ds ∧ valueAfter acc ds = n.val := by
  induction cs generalizing acc with
  | nil =>
    rw [readDigits, List.mapM_nil]
    constructor
    · intro hn
      cases hn
      exact ⟨[], rfl, rfl⟩
    · rintro ⟨ds, hds, hn⟩
      cases hds
      exact congrArg Except.ok (Subtype.ext hn)
  | cons c cs ih =>
    rw [readDigits, List.mapM_cons]
    rcases digit? c with _ | d
    · exact iff_of_false (fun hn => by cases hn) fun ⟨ds, hds, _⟩ => by cases hds
    · have hcons : (∃ ds, (do let d' ← some d; let ds ← cs.mapM digit?; pure (d' :: ds)) = some ds ∧
          valueAfter acc ds = n.val) ↔
          ∃ ds, cs.mapM digit? = some ds ∧ valueAfter (10 * acc + d) ds = n.val := by
        rcases cs.mapM digit? with _ | ds
        · exact iff_of_false (fun ⟨_, h, _⟩ => by cases h) fun ⟨_, h, _⟩ => by cases h
        · constructor
          · rintro ⟨_, ⟨⟩, hn⟩
            exact ⟨ds, rfl, hn⟩
          · rintro ⟨_, ⟨⟩, hn⟩
            exact ⟨d :: ds, rfl, hn⟩
      rw [hcons]
      dsimp only
      split
      · exact ih
      · rename_i hlimit
        refine iff_of_false (fun hn => by cases hn) fun ⟨ds, _, hn⟩ => hlimit ?_
        exact Nat.le_trans (le_valueAfter _ ds) (hn ▸ n.property)

/-- Digits are not read when their value is out of range, wherever it gets there. -/
theorem readDigits_of_limit_lt {limit acc : Nat} {overflow : IntegerFault} {h : acc ≤ limit}
    {cs : List Char} {ds : List Nat} (hds : cs.mapM digit? = some ds)
    (hlimit : limit < valueAfter acc ds) :
    readDigits limit overflow acc h cs = .error overflow := by
  induction cs generalizing acc ds with
  | nil =>
    cases hds
    exact absurd h (Nat.not_le.2 hlimit)
  | cons c cs ih =>
    obtain ⟨d, hd, rest, hrest, rfl⟩ : ∃ d, digit? c = some d ∧
        ∃ rest, cs.mapM digit? = some rest ∧ d :: rest = ds := by
      simpa [List.mapM_cons, Option.bind_eq_some_iff] using hds
    rw [readDigits, hd]
    dsimp only
    split
    · exact ih hrest hlimit
    · rfl

/-- The sign is no digit. -/
theorem digit?_plus : digit? '+' = none := by decide

theorem readNat_eq_ok_iff {limit : Nat} {text : String} {n : { n : Nat // n ≤ limit }} :
    readNat limit text.toList = .ok n ↔ Spells text n.val := by
  rw [Spells]
  simp only [← valueAfter_zero]
  generalize text.toList = cs
  rw [readNat.eq_def]
  split
  · refine iff_of_false (fun hn => by cases hn) ?_
    rintro ⟨cs, ds, rfl | h, hne, -⟩
    · exact hne rfl
    · cases h
  · refine iff_of_false (fun hn => by cases hn) ?_
    rintro ⟨cs, ds, rfl | h, hne, hds, -⟩
    · rw [List.mapM_cons, digit?_plus] at hds
      cases hds
    · exact hne (List.cons.inj h).2.symm
  · rename_i cs hcs
    rw [readDigits_eq_ok_iff]
    constructor
    · rintro ⟨ds, hds, hn⟩
      exact ⟨cs, ds, .inr rfl, fun h => hcs (h ▸ rfl), hds, hn⟩
    · rintro ⟨_, ds, rfl | h, _, hds, hn⟩
      · rw [List.mapM_cons, digit?_plus] at hds
        cases hds
      · cases h
        exact ⟨ds, hds, hn⟩
  · rename_i hnil _ hplus
    rw [readDigits_eq_ok_iff]
    constructor
    · rintro ⟨ds, hds, hn⟩
      exact ⟨cs, ds, .inl rfl, hnil, hds, hn⟩
    · rintro ⟨cs', ds, rfl | h, _, hds, hn⟩
      · exact ⟨ds, hds, hn⟩
      · exact absurd h (hplus cs')

theorem digit?_of_isDigit {c : Char} (h : c.isDigit = true) : digit? c = some (c.toNat - 48) := by
  simp only [Char.isDigit, Bool.and_eq_true, decide_eq_true_eq] at h
  exact if_pos h

theorem mapM_digit?_of_isDigit {cs : List Char} (h : ∀ c ∈ cs, c.isDigit = true) :
    cs.mapM digit? = some (cs.map fun c => c.toNat - 48) := by
  induction cs with
  | nil => rfl
  | cons c cs ih =>
    obtain ⟨hc, hcs⟩ := List.forall_mem_cons.1 h
    simp [List.mapM_cons, digit?_of_isDigit hc, ih hcs]

/-! ## Written numbers -/

theorem isDigit_of_mem_toDigits {n : Nat} : ∀ c ∈ Nat.toDigits 10 n, c.isDigit = true :=
  fun _ hc => Nat.isDigit_of_mem_toDigits (by decide) (by decide) hc

/-- The digits that are written for a natural have its value. -/
theorem valueAfter_toDigits (n : Nat) :
    valueAfter 0 ((Nat.toDigits 10 n).map fun c => c.toNat - 48) = n := by
  have h := Nat.ofDigitChars_ten_toDigits (n := n)
  rwa [Nat.ofDigitChars_eq_foldl, ← List.foldl_map] at h

/-- The written form of a natural spells it. -/
theorem spells_toString (n : Nat) : Spells (toString n) n := by
  refine ⟨Nat.toDigits 10 n, _, .inl ?_, Nat.toDigits_ne_nil,
    mapM_digit?_of_isDigit isDigit_of_mem_toDigits, ?_⟩
  · rw [Nat.toString_eq_ofList_toDigits, String.toList_ofList]
  · rw [← valueAfter_zero, valueAfter_toDigits]

theorem readDigits_toDigits {limit n : Nat} (overflow : IntegerFault) (h : n ≤ limit) :
    readDigits limit overflow 0 (Nat.zero_le _) (Nat.toDigits 10 n) = .ok ⟨n, h⟩ :=
  readDigits_eq_ok_iff.2 ⟨_, mapM_digit?_of_isDigit isDigit_of_mem_toDigits, valueAfter_toDigits n⟩

theorem readDigits_toDigits_of_limit_lt {limit n : Nat} (overflow : IntegerFault) (h : limit < n) :
    readDigits limit overflow 0 (Nat.zero_le _) (Nat.toDigits 10 n) = .error overflow :=
  readDigits_of_limit_lt (mapM_digit?_of_isDigit isDigit_of_mem_toDigits)
    (by rwa [valueAfter_toDigits])

/-- Digits have no sign before them. -/
theorem readInt_toString_nat (limit n : Nat) :
    readInt limit (toString n).toList =
      (readDigits limit .tooLarge 0 (Nat.zero_le _) (Nat.toDigits 10 n)).map
        fun m => (m.val : Int) := by
  have hsign : ∀ c cs, Nat.toDigits 10 n = c :: cs → c.isDigit = true := fun c cs h =>
    isDigit_of_mem_toDigits c (h ▸ List.mem_cons_self)
  rw [Nat.toString_eq_ofList_toDigits, String.toList_ofList, readInt]
  · exact Nat.toDigits_ne_nil
  · exact fun h => by cases hsign _ _ h
  · exact fun h => by cases hsign _ _ h
  · exact fun cs h => by cases hsign _ _ h
  · exact fun cs h => by cases hsign _ _ h

/-- The written form of an integer in range is read as that integer. -/
theorem readInt_toString {limit : Nat} {n : Int} (hlow : -(limit + 1 : Int) ≤ n)
    (hhigh : n ≤ limit) : readInt limit (toString n).toList = .ok n := by
  cases n with
  | ofNat n =>
    rw [show toString (Int.ofNat n) = toString n from rfl, readInt_toString_nat,
      readDigits_toDigits .tooLarge (Int.ofNat_le.1 hhigh)]
    rfl
  | negSucc n =>
    have htext : (toString (Int.negSucc n)).toList = '-' :: Nat.toDigits 10 (n + 1) := by
      rw [show toString (Int.negSucc n) = "-" ++ toString (n + 1) from rfl,
        Nat.toString_eq_ofList_toDigits]
      simp
    have hread := readDigits_toDigits .tooSmall (show n + 1 ≤ limit + 1 by omega)
    rw [htext, readInt]
    · rw [hread]
      rfl
    · exact Nat.toDigits_ne_nil

end Integer

theorem readU64_eq_ok_iff {text : String} {n : U64} :
    readU64 text = .ok n ↔ Integer.Spells text n.val := by
  have hn : n.val ≤ maxU64 := Nat.le_of_lt_succ n.isLt
  rw [← Integer.readNat_eq_ok_iff (n := ⟨n.val, hn⟩), readU64]
  rcases Integer.readNat maxU64 text.toList with e | m
  · exact iff_of_false (fun h => by cases h) (fun h => by cases h)
  · constructor
    · intro h
      exact congrArg Except.ok (Subtype.ext (congrArg Fin.val (Except.ok.inj h)))
    · intro h
      exact congrArg Except.ok (Fin.ext (congrArg Subtype.val (Except.ok.inj h)))

/-- A number of 64 bits is read from its written form. -/
theorem readU64_toString (n : U64) : readU64 (toString n.val) = .ok n :=
  readU64_eq_ok_iff.2 (Integer.spells_toString n.val)

/-- The written form of a natural that is too large is not read. -/
theorem readI64_toString_of_lt {n : Nat} (h : maxI64 < n) :
    readI64 (toString n) = .error .tooLarge := by
  rw [readI64, Integer.readInt_toString_nat, Integer.readDigits_toDigits_of_limit_lt .tooLarge h]
  rfl

end KeyedState

import KeyedState.Regex.Basic

/-!
# What a regular expression matches

`Regex.Spans` says between which places of a text an expression matches, by recursion on the
expression, and `Regex.Fits` that it matches the text from its first to its last character. The
matcher computes with sets of places, and it finds the matches that there are
(`Regex.occursIn_iff`).

Where an expression is repeated, the matcher goes on only from places that it has not seen, and
never more often than there are places. This loses no match, since a round that moves on moves
forward, and one that does not may be left out (`Regex.Rounds.shorten`).
-/

namespace KeyedState.Regex

/-! ## Matches -/

/-- So many moves one after the other. -/
def Rounds (move : Nat → Nat → Prop) : Nat → Nat → Nat → Prop
  | 0, i, j => i = j
  | n + 1, i, j => ∃ k, move i k ∧ Rounds move n k j

/-- The character before a place of a text. -/
def charBefore? (text : List Char) : Nat → Option Char
  | 0 => none
  | i + 1 => text[i]?

/-- An expression matches the part of a text between two places. -/
def Spans (text : List Char) : Regex → Nat → Nat → Prop
  | .empty, i, j => i = j
  | .step s, i, j => (∃ c, text[i]? = some c ∧ s.has c = true) ∧ j = i + 1
  | .stay l, i, j => l.holds (charBefore? text i) text[i]? = true ∧ i = j
  | .seq a b, i, j => ∃ k, Spans text a i k ∧ Spans text b k j
  | .alt a b, i, j => Spans text a i j ∨ Spans text b i j
  | .loop r least most, i, j =>
    ∃ n, least ≤ n ∧ (∀ m ∈ most, n ≤ max least m) ∧ Rounds (Spans text r) n i j
  | .group r, i, j => Spans text r i j

/-- An expression matches a text from its first to its last character. -/
def Fits (r : Regex) (text : String) : Prop := Spans text.toList r 0 text.toList.length

/-! ## Rounds -/

variable {move : Nat → Nat → Prop} {n m i j k : Nat}

theorem Rounds.trans (h : Rounds move n i k) (h' : Rounds move m k j) :
    Rounds move (n + m) i j := by
  induction n generalizing i with
  | zero =>
    cases h
    rw [Nat.zero_add]
    exact h'
  | succ n ih =>
    obtain ⟨l, hl, hrest⟩ := h
    rw [Nat.succ_add]
    exact ⟨l, hl, ih hrest⟩

theorem Rounds.split (h : Rounds move (n + m) i j) :
    ∃ k, Rounds move n i k ∧ Rounds move m k j := by
  induction n generalizing i with
  | zero =>
    rw [Nat.zero_add] at h
    exact ⟨i, rfl, h⟩
  | succ n ih =>
    rw [Nat.succ_add] at h
    obtain ⟨l, hl, hrest⟩ := h
    obtain ⟨k, hk, hmore⟩ := ih hrest
    exact ⟨k, ⟨l, hl, hk⟩, hmore⟩

/-- Moves that go forward go forward in all. -/
theorem Rounds.le (hmove : ∀ i j, move i j → i ≤ j) (h : Rounds move n i j) : i ≤ j := by
  induction n generalizing i with
  | zero => exact Nat.le_of_eq h
  | succ n ih =>
    obtain ⟨k, hk, hrest⟩ := h
    exact Nat.le_trans (hmove i k hk) (ih hrest)

/-- Moves that stay between bounds stay there in all. -/
theorem Rounds.bounded {count : Nat} (hmove : ∀ i j, i ≤ count → move i j → j ≤ count)
    (h : Rounds move n i j) (hi : i ≤ count) : j ≤ count := by
  induction n generalizing i with
  | zero =>
    cases h
    exact hi
  | succ n ih =>
    obtain ⟨k, hk, hrest⟩ := h
    exact ih hrest (hmove i k hi hk)

/-- As many rounds as there are places between the first and the last are enough: those that stay
where they are can be left out. -/
theorem Rounds.shorten (hmove : ∀ i j, move i j → i ≤ j) (h : Rounds move n i j) :
    ∃ m, m ≤ n ∧ m ≤ j - i ∧ Rounds move m i j := by
  induction n generalizing i with
  | zero =>
    cases h
    exact ⟨0, Nat.le_refl 0, Nat.zero_le _, rfl⟩
  | succ n ih =>
    obtain ⟨k, hk, hrest⟩ := h
    obtain ⟨m, hmn, hmj, hm⟩ := ih hrest
    rcases Nat.eq_or_lt_of_le (hmove i k hk) with rfl | hlt
    · exact ⟨m, Nat.le_succ_of_le hmn, hmj, hm⟩
    · have hkj := hrest.le hmove
      exact ⟨m + 1, Nat.succ_le_succ hmn, by omega, k, hk, hm⟩

/-! ## Sets of places -/

/-- All places of a set are at most the given one. -/
def Within (count places : Nat) : Prop := ∀ i, places.testBit i = true → i ≤ count

/-- A function on sets of places gives the places to which moves lead. -/
def Leads (count : Nat) (move : Nat → Nat → Prop) (f : Nat → Nat) : Prop :=
  ∀ places, Within count places →
    ∀ j, (f places).testBit j = true ↔ ∃ i, places.testBit i = true ∧ move i j

variable {count places : Nat} {f : Nat → Nat}

theorem Leads.within (h : Leads count move f)
    (hmove : ∀ i j, i ≤ count → move i j → j ≤ count) (hplaces : Within count places) :
    Within count (f places) := by
  intro j hj
  obtain ⟨i, hi, hij⟩ := (h places hplaces j).1 hj
  exact hmove i j (hplaces i hi) hij

theorem repeatTimes_of_eq (h : f places = places) (n : Nat) : repeatTimes f n places = places := by
  cases n with
  | zero => rfl
  | succ n => exact if_pos h

/-- To stop early makes no difference. -/
theorem repeatTimes_succ (f : Nat → Nat) (n places : Nat) :
    repeatTimes f (n + 1) places = repeatTimes f n (f places) := by
  by_cases h : f places = places
  · rw [repeatTimes_of_eq h, h, repeatTimes_of_eq h]
  · exact if_neg h

theorem Leads.repeatTimes (h : Leads count move f)
    (hmove : ∀ i j, i ≤ count → move i j → j ≤ count) (n : Nat) :
    Leads count (Rounds move n) (repeatTimes f n) := by
  induction n with
  | zero =>
    intro places _ j
    simp [Regex.repeatTimes, Rounds]
  | succ n ih =>
    intro places hplaces j
    rw [repeatTimes_succ, ih _ (h.within hmove hplaces)]
    constructor
    · rintro ⟨k, hk, hrest⟩
      obtain ⟨i, hi, hik⟩ := (h places hplaces k).1 hk
      exact ⟨i, hi, k, hik, hrest⟩
    · rintro ⟨i, hi, k, hik, hrest⟩
      exact ⟨k, (h places hplaces k).2 ⟨i, hi, hik⟩, hrest⟩

/-- The bits of one number that another one lacks. -/
theorem testBit_fresh (next reached i : Nat) :
    (next ^^^ (next &&& reached)).testBit i = (next.testBit i && !reached.testBit i) := by
  rw [Nat.testBit_xor, Nat.testBit_and]
  cases next.testBit i <;> cases reached.testBit i <;> rfl

/-- A set that moves do not leave is not left in several rounds either. -/
theorem Rounds.closed {P : Nat → Prop} (hclosed : ∀ i, P i → ∀ j, move i j → P j)
    (h : Rounds move n i j) (hi : P i) : P j := by
  induction n generalizing i with
  | zero =>
    cases h
    exact hi
  | succ n ih =>
    obtain ⟨k, hk, hrest⟩ := h
    exact ih hrest (hclosed i hi k hk)

/-- The places that the matcher has reached, of which those not in the frontier have had their
moves. It finds what can be reached from them by so many moves more. -/
theorem Leads.spread (h : Leads count move f)
    (hmove : ∀ i j, i ≤ count → move i j → j ≤ count) (n : Nat) {reached frontier : Nat}
    (hreached : Within count reached)
    (hfrontier : ∀ i, frontier.testBit i = true → reached.testBit i = true)
    (hclosed : ∀ i, reached.testBit i = true → frontier.testBit i = false →
      ∀ j, move i j → reached.testBit j = true) (j : Nat) :
    (spread f n reached frontier).testBit j = true ↔
      ∃ i, reached.testBit i = true ∧ ∃ k, k ≤ n ∧ Rounds move k i j := by
  induction n generalizing reached frontier with
  | zero =>
    rw [Regex.spread]
    constructor
    · intro hj
      exact ⟨j, hj, 0, Nat.le_refl 0, rfl⟩
    · rintro ⟨i, hi, k, hk, hrounds⟩
      cases Nat.le_zero.1 hk
      cases hrounds
      exact hi
  | succ n ih =>
    rw [Regex.spread]
    split
    · rename_i hempty
      have hleft : ∀ i, reached.testBit i = true → ∀ j, move i j → reached.testBit j = true := by
        intro i hi
        exact hclosed i hi (by rw [hempty, Nat.zero_testBit])
      constructor
      · intro hj
        exact ⟨j, hj, 0, Nat.zero_le _, rfl⟩
      · rintro ⟨i, hi, k, -, hrounds⟩
        exact hrounds.closed hleft hi
    · have hnext := h frontier fun i hi => hreached i (hfrontier i hi)
      generalize f frontier = next at hnext
      have hmore : ∀ i, (reached ||| (next ^^^ (next &&& reached))).testBit i = true ↔
          reached.testBit i = true ∨ next.testBit i = true := by
        intro i
        rw [Nat.testBit_or, testBit_fresh]
        cases reached.testBit i <;> simp
      -- the places that are new are the new frontier
      have hstep : ∀ i, reached.testBit i = true → ∀ j, move i j →
          reached.testBit j = true ∨ next.testBit j = true := by
        intro i hi j hij
        rcases hfront : frontier.testBit i with _ | _
        · exact .inl (hclosed i hi hfront j hij)
        · exact .inr ((hnext j).2 ⟨i, hfront, hij⟩)
      rw [ih]
      · constructor
        · rintro ⟨i, hi, k, hk, hrounds⟩
          rcases (hmore i).1 hi with hi | hi
          · exact ⟨i, hi, k, Nat.le_succ_of_le hk, hrounds⟩
          · obtain ⟨i₀, hi₀, hmoved⟩ := (hnext i).1 hi
            exact ⟨i₀, hfrontier i₀ hi₀, k + 1, Nat.succ_le_succ hk, i, hmoved, hrounds⟩
        · rintro ⟨i, hi, k, hk, hrounds⟩
          cases k with
          | zero => exact ⟨i, (hmore i).2 (.inl hi), 0, Nat.zero_le _, hrounds⟩
          | succ k =>
            obtain ⟨i₁, hmoved, hrounds⟩ := hrounds
            exact ⟨i₁, (hmore i₁).2 (hstep i hi i₁ hmoved), k, Nat.le_of_succ_le_succ hk, hrounds⟩
      · intro i hi
        rcases (hmore i).1 hi with hi | hi
        · exact hreached i hi
        · obtain ⟨i₀, hi₀, hmoved⟩ := (hnext i).1 hi
          exact hmove i₀ i (hreached i₀ (hfrontier i₀ hi₀)) hmoved
      · intro i hi
        rw [testBit_fresh, Bool.and_eq_true] at hi
        exact (hmore i).2 (.inr hi.1)
      · intro i hi hold j hij
        rw [testBit_fresh] at hold
        refine (hmore j).2 (hstep i ?_ j hij)
        rcases (hmore i).1 hi with hi | hi
        · exact hi
        · rw [hi, Bool.true_and] at hold
          simpa using hold

/-! ## The places of a text -/

/-- A number that ends with a given bit. -/
theorem testBit_bit (b : Bool) (n i : Nat) :
    ((if b then 1 else 0) + 2 * n).testBit i = if i = 0 then b else n.testBit (i - 1) := by
  have hhalf : ((if b then 1 else 0) + 2 * n) / 2 = n := by
    cases b with
    | false => simp
    | true =>
      rw [if_pos rfl]
      omega
  cases i with
  | zero => cases b <;> simp [Nat.testBit_zero]
  | succ i => rw [Nat.testBit_succ, hhalf, if_neg (Nat.succ_ne_zero i), Nat.add_sub_cancel]

/-- The places from which a character of a set is ahead. -/
theorem testBit_placesBefore (s : CharSet) (text : List Char) (i : Nat) :
    (placesBefore s text).testBit i = true ↔ ∃ c, text[i]? = some c ∧ s.has c = true := by
  induction text generalizing i with
  | nil => simp [placesBefore]
  | cons c cs ih =>
    rw [placesBefore, testBit_bit]
    cases i with
    | zero => simp
    | succ i => simpa using ih i

/-- The places at which a condition holds. -/
theorem testBit_placesWhere (l : Look) (before : Option Char) (text : List Char) (i : Nat) :
    (placesWhere l before text).testBit i = true ↔
      i ≤ text.length ∧ l.holds (if i = 0 then before else text[i - 1]?) text[i]? = true := by
  induction text generalizing before i with
  | nil =>
    have hbit := testBit_bit (l.holds before none) 0 i
    rw [Nat.mul_zero, Nat.add_zero] at hbit
    rw [placesWhere, hbit]
    cases i with
    | zero => simp
    | succ i => simp
  | cons c cs ih =>
    rw [placesWhere, testBit_bit]
    cases i with
    | zero => simp
    | succ i =>
      rw [if_neg (Nat.succ_ne_zero i), Nat.add_sub_cancel, ih (some c) i]
      cases i with
      | zero => simp
      | succ i => simp

/-! ## The matcher -/

/-- Matches go forward. -/
theorem Spans.le {text : List Char} {r : Regex} {i j : Nat} (h : Spans text r i j) : i ≤ j := by
  induction r generalizing i j with
  | empty => exact Nat.le_of_eq h
  | step s => exact h.2 ▸ Nat.le_succ i
  | stay l => exact Nat.le_of_eq h.2
  | seq a b iha ihb =>
    obtain ⟨k, ha, hb⟩ := h
    exact Nat.le_trans (iha ha) (ihb hb)
  | alt a b iha ihb =>
    rcases h with h | h
    · exact iha h
    · exact ihb h
  | loop r least most ih =>
    obtain ⟨n, -, -, hrounds⟩ := h
    exact hrounds.le fun _ _ => ih
  | group r ih => exact ih h

/-- Matches end within the text. -/
theorem Spans.le_length {text : List Char} {r : Regex} {i j : Nat} (h : Spans text r i j)
    (hi : i ≤ text.length) : j ≤ text.length := by
  induction r generalizing i j with
  | empty =>
    cases h
    exact hi
  | step s =>
    obtain ⟨⟨c, hc, -⟩, rfl⟩ := h
    exact (List.getElem?_eq_some_iff.1 hc).1
  | stay l =>
    cases h.2
    exact hi
  | seq a b iha ihb =>
    obtain ⟨k, ha, hb⟩ := h
    exact ihb hb (iha ha hi)
  | alt a b iha ihb =>
    rcases h with h | h
    · exact iha h hi
    · exact ihb h hi
  | loop r least most ih =>
    obtain ⟨n, -, -, hrounds⟩ := h
    exact hrounds.bounded (fun _ _ hk h => ih h hk) hi
  | group r ih => exact ih h hi

/-- Rounds of a loop, counted from the least number on, and no more than there are places. -/
theorem exists_rounds_iff {text : List Char} {r : Regex} {least : Nat} {most : Option Nat}
    {i j : Nat} (hi : i ≤ text.length) :
    Spans text (.loop r least most) i j ↔ ∃ i', Rounds (Spans text r) least i i' ∧
      ∃ k, k ≤ (match most with
        | none => text.length + 1
        | some n => min (text.length + 1) (n - least)) ∧ Rounds (Spans text r) k i' j := by
  constructor
  · rintro ⟨n, hleast, hmost, hrounds⟩
    rw [← Nat.add_sub_of_le hleast] at hrounds
    obtain ⟨i', hfirst, hrest⟩ := hrounds.split
    obtain ⟨k, hkn, hkj, hk⟩ := hrest.shorten fun _ _ => Spans.le
    have hi' : i' ≤ text.length := hfirst.bounded (fun _ _ hk h => h.le_length hk) hi
    have hj : j ≤ text.length := hk.bounded (fun _ _ hk h => h.le_length hk) hi'
    refine ⟨i', hfirst, k, ?_, hk⟩
    cases most with
    | none =>
      show k ≤ text.length + 1
      omega
    | some m =>
      have hm := hmost m rfl
      show k ≤ min (text.length + 1) (m - least)
      omega
  · rintro ⟨i', hfirst, k, hk, hrest⟩
    refine ⟨least + k, Nat.le_add_right least k, ?_, hfirst.trans hrest⟩
    rintro m ⟨⟩
    have hkm : k ≤ m - least := Nat.le_trans hk (Nat.min_le_right _ _)
    omega

/-- The matcher finds the places where matches end. -/
theorem leads_reach (text : List Char) (r : Regex) :
    Leads text.length (Spans text r) (Expr.reach (text.length + 1) (on r text)) := by
  induction r with
  | empty =>
    intro places _ j
    show places.testBit j = true ↔ ∃ i, places.testBit i = true ∧ i = j
    constructor
    · exact fun h => ⟨j, h, rfl⟩
    · rintro ⟨i, h, rfl⟩
      exact h
  | step s =>
    intro places _ j
    show ((places &&& placesBefore s text) <<< 1).testBit j = true ↔
      ∃ i, places.testBit i = true ∧ (∃ c, text[i]? = some c ∧ s.has c = true) ∧ j = i + 1
    rw [Nat.testBit_shiftLeft, Nat.testBit_and, Bool.and_eq_true, Bool.and_eq_true,
      testBit_placesBefore, decide_eq_true_eq]
    constructor
    · rintro ⟨hj, hplace, hstep⟩
      exact ⟨j - 1, hplace, hstep, (Nat.sub_add_cancel hj).symm⟩
    · rintro ⟨i, hplace, hstep, rfl⟩
      rw [Nat.add_sub_cancel]
      exact ⟨Nat.le_add_left 1 i, hplace, hstep⟩
  | stay l =>
    intro places hplaces j
    show (places &&& placesWhere l none text).testBit j = true ↔
      ∃ i, places.testBit i = true ∧ l.holds (charBefore? text i) text[i]? = true ∧ i = j
    have hbefore : (if j = 0 then none else text[j - 1]?) = charBefore? text j := by
      cases j with
      | zero => rfl
      | succ j => rfl
    rw [Nat.testBit_and, Bool.and_eq_true, testBit_placesWhere, hbefore]
    constructor
    · rintro ⟨hplace, -, hholds⟩
      exact ⟨j, hplace, hholds, rfl⟩
    · rintro ⟨i, hplace, hholds, rfl⟩
      exact ⟨hplace, hplaces i hplace, hholds⟩
  | seq a b iha ihb =>
    intro places hplaces j
    have hmiddle := iha.within (fun _ _ hi h => h.le_length hi) hplaces
    have hlink : (∃ k, (Expr.reach (text.length + 1) (on a text) places).testBit k = true ∧
        Spans text b k j) ↔ ∃ i, places.testBit i = true ∧ Spans text (.seq a b) i j := by
      constructor
      · rintro ⟨k, hk, hb⟩
        obtain ⟨i, hi, ha⟩ := (iha places hplaces k).1 hk
        exact ⟨i, hi, k, ha, hb⟩
      · rintro ⟨i, hi, k, ha, hb⟩
        exact ⟨k, (iha places hplaces k).2 ⟨i, hi, ha⟩, hb⟩
    rw [← hlink, ← ihb _ hmiddle]
    show (if Expr.reach (text.length + 1) (on a text) places = 0 then 0
      else Expr.reach (text.length + 1) (on b text)
        (Expr.reach (text.length + 1) (on a text) places)).testBit j = true ↔ _
    split
    · rename_i hnone
      rw [ihb _ hmiddle, hnone]
      simp
    · exact Iff.rfl
  | alt a b iha ihb =>
    intro places hplaces j
    show (Expr.reach _ (on a text) places ||| Expr.reach _ (on b text) places).testBit j = true ↔
      ∃ i, places.testBit i = true ∧ (Spans text a i j ∨ Spans text b i j)
    rw [Nat.testBit_or, Bool.or_eq_true, iha places hplaces, ihb places hplaces, ← exists_or]
    exact exists_congr fun i => and_or_left.symm
  | loop r least most ih =>
    intro places hplaces j
    have hbounded : ∀ i j, i ≤ text.length → Spans text r i j → j ≤ text.length :=
      fun _ _ hi h => h.le_length hi
    have hfirst := ih.repeatTimes hbounded least
    have hstart := hfirst.within (fun _ _ hi h => h.bounded hbounded hi) hplaces
    refine (ih.spread hbounded _ hstart (fun _ h => h) (fun i h h' => ?_) j).trans ?_
    · rw [h] at h'
      cases h'
    · constructor
      · rintro ⟨i', hi', hmore⟩
        obtain ⟨i, hi, hrounds⟩ := (hfirst places hplaces i').1 hi'
        exact ⟨i, hi, (exists_rounds_iff (hplaces i hi)).2 ⟨i', hrounds, hmore⟩⟩
      · rintro ⟨i, hi, hspans⟩
        obtain ⟨i', hrounds, hmore⟩ := (exists_rounds_iff (hplaces i hi)).1 hspans
        exact ⟨i', (hfirst places hplaces i').2 ⟨i, hi, hrounds⟩, hmore⟩
  | group r ih => exact ih

/-- The matcher for parts of texts tells whether there is a part that the expression matches. -/
theorem occursIn_iff (r : Regex) (text : String) :
    occursIn r text = true ↔ ∃ i j, i ≤ text.toList.length ∧ Spans text.toList r i j := by
  have hall : ∀ i, (Nat.pow 2 (text.toList.length + 1) - 1).testBit i = true ↔
      i ≤ text.toList.length := by
    intro i
    rw [show Nat.pow 2 (text.toList.length + 1) = 2 ^ (text.toList.length + 1) from rfl,
      Nat.testBit_two_pow_sub_one, decide_eq_true_eq, Nat.lt_succ_iff]
  have hends := leads_reach text.toList r _ fun i hi => (hall i).1 hi
  rw [occursIn, bne_iff_ne]
  constructor
  · intro h
    obtain ⟨j, hj⟩ := Nat.exists_testBit_of_ne_zero h
    obtain ⟨i, hi, hspans⟩ := (hends j).1 hj
    exact ⟨i, j, (hall i).1 hi, hspans⟩
  · rintro ⟨i, j, hi, hspans⟩ hzero
    have hj := (hends j).2 ⟨i, (hall i).2 hi, hspans⟩
    rw [show Expr.reach _ _ _ = 0 from hzero, Nat.zero_testBit] at hj
    cases hj

/-! ## Whole texts -/

/-- An expression between the conditions for the start and the end of the text. -/
def anchored (r : Regex) : Regex := .seqAll [.stay .textStart, r, .stay .textEnd]

theorem charBefore?_eq_none_iff {text : List Char} {i : Nat} (hi : i ≤ text.length) :
    charBefore? text i = none ↔ i = 0 := by
  cases i with
  | zero => simp [charBefore?]
  | succ i => simp [charBefore?, Nat.not_le.2 hi]

/-- **Between the two conditions an expression matches whole texts only.** -/
theorem occursIn_anchored_iff (r : Regex) (text : String) :
    occursIn (anchored r) text = true ↔ Fits r text := by
  rw [occursIn_iff]
  constructor
  · rintro ⟨i, j, hi, k, ⟨hstart, rfl⟩, l, hr, hend, rfl⟩
    have hl := hr.le_length hi
    have hi0 : i = 0 := (charBefore?_eq_none_iff hi).1 (Option.isNone_iff_eq_none.1 hstart)
    have hlast : text.toList.length ≤ l :=
      List.getElem?_eq_none_iff.1 (Option.isNone_iff_eq_none.1 hend)
    cases hi0
    cases Nat.le_antisymm hl hlast
    exact hr
  · intro h
    refine ⟨0, text.toList.length, Nat.zero_le _, 0, ⟨rfl, rfl⟩, _, h, ?_, rfl⟩
    exact Option.isNone_iff_eq_none.2 (List.getElem?_eq_none_iff.2 (Nat.le_refl _))

end KeyedState.Regex

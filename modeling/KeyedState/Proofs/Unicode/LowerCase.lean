import KeyedState.Unicode.LowerCase
import Mathlib.Data.List.Forall2

/-!
# Characters with a lower-case mapping

A character that is mapped to another one has case and counts for the case of its neighbours, and so
does the character that it is mapped to. So the lower-case mapping of a character by itself, where
that is one character, has case exactly if the character has, and is ignorable exactly if the
character is (`LowerCase.eq_of_ofChar_eq`). No character that another one is mapped to has a mapping
itself, so a text in lower case stays as it is (`lowerCase_lowerCase`).

These are facts about tables, which are checked for all characters with a mapping. For that the
intervals of a table become the bits of one number (`CharSet.bits`), where a character is looked up
without going through the table.
-/

namespace KeyedState

namespace CharSet

/-! ## Sets as numbers -/

/-- The number whose bits are the members of intervals. -/
def bits : List (Nat × Nat) → Nat
  | [] => 0
  | r :: rs => (1 <<< (r.2 + 1 - r.1) - 1) <<< r.1 ||| bits rs

theorem testBit_bits (rs : List (Nat × Nat)) (n : Nat) :
    (bits rs).testBit n = contains ⟨rs⟩ n := by
  induction rs with
  | nil => exact Nat.zero_testBit n
  | cons r rs ih =>
    have hrange : (decide (n ≥ r.1) && decide (n - r.1 < r.2 + 1 - r.1)) =
        (decide (r.1 ≤ n) && decide (n ≤ r.2)) := by
      rw [Bool.eq_iff_iff]
      simp only [Bool.and_eq_true, decide_eq_true_eq]
      omega
    rw [bits, Nat.testBit_or, ih, Nat.testBit_shiftLeft, Nat.one_shiftLeft,
      Nat.testBit_two_pow_sub_one, hrange]
    rfl

theorem testBit_bits_append (rs ss : List (Nat × Nat)) (n : Nat) :
    (bits (rs ++ ss)).testBit n = (contains ⟨rs⟩ n || contains ⟨ss⟩ n) :=
  (testBit_bits _ n).trans (contains_union ⟨rs⟩ ⟨ss⟩ n)

/-- The intervals of lines of text, each given by its characters. -/
def rangesOf (lines : List (List Char)) : List (Nat × Nat) := lines.flatMap (readRanges none 0)

/-- Lines of text have the given characters. -/
def Written (lines : List String) (css : List (List Char)) : Prop :=
  List.Forall₂ (fun line cs => line = String.ofList cs) lines css

theorem Written.ofLines_eq {lines : List String} {css : List (List Char)} (h : Written lines css) :
    ofLines lines = ⟨rangesOf css⟩ := by
  have hranges : (lines.map ofText).flatMap ranges = rangesOf css := by
    induction h with
    | nil => rfl
    | cons hline _ ih =>
      subst hline
      rw [List.map_cons, List.flatMap_cons, ih, ofText, String.toList_ofList]
      rfl
  rw [ofLines, unionAll, hranges]

end CharSet

namespace LowerCase

/-! ## Characters that are mapped -/

/-- The code points of all runs, each run counted from its own start. -/
def inRuns (start : Nat × Nat × Nat × Nat → Nat) : List Nat :=
  runs.flatMap fun run =>
    (List.range ((run.2.1 - run.1) / run.2.2.1 + 1)).map fun k => start run + k * run.2.2.1

/-- The code points with a lower-case mapping of one other code point. -/
def sources : List Nat := inRuns fun run => run.1

/-- The code points that others are mapped to. -/
def images : List Nat := inRuns fun run => run.2.2.2

/-- The characters with a lower-case mapping of one other character, and those mappings. -/
def mapped : List Char := (sources ++ images).map Char.ofNat

theorem mem_of_simple?_eq_some {n m : Nat} (h : simple? n = some m) : n ∈ sources ∧ m ∈ images := by
  obtain ⟨⟨lo, hi, step, image⟩, hrun, rfl⟩ := Option.map_eq_some_iff.1 h
  have hmem := List.mem_of_find?_eq_some hrun
  have hin := List.find?_some hrun
  simp only [Bool.and_eq_true, decide_eq_true_eq, beq_iff_eq] at hin
  obtain ⟨⟨hlo, hhi⟩, hstep⟩ := hin
  have hplace : (n - lo) / step ∈ List.range ((hi - lo) / step + 1) :=
    List.mem_range.2 (Nat.lt_succ_of_le (Nat.div_le_div_right (Nat.sub_le_sub_right hhi lo)))
  have hmul : (n - lo) / step * step = n - lo := by
    have hdiv := Nat.div_add_mod (n - lo) step
    rwa [hstep, Nat.add_zero, Nat.mul_comm] at hdiv
  have hinRuns : ∀ start, start (lo, hi, step, image) + (n - lo) ∈ inRuns start := fun start =>
    List.mem_flatMap.2 ⟨_, hmem, List.mem_map.2 ⟨_, hplace, congrArg (start _ + ·) hmul⟩⟩
  have hsource := hinRuns fun run => run.1
  rw [Nat.add_sub_cancel' hlo] at hsource
  exact ⟨hsource, hinRuns fun run => run.2.2.2⟩

theorem isCased_of_mem_mapped {c : Char} (h : c ∈ mapped) : isCased c = true := by
  obtain ⟨css, hcss, hall⟩ : ∃ css, CharSet.Written BinaryProperty.casedLines css ∧
      (mapped.all fun c =>
        (CharSet.bits (CharSet.rangesOf css ++ Newest.cased.ranges)).testBit c.toNat &&
          !Newest.uncased.has c) = true := by
    apply Exists.intro
    refine And.intro ?_ ?_
    · simp only [BinaryProperty.casedLines]
      repeat' constructor
    · decide +kernel
  have htable : BinaryProperty.cased = ⟨CharSet.rangesOf css⟩ := hcss.ofLines_eq
  have hc := List.all_eq_true.1 hall c h
  rw [CharSet.testBit_bits_append, ← htable, Bool.and_eq_true, Bool.or_eq_true] at hc
  obtain ⟨hold | hnew, huncased⟩ := hc
  · have hold : BinaryProperty.cased.has c = true := hold
    rw [isCased, hold, huncased]
    rfl
  · have hnew : Newest.cased.has c = true := hnew
    rw [isCased, hnew, Bool.or_true]

theorem isIgnorable_of_mem_mapped {c : Char} (h : c ∈ mapped) : isIgnorable c = false := by
  obtain ⟨css, hcss, hall⟩ : ∃ css, CharSet.Written BinaryProperty.caseIgnorableLines css ∧
      (mapped.all fun c => !(CharSet.bits
        (CharSet.rangesOf css ++ Newest.caseIgnorable.ranges)).testBit c.toNat) = true := by
    apply Exists.intro
    refine And.intro ?_ ?_
    · simp only [BinaryProperty.caseIgnorableLines]
      repeat' constructor
    · decide +kernel
  have htable : BinaryProperty.caseIgnorable = ⟨CharSet.rangesOf css⟩ := hcss.ofLines_eq
  have hc := List.all_eq_true.1 hall c h
  rw [CharSet.testBit_bits_append, ← htable] at hc
  exact Bool.not_inj hc

/-! ## What the mapping of a character keeps -/

theorem ofChar_eq (c : Char) : c.toNat = 0x130 ∧ ofChar c = ['i', Char.ofNat 0x307] ∨
    ∃ d, ofChar c = [d] ∧ isCased d = isCased c ∧ isIgnorable d = isIgnorable c := by
  unfold ofChar
  split
  · rename_i hc
    exact .inl ⟨hc, rfl⟩
  · split
    · rename_i n hn
      obtain ⟨hsource, himage⟩ := mem_of_simple?_eq_some hn
      have hc : c ∈ mapped :=
        List.mem_map.2 ⟨_, List.mem_append_left _ hsource, Char.ofNat_toNat c⟩
      have hd : Char.ofNat n ∈ mapped :=
        List.mem_map.2 ⟨_, List.mem_append_right _ himage, rfl⟩
      refine .inr ⟨_, rfl, ?_, ?_⟩
      · rw [isCased_of_mem_mapped hd, isCased_of_mem_mapped hc]
      · rw [isIgnorable_of_mem_mapped hd, isIgnorable_of_mem_mapped hc]
    · exact .inr ⟨c, rfl, rfl, rfl⟩

/-- Characters with the same lower-case mapping count for the case of their neighbours in the same
way. -/
theorem eq_of_ofChar_eq {c d : Char} (h : ofChar c = ofChar d) :
    isCased c = isCased d ∧ isIgnorable c = isIgnorable d := by
  rcases ofChar_eq c with ⟨hc, hpair⟩ | ⟨e, he, hcased, hignorable⟩
  · rcases ofChar_eq d with ⟨hd, -⟩ | ⟨e, he, -⟩
    · cases Char.toNat_inj.1 (hc.trans hd.symm)
      exact ⟨rfl, rfl⟩
    · rw [hpair, he] at h
      cases h
  · rcases ofChar_eq d with ⟨-, hpair⟩ | ⟨e', he', hcased', hignorable'⟩
    · rw [hpair, he] at h
      cases h
    · rw [he, he'] at h
      cases h
      exact ⟨hcased.symm.trans hcased', hignorable.symm.trans hignorable'⟩

/-- What stands in place of characters with the same lower-case mapping comes to the same. -/
theorem startsCased_eq {cs ds : List Char}
    (h : List.Forall₂ (fun c d => ofChar c = ofChar d) cs ds) :
    startsCased cs = startsCased ds := by
  induction h with
  | nil => rfl
  | cons hcd _ ih =>
    obtain ⟨hcased, hignorable⟩ := eq_of_ofChar_eq hcd
    unfold startsCased at ih ⊢
    rw [List.dropWhile_cons, List.dropWhile_cons, hignorable]
    split
    · exact ih
    · exact hcased

/-! ## Texts in lower case -/

theorem ofChar_of_mem_images {m : Nat} (h : m ∈ images) :
    ofChar (Char.ofNat m) = [Char.ofNat m] := by
  have hall : (images.all fun m => (Char.ofNat m).toNat != 0x130 &&
      !(CharSet.bits (sources.map fun n => (n, n))).testBit (Char.ofNat m).toNat) = true := by
    decide +kernel
  have hm := List.all_eq_true.1 hall m h
  rw [Bool.and_eq_true, bne_iff_ne, CharSet.testBit_bits] at hm
  obtain ⟨hpair, hsource⟩ := hm
  rw [ofChar, if_neg hpair]
  split
  · rename_i n hn
    have hin : CharSet.contains ⟨sources.map fun n => (n, n)⟩ (Char.ofNat m).toNat = true :=
      List.any_eq_true.2 ⟨_, List.mem_map_of_mem (mem_of_simple?_eq_some hn).1, by simp⟩
    rw [hin] at hsource
    cases hsource
  · rfl

/-- The mapping of a character is not mapped on. -/
theorem ofChar_of_mem_ofChar {c d : Char} (h : d ∈ ofChar c) : ofChar d = [d] := by
  unfold ofChar at h
  split at h
  · rcases List.mem_pair.1 h with rfl | rfl
    · decide
    · decide
  · rename_i hpair
    split at h
    · rename_i n hn
      rw [List.mem_singleton.1 h]
      exact ofChar_of_mem_images (mem_of_simple?_eq_some hn).2
    · rename_i hnone
      rw [List.mem_singleton.1 h, ofChar, if_neg hpair, hnone]

theorem ofChar_of_mem_mapFrom {before cs : List Char} {d : Char} (h : d ∈ mapFrom before cs) :
    ofChar d = [d] := by
  induction cs generalizing before with
  | nil => cases h
  | cons c cs ih =>
    rw [mapFrom] at h
    rcases List.mem_append.1 h with himage | hrest
    · split at himage
      · rw [List.mem_singleton.1 himage]
        decide
      · exact ofChar_of_mem_ofChar himage
    · exact ih hrest

/-- Characters that are not mapped stay as they are wherever they stand. -/
theorem mapFrom_of_forall {before cs : List Char} (h : ∀ c ∈ cs, ofChar c = [c]) :
    mapFrom before cs = cs := by
  induction cs generalizing before with
  | nil => rfl
  | cons c cs ih =>
    obtain ⟨hc, hcs⟩ := List.forall_mem_cons.1 h
    have hsigma : c ≠ capitalSigma := by
      rintro rfl
      exact absurd hc (by decide)
    rw [mapFrom, ih hcs, if_neg fun himage => hsigma himage.1, hc]
    rfl

end LowerCase

/-- A text in lower case stays as it is. -/
theorem lowerCase_lowerCase (text : String) : lowerCase (lowerCase text) = lowerCase text := by
  unfold lowerCase
  rw [String.toList_ofList, LowerCase.mapFrom_of_forall fun _ => LowerCase.ofChar_of_mem_mapFrom]

end KeyedState

import KeyedState.Pattern.Basic
import KeyedState.Proofs.Unicode.LowerCase
import Mathlib.Algebra.Order.Group.Nat

/-!
# Equality that ignores case

Case is ignored by comparing texts in lower case. For every character but one the lower-case mapping
depends on that character alone, so texts that agree in these mappings are equal in lower case; but
a capital sigma at the end of a word becomes another letter than a small one there. So equality in
any case accepts the texts of the same letters whose words end with capital sigmas at the same
places, and no others of the same letters (`Pattern.looseEquality_accepts_iff`).
-/

namespace KeyedState

namespace LowerCase

/-! ## Where lower case depends on the neighbours -/

/-- A word ends at a place of a text that goes on after the characters `before`, which are in
reverse: before the place there stands a character with case and after it none, where characters
that do not count for the case of their neighbours are passed over. -/
def EndsWordAfter (before cs : List Char) (i : Nat) : Prop :=
  startsCased ((cs.take i).reverse ++ before) = true ∧ startsCased (cs.drop (i + 1)) = false

/-- A word ends at a place of a text. -/
def EndsWord (text : String) (i : Nat) : Prop := EndsWordAfter [] text.toList i

theorem ofChar_capitalSigma : ofChar capitalSigma = [Char.ofNat 0x3C3] := by decide +kernel

section

variable {c d : Char} (hcd : ofChar c = ofChar d) (p : Prop) [Decidable p]

include hcd

/-- Characters with the same mapping are mapped to the same at a place unless it is the end of a
word, where one of them is the capital sigma and the other is not. -/
theorem image_eq_iff :
    (if c = capitalSigma ∧ p then [finalSigma] else ofChar c) =
        (if d = capitalSigma ∧ p then [finalSigma] else ofChar d) ↔
      (p → (c = capitalSigma ↔ d = capitalSigma)) := by
  have hsigma : ofChar capitalSigma ≠ [finalSigma] := by
    rw [ofChar_capitalSigma]
    decide
  by_cases hp : p
  · by_cases hc : c = capitalSigma
    · by_cases hd : d = capitalSigma
      · simp [hp, hc, hd]
      · subst hc
        simp [hp, hd, ← hcd, hsigma.symm]
    · by_cases hd : d = capitalSigma
      · subst hd
        simp [hp, hc, hcd, hsigma]
      · simp [hp, hc, hd, hcd]
  · simp [hp, hcd]

theorem length_image_eq :
    (if c = capitalSigma ∧ p then [finalSigma] else ofChar c).length =
      (if d = capitalSigma ∧ p then [finalSigma] else ofChar d).length := by
  have hsigma : (ofChar capitalSigma).length = [finalSigma].length := by
    rw [ofChar_capitalSigma]
    rfl
  have hone (e : Char) :
      (if e = capitalSigma ∧ p then [finalSigma] else ofChar e).length = (ofChar e).length := by
    split
    · rename_i he
      rw [he.1, hsigma]
    · rfl
  rw [hone, hone, hcd]

end

theorem endsWordAfter_zero {before cs : List Char} {c : Char} :
    EndsWordAfter before (c :: cs) 0 ↔ startsCased before = true ∧ ¬ startsCased cs = true := by
  simp [EndsWordAfter]

theorem endsWordAfter_succ {before cs : List Char} {c : Char} {i : Nat} :
    EndsWordAfter before (c :: cs) (i + 1) ↔ EndsWordAfter (c :: before) cs i := by
  simp [EndsWordAfter]

/-- Texts of the same letters are mapped to the same exactly when the capital sigmas at the ends of
their words stand at the same places. -/
theorem mapFrom_eq_iff {before before' cs ds : List Char}
    (hbefore : List.Forall₂ (fun c d => ofChar c = ofChar d) before before')
    (h : List.Forall₂ (fun c d => ofChar c = ofChar d) cs ds) :
    mapFrom before cs = mapFrom before' ds ↔
      ∀ i, EndsWordAfter before cs i →
        (cs[i]? = some capitalSigma ↔ ds[i]? = some capitalSigma) := by
  induction h generalizing before before' with
  | nil => simp [mapFrom]
  | @cons c d cs ds hcd hrest ih =>
    have hlength := length_image_eq hcd (startsCased before = true ∧ ¬ startsCased cs = true)
    have himage := image_eq_iff hcd (startsCased before = true ∧ ¬ startsCased cs = true)
    rw [mapFrom, mapFrom, ← startsCased_eq hbefore, ← startsCased_eq hrest,
      ← Nat.and_forall_add_one, endsWordAfter_zero]
    simp only [endsWordAfter_succ, List.getElem?_cons_zero, List.getElem?_cons_succ,
      Option.some.injEq]
    rw [← himage, ← ih (.cons hcd hbefore)]
    constructor
    · intro h
      exact List.append_inj h hlength
    · rintro ⟨hfirst, hothers⟩
      rw [hfirst, hothers]

end LowerCase

open LowerCase (ofChar capitalSigma EndsWord)

/-- Two texts have the same letters: as many characters, and at each place characters with the same
lower-case mapping. -/
def SameLetters (a b : String) : Prop :=
  List.Forall₂ (fun c d => ofChar c = ofChar d) a.toList b.toList

theorem lowerCase_eq_iff {a b : String} (h : SameLetters a b) :
    lowerCase a = lowerCase b ↔ ∀ i, EndsWord a i →
      (a.toList[i]? = some capitalSigma ↔ b.toList[i]? = some capitalSigma) := by
  rw [lowerCase, lowerCase, String.ofList_inj, LowerCase.mapFrom_eq_iff .nil h]
  rfl

namespace Pattern

/-- The description of what equals a text in any case. -/
def looseEquality (text : String) : Json :=
  .object [(caseInsensitive, .bool true), ("equalTo", .str text)]

theorem ofJson_looseEquality (text : String) :
    ofJson (looseEquality text) = .ok (.equalTo text true) :=
  rfl

/-- **Equality that ignores case.** Of the texts with the same letters as a text, equality in any
case accepts exactly those that have a capital sigma at the end of a word where that text has one.
So it accepts all of them whose capital sigmas stand at the same places, and all of them if there
are no capital sigmas. -/
theorem looseEquality_accepts_iff (a b : String) (h : SameLetters a b) :
    ∃ p, ofJson (looseEquality a) = .ok p ∧
      (p.test (some b) = true ↔ ∀ i, EndsWord a i →
        (a.toList[i]? = some capitalSigma ↔ b.toList[i]? = some capitalSigma)) := by
  refine ⟨_, ofJson_looseEquality a, ?_⟩
  rw [← lowerCase_eq_iff h]
  simp [test]

/-- A capital sigma at the start of a word may be small, and one at the end of a word stays as it
is. -/
theorem looseEquality_accepts_sigmas :
    SameLetters "ΣΑΣ" "σαΣ" ∧
      ∃ p, ofJson (looseEquality "ΣΑΣ") = .ok p ∧ p.test (some "σαΣ") = true := by
  have hletters : SameLetters "ΣΑΣ" "σαΣ" :=
    .cons (by decide +kernel) (.cons (by decide +kernel) (.cons rfl .nil))
  obtain ⟨p, hp, haccepts⟩ := looseEquality_accepts_iff "ΣΑΣ" "σαΣ" hletters
  have hcapital : "ΣΑΣ".toList = ['Σ', 'Α', 'Σ'] := String.toList_ofList
  have hsmall : "σαΣ".toList = ['σ', 'α', 'Σ'] := String.toList_ofList
  refine ⟨hletters, p, hp, haccepts.2 fun i hi => ?_⟩
  rw [EndsWord, hcapital] at hi
  rw [hcapital, hsmall]
  rcases i with _ | _ | _ | i
  · have hstart : LowerCase.startsCased [] = true := hi.1
    cases hstart
  · decide
  · decide
  · exact Iff.rfl

/-- A text does not accept itself with its last letter in the other case. -/
theorem looseEquality_refuses_small_sigma :
    SameLetters "ΑΣ" "ασ" ∧
      ∃ p, ofJson (looseEquality "ΑΣ") = .ok p ∧ p.test (some "ασ") = false := by
  have hletters : SameLetters "ΑΣ" "ασ" :=
    .cons (by decide +kernel) (.cons (by decide +kernel) .nil)
  have hcapital : "ΑΣ".toList = ['Α', 'Σ'] := String.toList_ofList
  have hsmall : "ασ".toList = ['α', 'σ'] := String.toList_ofList
  have hends : EndsWord "ΑΣ" 1 := by
    rw [EndsWord, hcapital]
    refine ⟨?_, rfl⟩
    have hmapped : 'Α' ∈ LowerCase.mapped := by decide +kernel
    have hcased := LowerCase.isCased_of_mem_mapped hmapped
    have hignorable := LowerCase.isIgnorable_of_mem_mapped hmapped
    simp [LowerCase.startsCased, hcased, hignorable]
  have hne : lowerCase "ΑΣ" ≠ lowerCase "ασ" := fun h => by
    have hsigma := (lowerCase_eq_iff hletters).1 h 1 hends
    rw [hcapital, hsmall] at hsigma
    exact absurd hsigma (by decide)
  refine ⟨hletters, _, ofJson_looseEquality _, ?_⟩
  simpa [test] using hne

end Pattern

end KeyedState

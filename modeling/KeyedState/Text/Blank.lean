/-!
# Blank characters

The blank characters are those of the Unicode property White_Space. `trimBlank` removes them at
both ends of a text; what is left is described by `TrimsTo`.
-/

namespace KeyedState

/-- Whether a character is blank. -/
def isBlank (c : Char) : Bool :=
  let n := c.toNat
  (0x09 ≤ n && n ≤ 0x0D) || n == 0x20 || n == 0x85 || n == 0xA0 || n == 0x1680 ||
    (0x2000 ≤ n && n ≤ 0x200A) || n == 0x2028 || n == 0x2029 || n == 0x202F || n == 0x205F ||
    n == 0x3000

/-- The characters without the blank ones at either end. -/
def trimBlankChars (cs : List Char) : List Char :=
  ((cs.dropWhile isBlank).reverse.dropWhile isBlank).reverse

/-- The text without the blank characters at either end. -/
def trimBlank (text : String) : String := String.ofList (trimBlankChars text.toList)

/-- The characters left by `dropWhile` do not start with a blank one. -/
theorem head?_dropWhile_blank (cs : List Char) :
    (cs.dropWhile isBlank).head?.all (!isBlank ·) = true := by
  have := List.head?_dropWhile_not isBlank cs
  cases hc : (cs.dropWhile isBlank).head? with
  | none => rfl
  | some c =>
    rw [hc] at this
    simpa using this

/-- Characters that do not start with a blank one are kept. -/
theorem dropWhile_blank_eq_self {cs : List Char} (h : cs.head?.all (!isBlank ·) = true) :
    cs.dropWhile isBlank = cs := by
  cases cs with
  | nil => rfl
  | cons c cs => simp_all [List.dropWhile]

/-- Characters are a core between blank ones, and no blank one is first or last in the core. -/
structure TrimsTo (cs core : List Char) : Prop where
  padded : ∃ left right, cs = left ++ (core ++ right) ∧ (∀ c ∈ left, isBlank c = true) ∧
    ∀ c ∈ right, isBlank c = true
  head : core.head?.all (!isBlank ·) = true
  last : core.getLast?.all (!isBlank ·) = true

theorem TrimsTo.trimBlankChars_eq {cs core : List Char} (h : TrimsTo cs core) :
    trimBlankChars cs = core := by
  obtain ⟨left, right, rfl, hleft, hright⟩ := h.padded
  have hlast : core.reverse.dropWhile isBlank = core.reverse :=
    dropWhile_blank_eq_self (by simpa using h.last)
  rw [trimBlankChars, List.dropWhile_append_of_pos hleft]
  cases core with
  | nil =>
    have hnone : (right ++ []).dropWhile isBlank = [] := List.dropWhile_append_of_pos hright
    rw [List.append_nil] at hnone
    simp [hnone]
  | cons c cs =>
    have hkept : (c :: cs ++ right).dropWhile isBlank = c :: cs ++ right :=
      dropWhile_blank_eq_self (by simpa using h.head)
    rw [hkept, List.reverse_append, List.dropWhile_append_of_pos (by simpa using hright), hlast,
      List.reverse_reverse]

/-- The core is what is left when the blank characters at the ends are removed. -/
theorem trimsTo_trimBlankChars (cs : List Char) : TrimsTo cs (trimBlankChars cs) := by
  have hblank : ∀ ds : List Char, ∀ c ∈ ds.takeWhile isBlank, isBlank c = true :=
    fun _ => List.all_eq_true.1 List.all_takeWhile
  have hright : ∀ c ∈ ((cs.dropWhile isBlank).reverse.takeWhile isBlank).reverse,
      isBlank c = true :=
    fun c hc => hblank _ c (List.mem_reverse.1 hc)
  have hbehind : trimBlankChars cs ++ ((cs.dropWhile isBlank).reverse.takeWhile isBlank).reverse =
      cs.dropWhile isBlank := by
    rw [trimBlankChars, ← List.reverse_append, List.takeWhile_append_dropWhile,
      List.reverse_reverse]
  refine ⟨⟨cs.takeWhile isBlank, _, ?_, hblank cs, hright⟩, ?_, ?_⟩
  · rw [hbehind, List.takeWhile_append_dropWhile]
  · -- what is left starts as the characters do once their first blanks are gone
    have hstart := head?_dropWhile_blank cs
    rw [← hbehind] at hstart
    cases hcore : trimBlankChars cs with
    | nil => rfl
    | cons c core =>
      rw [hcore] at hstart
      simpa using hstart
  · rw [trimBlankChars, List.getLast?_reverse]
    exact head?_dropWhile_blank _

theorem trimBlankChars_eq_iff {cs core : List Char} :
    trimBlankChars cs = core ↔ TrimsTo cs core :=
  ⟨fun h => h ▸ trimsTo_trimBlankChars cs, TrimsTo.trimBlankChars_eq⟩

/-- Characters without a blank one at either end are kept. -/
theorem trimBlankChars_eq_self {cs : List Char} (hl : cs.head?.all (!isBlank ·) = true)
    (hr : cs.getLast?.all (!isBlank ·) = true) : trimBlankChars cs = cs :=
  TrimsTo.trimBlankChars_eq ⟨⟨[], [], by simp⟩, hl, hr⟩

theorem head?_not_blank {cs : List Char} (h : ∀ c ∈ cs, isBlank c = false) :
    cs.head?.all (!isBlank ·) = true := by
  cases cs with
  | nil => rfl
  | cons c cs => simp [h c]

theorem getLast?_not_blank {cs : List Char} (h : ∀ c ∈ cs, isBlank c = false) :
    cs.getLast?.all (!isBlank ·) = true := by
  cases hc : cs.getLast? with
  | none => rfl
  | some c => simp [h c (List.mem_of_getLast? hc)]

/-- Characters none of which is blank are kept. -/
theorem trimBlankChars_of_forall {cs : List Char} (h : ∀ c ∈ cs, isBlank c = false) :
    trimBlankChars cs = cs :=
  trimBlankChars_eq_self (head?_not_blank h) (getLast?_not_blank h)

/-- Blank characters around others are removed. -/
theorem trimBlankChars_append {left cs right : List Char} (hleft : ∀ c ∈ left, isBlank c = true)
    (hright : ∀ c ∈ right, isBlank c = true) (hcs : ∀ c ∈ cs, isBlank c = false) :
    trimBlankChars (left ++ (cs ++ right)) = cs :=
  TrimsTo.trimBlankChars_eq
    ⟨⟨left, right, rfl, hleft, hright⟩, head?_not_blank hcs, getLast?_not_blank hcs⟩

end KeyedState

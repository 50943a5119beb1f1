/-!
# Occurrences in text

`occursIn` tests whether one text occurs in another, and `cutAt?` cuts a text at the first
occurrence of a mark. Both are lists of characters here; `hasPart` is the test on strings.
`sameAsciiCase` compares whole texts but for the case of ASCII letters.
-/

namespace KeyedState

/-- What is before and what is after the first occurrence of `mark`. -/
def cutAt? (mark : List Char) : List Char → Option (List Char × List Char)
  | [] => if mark.isEmpty then some ([], []) else none
  | c :: cs =>
    if mark.isPrefixOf (c :: cs) then some ([], (c :: cs).drop mark.length)
    else (cutAt? mark cs).map fun (before, after) => (c :: before, after)

/-- Whether `part` occurs in a text. -/
def occursIn (part text : List Char) : Bool := (cutAt? part text).isSome

/-- A cut puts the text together again. -/
theorem append_of_cutAt? {mark cs before after : List Char}
    (h : cutAt? mark cs = some (before, after)) : cs = before ++ mark ++ after := by
  induction cs generalizing before with
  | nil =>
    simp only [cutAt?] at h
    split at h <;> simp_all
  | cons c cs ih =>
    simp only [cutAt?] at h
    split at h
    next hp =>
      obtain ⟨rest, hr⟩ := List.isPrefixOf_iff_prefix.1 hp
      simp only [Option.some.injEq, Prod.mk.injEq] at h
      obtain ⟨rfl, rfl⟩ := h
      simp [← hr]
    next =>
      obtain ⟨⟨b, a⟩, hc, he⟩ := Option.map_eq_some_iff.1 h
      simp only [Prod.mk.injEq] at he
      obtain ⟨rfl, rfl⟩ := he
      rw [ih hc]
      simp

/-- A part occurs exactly when the text is made of something, the part and something. -/
theorem occursIn_iff {part text : List Char} : occursIn part text = true ↔ part <:+: text := by
  constructor
  · intro h
    obtain ⟨⟨before, after⟩, hc⟩ := Option.isSome_iff_exists.1 h
    exact ⟨before, after, (append_of_cutAt? hc).symm⟩
  · rintro ⟨before, after, rfl⟩
    induction before with
    | nil =>
      cases h : part ++ after with
      | nil => simp_all [occursIn, cutAt?]
      | cons c cs =>
        have hp : part.isPrefixOf (c :: cs) = true :=
          List.isPrefixOf_iff_prefix.2 ⟨after, h⟩
        simp only [List.nil_append, h, occursIn, cutAt?, hp, if_true, Option.isSome_some]
    | cons b before ih =>
      simp only [List.cons_append, occursIn, cutAt?] at ih ⊢
      split
      · rfl
      · simpa using ih

/-- Whether the text `part` occurs in `text`. -/
def hasPart (part text : String) : Bool := occursIn part.toList text.toList

/-- The pieces of a text between the occurrences of a separating character; one more piece than
there are separators. -/
def pieces (separator : Char) : List Char → List (List Char)
  | [] => [[]]
  | c :: cs =>
    if c = separator then [] :: pieces separator cs
    else match pieces separator cs with
      | [] => [[c]]
      | p :: ps => (c :: p) :: ps

/-! ## Case of ASCII letters -/

/-- Whether two texts are equal but for the case of ASCII letters. -/
def sameAsciiCase (a b : String) : Bool := a.toList.map Char.toLower == b.toList.map Char.toLower

/-- The truth value that a text spells, in any case. -/
def spelledBool? (text : String) : Option Bool :=
  if sameAsciiCase text "true" then some true
  else if sameAsciiCase text "false" then some false
  else none

end KeyedState

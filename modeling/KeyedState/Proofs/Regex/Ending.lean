import KeyedState.Regex.Escape

/-!
# Reading escapes with an ending behind the pattern

A pattern that is to match whole texts is read with a closing parenthesis and a dollar sign behind
it, the `ending`. This module and the two after it compare reading a pattern alone with reading it
so: each reader returns the same in both cases, or fails in both, or fails alone and goes astray
with the ending, into which it has then read (`Follows`). What is left of the pattern afterwards
has the ending behind it again, unless a comment has swallowed it (`Behind`).

Going astray is rare: a backslash at the end escapes the parenthesis, `\p` at the end takes it for
the name of a property, and an unclosed brace behind `\b` is left to be read as bounds
(`Escape.follows_read`).
-/

namespace KeyedState.Regex

/-- What is put behind a pattern that is to match whole texts. -/
def ending : List Char := [')', '$']

/-- What is left of a pattern, and what is left of it with the ending behind it. The ending is
still there, or a comment has swallowed it with the last of the pattern. -/
inductive Behind : List Char → List Char → Prop where
  | kept (cs : List Char) : Behind cs (cs ++ ending)
  | lost : Behind [] []

theorem Behind.atEnd : Behind [] ending := .kept []

theorem Behind.eq_nil_or_ending {cs : List Char} (h : Behind [] cs) : cs = [] ∨ cs = ending := by
  cases h with
  | kept => exact .inr rfl
  | lost => exact .inl rfl

theorem Behind.cons (c : Char) (cs : List Char) : Behind (c :: cs) (c :: (cs ++ ending)) :=
  .kept (c :: cs)

/-- A part of the ending is left, but not all of it. -/
def InEnding (cs : List Char) : Prop := cs = ['$'] ∨ cs = []

/-- What the ending does not begin with is part of the pattern. -/
theorem exists_of_append_ending {v u : List Char} {d : Char} (h : v ++ ending = d :: u)
    (hd : d ≠ ')') : ∃ v', v = d :: v' ∧ u = v' ++ ending := by
  cases v with
  | nil =>
    cases h
    exact absurd rfl hd
  | cons c v =>
    cases h
    exact ⟨v, rfl, rfl⟩

/-- Two results of reading, without and with the ending. They are alike, or both are faults, or
reading went astray: it failed without the ending, and went on with it. -/
inductive Follows {α : Type} (alike : α → α → Prop) (astray : α → Prop) :
    Except Fault α → Except Fault α → Prop where
  | ok {a a' : α} (h : alike a a') : Follows alike astray (.ok a) (.ok a')
  | error {e e' : Fault} : Follows alike astray (.error e) (.error e')
  | astray {e : Fault} {a : α} (h : astray a) : Follows alike astray (.error e) (.ok a)

/-- A result that is a fault or went astray. -/
def Strays {α : Type} (astray : α → Prop) (x : Except Fault α) : Prop := ∀ a, x = .ok a → astray a

/-- The same has been read, and at most so many characters are left. -/
def SameRest {α : Type} (count : Nat) (x y : α × List Char) : Prop :=
  y.1 = x.1 ∧ Behind x.2 y.2 ∧ x.2.length ≤ count

theorem sameRest {α : Type} {a : α} {rest rest' : List Char} {count : Nat} (h : Behind rest rest')
    (hle : rest.length ≤ count) : SameRest count (a, rest) (a, rest') :=
  ⟨rfl, h, hle⟩

variable {α β : Type} {alike : α → α → Prop} {astray : α → Prop} {alike' : β → β → Prop}
  {astray' : β → Prop}

theorem Strays.follows {e : Fault} {x : Except Fault α} (h : Strays astray x) :
    Follows alike astray (.error e) x := by
  cases x with
  | error e' => exact .error
  | ok a => exact .astray (h a rfl)

theorem Strays.error {e : Fault} : Strays astray (.error e) := by
  rintro a ⟨⟩

theorem Strays.ok {a : α} (h : astray a) : Strays astray (.ok a) := by
  rintro b ⟨⟩
  exact h

/-- What goes on only astray fails when going on astray does. -/
theorem Strays.exists_error {x : Except Fault α} {f : α → Except Fault β} (h : Strays astray x)
    (hf : ∀ a, astray a → ∃ e, f a = .error e) : ∃ e, (x >>= f) = .error e := by
  cases x with
  | error e => exact ⟨e, rfl⟩
  | ok a => exact hf a (h a rfl)

theorem Follows.bind {x y : Except Fault α} {f g : α → Except Fault β}
    (h : Follows alike astray x y)
    (hf : ∀ a a', alike a a' → Follows alike' astray' (f a) (g a'))
    (hg : ∀ a, astray a → Strays astray' (g a)) : Follows alike' astray' (x >>= f) (y >>= g) := by
  cases h with
  | ok h => exact hf _ _ h
  | error => exact .error
  | astray h => exact (hg _ h).follows

/-- Both read the same, or both fail. -/
def Agrees {α : Type} (count : Nat) (x y : Except Fault (α × List Char)) : Prop :=
  Follows (SameRest count) (fun _ => False) x y

theorem Follows.andThen {γ : Type} {count : Nat} {astray : γ × List Char → Prop}
    {x y : Except Fault (γ × List Char)} {f g : γ × List Char → Except Fault β}
    (h : Follows (SameRest count) astray x y)
    (hf : ∀ a rest rest', Behind rest rest' → rest.length ≤ count →
      Follows alike' astray' (f (a, rest)) (g (a, rest')))
    (hg : ∀ a, astray a → Strays astray' (g a)) : Follows alike' astray' (x >>= f) (y >>= g) := by
  refine h.bind ?_ hg
  rintro ⟨_, rest⟩ ⟨a, rest'⟩ ⟨rfl, hrest, hle⟩
  exact hf a rest rest' hrest hle

theorem Agrees.andThen {γ : Type} {count : Nat} {x y : Except Fault (γ × List Char)}
    {f g : γ × List Char → Except Fault β} (h : Agrees count x y)
    (hf : ∀ a rest rest', Behind rest rest' → rest.length ≤ count →
      Follows alike' astray' (f (a, rest)) (g (a, rest'))) :
    Follows alike' astray' (x >>= f) (y >>= g) :=
  Follows.andThen h hf fun _ => False.elim

theorem Follows.of_ok {x : α} {y : Except Fault α} (h : Follows alike astray (.ok x) y) :
    ∃ a, y = .ok a ∧ alike x a := by
  cases h with
  | ok h => exact ⟨_, rfl, h⟩

theorem Follows.of_error {e : Fault} {y : Except Fault α}
    (h : Follows alike astray (.error e) y) : Strays astray y := by
  cases h with
  | error => exact .error
  | astray h => exact .ok h

theorem Follows.weaken {x y : Except Fault α} {astray₁ : α → Prop} (h : Follows alike astray x y)
    (hastray : ∀ a, astray a → astray₁ a) : Follows alike astray₁ x y := by
  cases h with
  | ok h => exact .ok h
  | error => exact .error
  | astray h => exact .astray (hastray _ h)

theorem Agrees.follows {count : Nat} {x y : Except Fault (α × List Char)}
    {astray : α × List Char → Prop} (h : Agrees count x y) :
    Follows (SameRest count) astray x y :=
  h.weaken fun _ => False.elim

/-! ## Blanks and comments -/

theorem behind_skipSpace (inComment : Bool) {cs cs' : List Char} (h : Behind cs cs') :
    Behind (skipSpace inComment cs) (skipSpace inComment cs') := by
  cases h with
  | lost => exact .lost
  | kept =>
    induction cs generalizing inComment with
    | nil =>
      cases inComment with
      | false => exact .kept []
      | true => exact .lost
    | cons c cs ih =>
      rw [List.cons_append, skipSpace, skipSpace]
      split
      · exact ih _
      · split
        · exact ih _
        · split
          · exact ih _
          · exact .kept (c :: cs)

theorem behind_skip (f : Flags) {cs cs' : List Char} (h : Behind cs cs') :
    Behind (f.skip cs) (f.skip cs') := by
  unfold Flags.skip
  split
  · exact behind_skipSpace false h
  · exact h

theorem length_skipSpace_le (inComment : Bool) (cs : List Char) :
    (skipSpace inComment cs).length ≤ cs.length := by
  induction cs generalizing inComment with
  | nil => exact Nat.le_refl 0
  | cons c cs ih =>
    rw [skipSpace]
    split
    · exact Nat.le_succ_of_le (ih _)
    · split
      · exact Nat.le_succ_of_le (ih _)
      · split
        · exact Nat.le_succ_of_le (ih _)
        · exact Nat.le_refl _

theorem length_skip_le (f : Flags) (cs : List Char) : (f.skip cs).length ≤ cs.length := by
  unfold Flags.skip
  split
  · exact length_skipSpace_le false cs
  · exact Nat.le_refl _

theorem skip_nil (f : Flags) : f.skip [] = [] := by
  unfold Flags.skip
  split
  · rfl
  · rfl

theorem skip_dollar (f : Flags) : f.skip ['$'] = ['$'] := by
  unfold Flags.skip
  split
  · rfl
  · rfl

theorem skip_ending (f : Flags) : f.skip ending = ending := by
  unfold Flags.skip
  split
  · rfl
  · rfl

theorem skip_brace (f : Flags) (cs : List Char) : f.skip ('\x7b' :: cs) = '\x7b' :: cs := by
  unfold Flags.skip
  split
  · rfl
  · rfl

theorem InEnding.skip {f : Flags} {cs : List Char} (h : InEnding cs) : InEnding (f.skip cs) := by
  rcases h with rfl | rfl
  · exact .inl (skip_dollar f)
  · exact .inr (skip_nil f)

/-- What follows after blanks and comments, without the ending and with it. -/
theorem skip_cases (f : Flags) {cs cs' : List Char} (h : Behind cs cs') :
    (f.skip cs = [] ∧ (f.skip cs' = [] ∨ f.skip cs' = ending)) ∨
      ∃ c v, f.skip cs = c :: v ∧ f.skip cs' = c :: (v ++ ending) ∧ v.length < cs.length := by
  have hskip := behind_skip f h
  have hle := length_skip_le f cs
  generalize f.skip cs = w at hskip hle ⊢
  generalize f.skip cs' = w' at hskip ⊢
  cases hskip with
  | lost => exact .inl ⟨rfl, .inl rfl⟩
  | kept =>
    cases w with
    | nil => exact .inl ⟨rfl, .inr rfl⟩
    | cons c v => exact .inr ⟨c, v, rfl, rfl, hle⟩

/-! ## Escapes -/

namespace Escape

theorem agrees_hexDigits (f : Flags) (n count : Nat) {cs cs' : List Char} {bound : Nat}
    (h : Behind cs cs') (hle : cs.length ≤ bound) :
    Agrees bound (hexDigits f n count cs) (hexDigits f n count cs') := by
  induction count generalizing n cs cs' with
  | zero => exact .ok (sameRest h hle)
  | succ count ih =>
    cases h with
    | lost => exact .error
    | kept =>
      cases cs with
      | nil => exact .error
      | cons c cs =>
        rw [List.cons_append, hexDigits, hexDigits]
        cases hex? c with
        | none => exact .error
        | some d =>
          refine ih _ (behind_skip f (.kept cs)) ?_
          exact Nat.le_trans (length_skip_le f cs) (Nat.le_of_succ_le hle)

/-- There is no closing brace in the ending. -/
theorem braced_of_inEnding (f : Flags) (fuel : Nat) {cs : List Char}
    (h : InEnding cs ∨ cs = ending) : ∃ e, braced f fuel cs = .error e := by
  induction fuel generalizing cs with
  | zero => exact ⟨_, rfl⟩
  | succ fuel ih =>
    rw [braced]
    rcases h with (rfl | rfl) | rfl
    · obtain ⟨e, he⟩ := ih (.inl (.inr rfl))
      rw [skip_dollar]
      exact ⟨e, by show (braced f fuel [] >>= _) = _; rw [he]; rfl⟩
    · rw [skip_nil]
      exact ⟨_, rfl⟩
    · obtain ⟨e, he⟩ := ih (.inl (.inl rfl))
      rw [skip_ending]
      exact ⟨e, by show (braced f fuel ['$'] >>= _) = _; rw [he]; rfl⟩

theorem agrees_braced (f : Flags) {fuel fuel' : Nat} {cs cs' : List Char} {bound : Nat}
    (h : Behind cs cs') (hle : cs.length ≤ bound) (hfuel : cs.length < fuel)
    (hfuel' : cs.length + 2 < fuel') :
    Agrees bound (braced f fuel cs) (braced f fuel' cs') := by
  induction fuel generalizing fuel' cs cs' with
  | zero => exact absurd hfuel (Nat.not_lt_zero _)
  | succ fuel ih =>
    obtain ⟨fuel', rfl⟩ := Nat.exists_eq_succ_of_ne_zero (Nat.ne_of_gt (Nat.zero_lt_of_lt hfuel'))
    rcases skip_cases f h with ⟨hw, hw' | hw'⟩ | ⟨c, v, hw, hw', hlt⟩
    · rw [braced, braced, hw, hw']
      exact .error
    · obtain ⟨e, he⟩ := braced_of_inEnding f fuel' (.inl (.inl rfl))
      rw [braced, braced, hw, hw']
      show Agrees _ _ (braced f fuel' ['$'] >>= _)
      rw [he]
      exact .error
    · rw [braced, braced, hw, hw']
      by_cases hc : c = '\x7d'
      · subst hc
        exact .ok (sameRest (.kept v) (by omega))
      · simp only
        refine (ih (.kept v) (by omega) (by omega) (by omega)).andThen ?_
        intro name rest rest' hrest hle
        exact .ok (sameRest hrest hle)

/-- A code that is none of a character is a fault, whatever is left. -/
theorem agrees_ofCode (c : Option Char) (byCode : Bool) {rest rest' : List Char} {bound : Nat}
    (h : Behind rest rest') (hle : rest.length ≤ bound) :
    Agrees bound
      (match c with
        | some c => pure (char c byCode, rest)
        | none => Except.error Fault.invalidEscape)
      (match c with
        | some c => pure (char c byCode, rest')
        | none => Except.error Fault.invalidEscape) := by
  cases c with
  | none => exact .error
  | some c => exact .ok (sameRest h hle)

theorem agrees_byCode (f : Flags) (count : Nat) {cs cs' : List Char} {bound : Nat}
    (h : Behind cs cs') (hle : cs.length ≤ bound) :
    Agrees bound (byCode f count cs) (byCode f count cs') := by
  rcases skip_cases f h with ⟨hw, hw' | hw'⟩ | ⟨c, v, hw, hw', hlt⟩
  · rw [byCode, byCode, hw, hw']
    exact (agrees_hexDigits f 0 count .lost (Nat.zero_le bound)).andThen
      fun n _ _ => agrees_ofCode (charOf? n) _
  · rw [byCode, byCode, hw, hw']
    show Follows _ _ (hexDigits f 0 count [] >>= _) (hexDigits f 0 count ending >>= _)
    exact (agrees_hexDigits f 0 count .atEnd (Nat.zero_le bound)).andThen
      fun n _ _ => agrees_ofCode (charOf? n) _
  · rw [byCode, byCode, hw, hw']
    by_cases hc : c = '\x7b'
    · subst hc
      exact (agrees_braced f (.kept v) (Nat.le_of_lt (Nat.lt_of_lt_of_le hlt hle)) (by omega)
        (by simp [ending])).andThen
          fun digits _ _ => agrees_ofCode ((hexValue? digits).bind charOf?) false
    · simp only [List.cons.injEq, hc, false_and, false_imp_iff, implies_true]
      exact (agrees_hexDigits f 0 count (.cons c v) (Nat.le_trans hlt hle)).andThen
        fun n _ _ => agrees_ofCode (charOf? n) _

theorem follows_byProperty (f : Flags) (negated : Bool) {cs cs' : List Char} {bound : Nat}
    (h : Behind cs cs') (hle : cs.length ≤ bound) :
    Follows (SameRest bound) (fun x => InEnding x.2) (byProperty f negated cs)
      (byProperty f negated cs') := by
  rcases skip_cases f h with ⟨hw, hw' | hw'⟩ | ⟨c, v, hw, hw', hlt⟩
  · rw [byProperty, byProperty, hw, hw']
    exact .error
  · rw [byProperty, byProperty, hw, hw']
    refine Strays.follows ?_
    show Strays _ (if !f.unicode then _ else _)
    split
    · exact .error
    · split
      · exact .error
      · rename_i s _
        cases finish f negated s with
        | error e => exact .error
        | ok s => exact .ok (.inl rfl)
  · rw [byProperty, byProperty, hw, hw']
    by_cases hopen : c = '\x7b'
    · subst hopen
      refine (agrees_braced f (.kept v) (Nat.le_of_lt (Nat.lt_of_lt_of_le hlt hle)) (by omega)
        (by simp [ending])).andThen fun name rest rest' hrest hle => ?_
      show Follows _ _ (property f negated name >>= fun e => pure (e, rest))
        (property f negated name >>= fun e => pure (e, rest'))
      cases property f negated name with
      | error e => exact .error
      | ok e => exact .ok (sameRest hrest hle)
    · by_cases hescape : c = '\\'
      · subst hescape
        exact .error
      · simp only
        split
        · exact .error
        · split
          · exact .error
          · rename_i s _
            cases finish f negated s with
            | error e => exact .error
            | ok s => exact .ok (sameRest (.kept v) (by omega))

/-- The braces behind a word boundary were taken for a name without the ending, and are taken for
bounds with it; or reading went into the ending. -/
def Astray (f : Flags) (x : Escape × List Char) : Prop :=
  InEnding x.2 ∨ ∃ l rest, x = (.look l, '\x7b' :: rest) ∧ f.skip rest = ending

theorem follows_wordBoundary (f : Flags) {cs cs' : List Char} {bound : Nat} (h : Behind cs cs')
    (hle : cs.length ≤ bound) :
    Follows (SameRest bound) (Astray f) (wordBoundary f cs) (wordBoundary f cs') := by
  cases h with
  | lost => exact .ok (sameRest .lost hle)
  | kept =>
    cases cs with
    | nil => exact .ok (sameRest .atEnd hle)
    | cons c cs =>
      by_cases hc : c = '\x7b'
      · subst hc
        rw [List.cons_append, wordBoundary, wordBoundary]
        rcases skip_cases f (.kept cs) with ⟨hw, hw' | hw'⟩ | ⟨d, v, hw, hw', hlt⟩
        · rw [hw, hw']
          exact .error
        · rw [hw, hw']
          exact .astray (.inr ⟨_, _, rfl, hw'⟩)
        · rw [hw, hw']
          simp only
          split
          · refine (agrees_braced f (.cons d v) (Nat.le_of_lt (Nat.lt_of_lt_of_le ?_ hle))
              (Nat.lt_succ_self _) (by simp [ending])).andThen fun name rest rest' hrest hle => ?_
            · exact Nat.succ_lt_succ hlt
            · dsimp only
              cases boundary? f.unicode name with
              | none => exact .error
              | some l => exact .ok (sameRest hrest hle)
          · exact .ok (sameRest (.cons _ cs) hle)
      · rw [List.cons_append, wordBoundary.eq_2, wordBoundary.eq_2]
        · exact .ok (sameRest (.cons c cs) hle)
        · simpa using hc
        · simpa using hc

/-- An escape is read alike. A backslash at the end escapes the closing parenthesis. -/
theorem follows_read (f : Flags) {cs cs' : List Char} {bound : Nat} (h : Behind cs cs')
    (hle : cs.length ≤ bound) :
    Follows (SameRest bound) (Astray f) (Escape.read f cs) (Escape.read f cs') := by
  cases h with
  | lost => exact .error
  | kept =>
    cases cs with
    | nil => exact .astray (.inl (.inl rfl))
    | cons c cs =>
      have hbehind : Behind cs (cs ++ ending) := .kept cs
      have hrest : cs.length ≤ bound := Nat.le_of_succ_le hle
      have hok : ∀ e, Follows (SameRest bound) (Astray f) (.ok (e, cs)) (.ok (e, cs ++ ending)) :=
        fun _ => .ok (sameRest hbehind hrest)
      have hcode : ∀ count,
          Follows (SameRest bound) (Astray f) (byCode f count cs) (byCode f count (cs ++ ending)) :=
        fun count => (agrees_byCode f count hbehind hrest).follows
      have hproperty : ∀ negated, Follows (SameRest bound) (Astray f) (byProperty f negated cs)
          (byProperty f negated (cs ++ ending)) :=
        fun negated => (follows_byProperty f negated hbehind hrest).weaken fun _ => .inl
      have hletter : ∀ letter negated, Follows (SameRest bound) (Astray f)
          ((byLetter f letter negated).map (·, cs))
          ((byLetter f letter negated).map (·, cs ++ ending)) := by
        intro letter negated
        cases byLetter f letter negated with
        | error e => exact .error
        | ok e => exact hok e
      have hboundary := follows_wordBoundary f hbehind hrest
      unfold Escape.read
      simp only [List.cons_append]
      split
      all_goals first
        | exact hok _
        | exact hcode _
        | exact hproperty _
        | exact hletter _ _
        | exact hboundary
        | skip
      split
      · exact hok _
      · exact .error

end Escape

end KeyedState.Regex

import KeyedState.Proofs.Regex.ClassEnding
import KeyedState.Regex.Token

/-!
# Reading tokens with an ending behind the pattern

The bounds of repetitions, the starts of groups and every other token are read alike without and
with the ending, or go astray with it (`Token.follows_readOne`).
-/

namespace KeyedState.Regex

namespace Token

/-! ## Repetitions -/

theorem behind_dropBlanks {cs cs' : List Char} (h : Behind cs cs') :
    Behind (cs.dropWhile isBlank) (cs'.dropWhile isBlank) := by
  cases h with
  | lost => exact .lost
  | kept =>
    induction cs with
    | nil => exact .atEnd
    | cons c cs ih =>
      rw [List.cons_append, List.dropWhile_cons, List.dropWhile_cons]
      split
      · exact ih
      · exact .cons c cs

theorem readDigits_nil_behind (f : Flags) (fuel fuel' : Nat) {cs' : List Char} (h : Behind [] cs')
    (bound : Nat) : SameRest bound (readDigits f fuel []) (readDigits f fuel' cs') := by
  have hatEnd : ∀ fuel cs, cs = [] ∨ cs = ending → readDigits f fuel cs = ([], cs) := by
    rintro fuel _ (rfl | rfl)
    · cases fuel <;> rfl
    · cases fuel <;> rfl
  rw [hatEnd fuel [] (.inl rfl), hatEnd fuel' cs' h.eq_nil_or_ending]
  exact sameRest h (Nat.zero_le bound)

theorem readDigits_behind (f : Flags) {fuel fuel' : Nat} {cs cs' : List Char} {bound : Nat}
    (h : Behind cs cs') (hle : cs.length ≤ bound) (hfuel : cs.length ≤ fuel)
    (hfuel' : cs'.length ≤ fuel') :
    SameRest bound (readDigits f fuel cs) (readDigits f fuel' cs') := by
  induction fuel generalizing fuel' cs cs' with
  | zero =>
    cases List.length_eq_zero_iff.1 (Nat.le_zero.1 hfuel)
    exact readDigits_nil_behind f 0 fuel' h bound
  | succ fuel ih =>
    cases cs with
    | nil => exact readDigits_nil_behind f (fuel + 1) fuel' h bound
    | cons c cs =>
      cases h
      obtain ⟨fuel', rfl⟩ :=
        Nat.exists_eq_succ_of_ne_zero (Nat.ne_of_gt (Nat.zero_lt_of_lt hfuel'))
      rw [List.cons_append, readDigits, readDigits]
      split
      · have hskip := length_skip_le f cs
        have hskip' := length_skip_le f (cs ++ ending)
        obtain ⟨hds, hrest, hlen⟩ := ih (behind_skip f (.kept cs))
          (Nat.le_trans hskip (Nat.le_of_succ_le hle))
          (Nat.le_trans hskip (Nat.le_of_succ_le_succ hfuel))
          (Nat.le_trans hskip' (Nat.le_of_succ_le_succ hfuel'))
        exact ⟨congrArg (c :: ·) hds, hrest, hlen⟩
      · exact sameRest (.cons c cs) hle

theorem length_dropBlanks_le (cs : List Char) : (cs.dropWhile isBlank).length ≤ cs.length :=
  (List.dropWhile_suffix _).length_le

theorem agrees_readBound (f : Flags) {cs cs' : List Char} {bound : Nat} (h : Behind cs cs')
    (hle : cs.length ≤ bound) : Agrees bound (readBound f cs) (readBound f cs') := by
  obtain ⟨hds, hrest, hlen⟩ := readDigits_behind f (behind_dropBlanks h)
    (Nat.le_trans (length_dropBlanks_le cs) hle) (Nat.le_refl _) (Nat.le_refl _)
  unfold readBound
  dsimp only
  rw [hds]
  have hleft := behind_skip f (behind_dropBlanks hrest)
  have hlen := Nat.le_trans (length_skip_le f _) (Nat.le_trans (length_dropBlanks_le _) hlen)
  split
  · exact .ok (sameRest hleft hlen)
  · split
    · exact .ok (sameRest hleft hlen)
    · exact .error

theorem readGreed_behind (f : Flags) (least : Nat) (most : Option Nat) {cs cs' : List Char}
    {bound : Nat} (h : Behind cs cs') (hle : cs.length ≤ bound) :
    SameRest bound (readGreed f least most cs) (readGreed f least most cs') := by
  cases h with
  | lost => exact sameRest .lost hle
  | kept =>
    cases cs with
    | nil => exact sameRest .atEnd hle
    | cons c cs =>
      by_cases hc : c = '?'
      · subst hc
        exact sameRest (.kept cs) (Nat.le_of_succ_le hle)
      · rw [List.cons_append, readGreed, readGreed]
        · exact sameRest (.cons c cs) hle
        · simpa using hc
        · simpa using hc

/-- The upper bound of a repetition, from behind the comma. -/
def readMost (f : Flags) (least : Nat) (cs : List Char) : Except Fault (Token × List Char) := do
  let (most, cs) ← readBound f cs
  match most, cs with
  | some most, '\x7d' :: cs =>
    if least ≤ most then return readGreed f least (some most) (f.skip cs)
    else .error .invalidRepetition
  | _, _ => .error .invalidRepetition

theorem agrees_greed (f : Flags) (least : Nat) (most : Option Nat) {cs cs' : List Char}
    {bound : Nat} (h : Behind cs cs') (hle : cs.length ≤ bound) :
    Agrees bound (.ok (readGreed f least most (f.skip cs)))
      (.ok (readGreed f least most (f.skip cs'))) :=
  .ok (readGreed_behind f least most (behind_skip f h) (Nat.le_trans (length_skip_le f cs) hle))

theorem agrees_readMost (f : Flags) (least : Nat) {cs cs' : List Char} {bound : Nat}
    (h : Behind cs cs') (hle : cs.length ≤ bound) :
    Agrees bound (readMost f least cs) (readMost f least cs') := by
  refine (agrees_readBound f h hle).andThen fun most rest rest' hrest hle => ?_
  dsimp only
  rcases most with _ | most
  · exact .error
  · cases hrest with
    | lost => exact .error
    | kept =>
      rcases rest with _ | ⟨c, v⟩
      · exact .error
      · by_cases hc : c = '\x7d'
        · subst hc
          show Agrees bound (if least ≤ most then _ else _) (if least ≤ most then _ else _)
          split
          · exact agrees_greed f least _ (.kept v) (Nat.le_of_succ_le hle)
          · exact .error
        · simp only [List.cons_append, List.cons.injEq, hc, false_and, false_imp_iff,
            implies_true]
          exact .error

/-- The bounds of a repetition do not reach into the ending. -/
theorem agrees_readBounds (f : Flags) {cs cs' : List Char} {bound : Nat} (h : Behind cs cs')
    (hle : cs.length ≤ bound) : Agrees bound (readBounds f cs) (readBounds f cs') := by
  unfold readBounds
  refine (agrees_readBound f (behind_skip f h) (Nat.le_trans (length_skip_le f cs) hle)).andThen
    fun least rest rest' hrest hle => ?_
  dsimp only
  rcases least with _ | least
  · exact .error
  · cases hrest with
    | lost => exact .error
    | kept =>
      rcases rest with _ | ⟨c, v⟩
      · exact .error
      · by_cases hbrace : c = '\x7d'
        · subst hbrace
          exact agrees_greed f least _ (.kept v) (Nat.le_of_succ_le hle)
        · by_cases hcomma : c = ','
          · subst hcomma
            simp only [List.cons_append]
            rcases skip_cases f (.kept v) with ⟨hw, hw' | hw'⟩ | ⟨d, u, hw, hw', hlt⟩
            · rw [hw, hw']
              exact agrees_readMost f least .lost (Nat.zero_le _)
            · rw [hw, hw']
              exact agrees_readMost f least .atEnd (Nat.zero_le _)
            · rw [hw, hw']
              have hlen : (d :: u).length ≤ bound := Nat.le_trans hlt (Nat.le_of_succ_le hle)
              by_cases hd : d = '\x7d'
              · subst hd
                exact agrees_greed f least none (.kept u) (Nat.le_of_succ_le hlen)
              · simp only [List.cons.injEq, hd, false_and, false_imp_iff, implies_true]
                exact agrees_readMost f least (.cons d u) hlen
          · simp only [List.cons_append, List.cons.injEq, hbrace, hcomma, false_and,
              false_imp_iff, implies_true]
            exact .error

/-! ## Groups -/

/-- Where the text in front of a sign ends: in the pattern, or in the ending or nowhere. -/
theorem upTo_append (stop : Char → Bool) (cs : List Char) :
    (∃ before c rest, upTo stop cs = (before, c :: rest) ∧ stop c = true ∧
      upTo stop (cs ++ ending) = (before, c :: (rest ++ ending)) ∧ rest.length < cs.length) ∨
    (upTo stop cs = (cs, []) ∧
      upTo stop (cs ++ ending) = (cs ++ (upTo stop ending).1, (upTo stop ending).2)) := by
  unfold upTo
  induction cs with
  | nil => exact .inr ⟨rfl, rfl⟩
  | cons c cs ih =>
    rw [List.cons_append]
    simp only [List.takeWhile_cons, List.dropWhile_cons]
    rcases hstop : stop c with _ | _
    · rcases ih with ⟨before, d, rest, heq, hd, heq', hlt⟩ | ⟨heq, heq'⟩
      · rw [Prod.mk.injEq] at heq heq'
        refine .inl ⟨c :: before, d, rest, ?_, hd, ?_, Nat.lt_succ_of_lt hlt⟩
        · simp [heq.1, heq.2]
        · simp [heq'.1, heq'.2]
      · rw [Prod.mk.injEq] at heq heq'
        refine .inr ⟨?_, ?_⟩
        · simp [heq.1, heq.2]
        · simp [heq'.1, heq'.2]
    · exact .inl ⟨[], c, cs, rfl, hstop, rfl, Nat.lt_succ_self _⟩

/-- The name of a group does not reach into the ending. -/
theorem agrees_readName (s : State) {cs cs' : List Char} {bound : Nat} (h : Behind cs cs')
    (hle : cs.length ≤ bound) : Agrees bound (readName s cs) (readName s cs') := by
  cases h with
  | lost => exact .error
  | kept =>
    unfold readName
    rcases upTo_append (· == '>') cs with ⟨before, c, rest, heq, -, heq', hlt⟩ | ⟨heq, heq'⟩
    · rw [heq, heq']
      rcases before with _ | ⟨d, name⟩
      · exact .error
      · dsimp only
        split
        · exact .ok (sameRest (.kept rest) (Nat.le_trans (Nat.le_of_lt hlt) hle))
        · exact .error
    · rw [heq, heq']
      rcases cs with _ | ⟨c, cs⟩
      · exact .error
      · exact .error

/-- The same token has been read, and at most so many characters are left. -/
def SameToken (count : Nat) (x y : Token × State × List Char) : Prop :=
  y.1 = x.1 ∧ y.2.1 = x.2.1 ∧ Behind x.2.2 y.2.2 ∧ x.2.2.length ≤ count

/-- Reading went astray: a part of the ending is left, or braces that were to name a word boundary
and are taken for bounds. -/
def AstrayToken (x : Token × State × List Char) : Prop :=
  InEnding x.2.2 ∨ ∃ rest, x.2.2 = '\x7b' :: rest ∧ x.2.1.flags.skip rest = ending

/-- A named group, from behind the angle bracket. -/
def readNamed (s : State) (cs : List Char) : Except Fault (Token × State × List Char) := do
  let (s, rest) ← readName s cs
  return (.opening true, s.enter s.flags, rest)

/-- Flags, from behind the question mark. -/
def readSwitch (s : State) (cs : List Char) : Except Fault (Token × State × List Char) := do
  let (letters, rest) := upTo (fun c => c == ':' || c == ')') cs
  let inner ← Flags.switchAll true [] letters s.flags
  match rest with
  | ':' :: rest => return (.opening false, s.enter inner, rest)
  | ')' :: rest =>
    if letters.isEmpty then .error .nothingToRepeat
    else return (.flags, { s with flags := inner }, rest)
  | _ => .error .unclosed

/-- The start of a group, or a change of flags, from behind blanks. -/
def readOpened (s : State) : List Char → Except Fault (Token × State × List Char)
  | '?' :: 'P' :: '<' :: cs => readNamed s cs
  | '?' :: '=' :: _ => .error .lookAround
  | '?' :: '!' :: _ => .error .lookAround
  | '?' :: '<' :: '=' :: _ => .error .lookAround
  | '?' :: '<' :: '!' :: _ => .error .lookAround
  | '?' :: '<' :: cs => readNamed s cs
  | '?' :: cs => readSwitch s cs
  | cs => return (.opening true, s.enter s.flags, cs)

theorem readGroup_eq (s : State) (cs : List Char) :
    readGroup s cs = readOpened s (s.flags.skip cs) := rfl

theorem follows_readNamed (s : State) {cs cs' : List Char} {bound : Nat} (h : Behind cs cs')
    (hle : cs.length ≤ bound) :
    Follows (SameToken bound) AstrayToken (readNamed s cs) (readNamed s cs') :=
  (agrees_readName s h hle).andThen fun _ _ _ hrest hle => .ok ⟨rfl, rfl, hrest, hle⟩

/-- Flags are read alike. Those that are not closed are closed by the ending. -/
theorem follows_readSwitch (s : State) {cs : List Char} {bound : Nat} (hle : cs.length ≤ bound) :
    Follows (SameToken bound) AstrayToken (readSwitch s cs) (readSwitch s (cs ++ ending)) := by
  unfold readSwitch
  rcases upTo_append (fun c => c == ':' || c == ')') cs with
    ⟨letters, c, rest, heq, hstop, heq', hlt⟩ | ⟨heq, heq'⟩
  · rw [heq, heq']
    dsimp only
    cases Flags.switchAll true [] letters s.flags with
    | error e => exact .error
    | ok inner =>
      have hlen := Nat.le_trans (Nat.le_of_lt hlt) hle
      rw [Bool.or_eq_true, beq_iff_eq, beq_iff_eq] at hstop
      rcases hstop with rfl | rfl
      · exact .ok ⟨rfl, rfl, .kept rest, hlen⟩
      · show Follows _ _ (if letters.isEmpty then _ else _) (if letters.isEmpty then _ else _)
        split
        · exact .error
        · exact .ok ⟨rfl, rfl, .kept rest, hlen⟩
  · have hending : upTo (fun c => c == ':' || c == ')') ending = ([], ending) := rfl
    rw [heq, heq', hending, List.append_nil]
    dsimp only
    cases Flags.switchAll true [] cs s.flags with
    | error e => exact .error
    | ok inner =>
      refine Strays.follows ?_
      show Strays AstrayToken (if cs.isEmpty then _ else _)
      split
      · exact .error
      · exact .ok (.inl (.inl rfl))

/-- What is neither a named group nor looks around sets flags. -/
theorem readOpened_switch (s : State) {cs : List Char} (hname : ∀ v, cs ≠ 'P' :: '<' :: v)
    (hahead : ∀ v, cs ≠ '=' :: v) (hnot : ∀ v, cs ≠ '!' :: v) (hopen : ∀ v, cs ≠ '<' :: v) :
    readOpened s ('?' :: cs) = readSwitch s cs := by
  rw [readOpened]
  · simpa using hname
  · simpa using hahead
  · simpa using hnot
  · exact fun v => hopen _
  · exact fun v => hopen _
  · exact fun v => hopen _

/-- An angle bracket behind the question mark opens a named group, where nothing looks back. -/
theorem readOpened_named (s : State) {cs : List Char} (hbehind : ∀ v, cs ≠ '=' :: v)
    (hnot : ∀ v, cs ≠ '!' :: v) : readOpened s ('?' :: '<' :: cs) = readNamed s cs := by
  rw [readOpened]
  · simpa using hbehind
  · simpa using hnot

theorem follows_readOpened_angle (s : State) {cs : List Char} {bound : Nat}
    (hle : cs.length ≤ bound) :
    Follows (SameToken bound) AstrayToken (readOpened s ('?' :: '<' :: cs))
      (readOpened s ('?' :: '<' :: (cs ++ ending))) := by
  rcases cs with _ | ⟨c, v⟩
  · exact follows_readNamed s .atEnd hle
  · by_cases hbehind : c = '='
    · subst hbehind
      exact .error
    · by_cases hnot : c = '!'
      · subst hnot
        exact .error
      · rw [readOpened_named s (by simpa using hbehind) (by simpa using hnot),
          readOpened_named s (by simpa using hbehind) (by simpa using hnot)]
        exact follows_readNamed s (.cons c v) hle

theorem follows_readOpened_mark (s : State) {cs : List Char} {bound : Nat}
    (hle : cs.length ≤ bound) :
    Follows (SameToken bound) AstrayToken (readOpened s ('?' :: cs))
      (readOpened s ('?' :: (cs ++ ending))) := by
  by_cases hopen : ∃ v, cs = '<' :: v
  · obtain ⟨v, rfl⟩ := hopen
    exact follows_readOpened_angle s (Nat.le_of_succ_le hle)
  by_cases hname : ∃ v, cs = 'P' :: '<' :: v
  · obtain ⟨v, rfl⟩ := hname
    exact follows_readNamed s (.kept v) (Nat.le_of_succ_le (Nat.le_of_succ_le hle))
  by_cases hlook : ∃ v, cs = '=' :: v ∨ cs = '!' :: v
  · obtain ⟨v, rfl | rfl⟩ := hlook
    · exact .error
    · exact .error
  · rw [readOpened_switch s (fun v h => hname ⟨v, h⟩) (fun v h => hlook ⟨v, .inl h⟩)
      (fun v h => hlook ⟨v, .inr h⟩) (fun v h => hopen ⟨v, h⟩), readOpened_switch s]
    · exact follows_readSwitch s hle
    · intro u hu
      obtain ⟨v, rfl, hv⟩ := exists_of_append_ending hu (by decide)
      obtain ⟨v, rfl, -⟩ := exists_of_append_ending hv.symm (by decide)
      exact hname ⟨v, rfl⟩
    · intro u hu
      obtain ⟨v, rfl, -⟩ := exists_of_append_ending hu (by decide)
      exact hlook ⟨v, .inl rfl⟩
    · intro u hu
      obtain ⟨v, rfl, -⟩ := exists_of_append_ending hu (by decide)
      exact hlook ⟨v, .inr rfl⟩
    · intro u hu
      obtain ⟨v, rfl, -⟩ := exists_of_append_ending hu (by decide)
      exact hopen ⟨v, rfl⟩

theorem follows_readOpened (s : State) {c : Char} {v : List Char} {bound : Nat}
    (hle : v.length < bound) :
    Follows (SameToken bound) AstrayToken (readOpened s (c :: v))
      (readOpened s (c :: (v ++ ending))) := by
  by_cases hc : c = '?'
  · subst hc
    exact follows_readOpened_mark s (Nat.le_of_lt hle)
  · have hplain : ∀ v, readOpened s (c :: v) = .ok (.opening true, s.enter s.flags, c :: v) :=
      fun v => by simp [readOpened, hc, pure, Except.pure]
    rw [hplain, hplain]
    exact .ok ⟨rfl, rfl, .cons c v, hle⟩

theorem follows_readGroup (s : State) {cs cs' : List Char} {bound : Nat} (h : Behind cs cs')
    (hle : cs.length ≤ bound) :
    Follows (SameToken bound) AstrayToken (readGroup s cs) (readGroup s cs') := by
  rw [readGroup_eq, readGroup_eq]
  rcases skip_cases s.flags h with ⟨hw, hw' | hw'⟩ | ⟨c, v, hw, hw', hlt⟩
  · rw [hw, hw']
    exact .ok ⟨rfl, rfl, .lost, Nat.zero_le _⟩
  · rw [hw, hw']
    exact .ok ⟨rfl, rfl, .atEnd, Nat.zero_le _⟩
  · rw [hw, hw']
    exact follows_readOpened s (Nat.lt_of_lt_of_le hlt hle)

/-! ## Single tokens -/

theorem sameToken_readGreed (s : State) (least : Nat) (most : Option Nat) {cs cs' : List Char}
    {bound : Nat} (h : Behind cs cs') (hle : cs.length ≤ bound) :
    Follows (SameToken bound) AstrayToken
      (.ok ((readGreed s.flags least most cs).1, s, (readGreed s.flags least most cs).2))
      (.ok ((readGreed s.flags least most cs').1, s, (readGreed s.flags least most cs').2)) :=
  have ⟨htoken, hrest, hlen⟩ := readGreed_behind s.flags least most h hle
  .ok ⟨htoken, rfl, hrest, hlen⟩

theorem follows_ofEscape (s : State) {cs cs' : List Char} {bound : Nat} (h : Behind cs cs')
    (hle : cs.length ≤ bound) :
    Follows (SameToken bound) AstrayToken
      (Escape.read s.flags cs >>= fun x => ofEscape s.flags x.1 >>= fun t => pure (t, s, x.2))
      (Escape.read s.flags cs' >>= fun x =>
        ofEscape s.flags x.1 >>= fun t => pure (t, s, x.2)) := by
  refine (Escape.follows_read s.flags h hle).andThen (fun e rest rest' hrest hle => ?_) ?_
  · dsimp only
    cases ofEscape s.flags e with
    | error e => exact .error
    | ok t => exact .ok ⟨rfl, rfl, hrest, hle⟩
  · rintro ⟨e, rest⟩ hastray
    dsimp only
    rcases hastray with hrest | ⟨l, rest, heq, hskip⟩
    · cases ofEscape s.flags e with
      | error e => exact .error
      | ok t => exact .ok (.inl hrest)
    · cases heq
      exact .ok (.inr ⟨rest, rfl, hskip⟩)

/-- A token is read alike, from behind its first character. -/
theorem follows_readOne (s : State) (c : Char) {cs cs' : List Char} {bound : Nat}
    (h : Behind cs cs') (hle : cs.length ≤ bound) :
    Follows (SameToken bound) AstrayToken (readOne s c cs) (readOne s c cs') := by
  have hok : ∀ t s, Follows (SameToken bound) AstrayToken (.ok (t, s, cs)) (.ok (t, s, cs')) :=
    fun t s => .ok ⟨rfl, rfl, h, hle⟩
  have hset : ∀ x : Except Fault CharSet, Follows (SameToken bound) AstrayToken
      (x >>= fun set => pure (.set set 0, s, cs)) (x >>= fun set => pure (.set set 0, s, cs')) := by
    intro x
    cases x with
    | error e => exact .error
    | ok set => exact hok _ _
  unfold readOne
  dsimp only
  split
  · exact follows_readGroup s h hle
  · split
    · exact .error
    · exact hok _ _
  · exact hok _ _
  · refine (Class.follows_read s.flags h hle).bind ?_ fun _ => False.elim
    rintro ⟨members, depth, rest⟩ ⟨_, _, rest'⟩ ⟨rfl, rfl, hrest, hle⟩
    exact .ok ⟨rfl, rfl, hrest, hle⟩
  · exact sameToken_readGreed s 0 (some 1) h hle
  · exact sameToken_readGreed s 0 none h hle
  · exact sameToken_readGreed s 1 none h hle
  · exact (agrees_readBounds s.flags h hle).andThen
      fun _ _ _ hrest hle => .ok ⟨rfl, rfl, hrest, hle⟩
  · exact follows_ofEscape s h hle
  · exact hset _
  · exact hok _ _
  · exact hok _ _
  · exact hset _

end Token

end KeyedState.Regex

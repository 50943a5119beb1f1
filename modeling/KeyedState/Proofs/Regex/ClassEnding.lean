import KeyedState.Proofs.Regex.Ending
import KeyedState.Regex.Class

/-!
# Reading classes with an ending behind the pattern

A class between brackets is read alike without and with the ending (`Class.follows_read`). There is
no bracket in the ending, so that a class which is not closed without it is not closed with it,
although the parenthesis and the dollar sign may be taken for members.
-/

namespace KeyedState.Regex

namespace Class

theorem cutAtChar?_append {mark : Char} (hmark : mark ∉ ending) (cs : List Char) :
    Property.cutAtChar? mark (cs ++ ending) =
      (Property.cutAtChar? mark cs).map fun x => (x.1, x.2 ++ ending) := by
  induction cs with
  | nil =>
    rw [ending, List.mem_cons, List.mem_singleton, not_or] at hmark
    simp [ending, Property.cutAtChar?, Ne.symm hmark.1, Ne.symm hmark.2]
  | cons c cs ih =>
    rw [List.cons_append, Property.cutAtChar?, Property.cutAtChar?, ih]
    split
    · rfl
    · cases Property.cutAtChar? mark cs with
      | none => rfl
      | some x => rfl

theorem length_of_cutAtChar? {mark : Char} {cs before after : List Char}
    (h : Property.cutAtChar? mark cs = some (before, after)) : after.length < cs.length := by
  induction cs generalizing before with
  | nil => cases h
  | cons c cs ih =>
    rw [Property.cutAtChar?] at h
    split at h
    · cases h
      exact Nat.lt_succ_self _
    · obtain ⟨⟨before', after'⟩, hcut, heq⟩ := Option.map_eq_some_iff.1 h
      cases heq
      exact Nat.lt_succ_of_lt (ih hcut)

/-- A named class of ASCII, from behind its colon or caret. -/
theorem cutAscii_append (f : Flags) (negated : Bool) (cs : List Char) :
    (match Property.cutAtChar? ':' (cs ++ ending) with
      | some (name, ']' :: rest) =>
        (asciiClass? (String.ofList name)).map fun s => (Escape.finish f negated s, rest)
      | _ => none) =
    Option.map (fun x : Except Fault CharSet × List Char => (x.1, x.2 ++ ending))
      (match Property.cutAtChar? ':' cs with
        | some (name, ']' :: rest) =>
          (asciiClass? (String.ofList name)).map fun s => (Escape.finish f negated s, rest)
        | _ => none) := by
  rw [cutAtChar?_append (by decide)]
  rcases Property.cutAtChar? ':' cs with _ | ⟨name, _ | ⟨c, rest⟩⟩
  · rfl
  · rfl
  · by_cases hc : c = ']'
    · subst hc
      show (asciiClass? (String.ofList name)).map _ =
        ((asciiClass? (String.ofList name)).map _).map _
      rw [Option.map_map]
      rfl
    · simp [hc]

/-- A named class of ASCII does not reach into the ending. -/
theorem readAscii?_append (f : Flags) (cs : List Char) :
    readAscii? f (cs ++ ending) = (readAscii? f cs).map fun x => (x.1, x.2 ++ ending) := by
  rcases cs with _ | ⟨c, _ | ⟨d, cs⟩⟩
  · rfl
  · by_cases hc : c = ':'
    · subst hc
      rfl
    · simp [readAscii?, hc]
  · by_cases hc : c = ':'
    · subst hc
      by_cases hd : d = '^'
      · subst hd
        exact cutAscii_append f true cs
      · have hcut := cutAscii_append f false (d :: cs)
        rw [List.cons_append, List.cons_append, readAscii?, readAscii?]
        · exact hcut
        · simpa using hd
        · simpa using hd
    · simp [readAscii?, hc]

theorem length_of_readAscii? {f : Flags} {cs rest : List Char} {s : Except Fault CharSet}
    (h : readAscii? f cs = some (s, rest)) : rest.length < cs.length := by
  unfold readAscii? at h
  split at h
  · rename_i cs
    have hname : ∀ {negated : Bool} {cs : List Char}, (match Property.cutAtChar? ':' cs with
        | some (name, ']' :: rest) =>
          (asciiClass? (String.ofList name)).map fun s => (Escape.finish f negated s, rest)
        | _ => none) = some (s, rest) → rest.length < cs.length := by
      intro negated cs h
      split at h
      · rename_i name after hcut
        obtain ⟨_, -, heq⟩ := Option.map_eq_some_iff.1 h
        cases heq
        exact Nat.lt_of_succ_lt (length_of_cutAtChar? hcut)
      · cases h
    split at h
    rename_i negated after hafter
    have hle : after.length ≤ cs.length := by
      split at hafter
      · cases hafter
        exact Nat.le_succ _
      · cases hafter
        exact Nat.le_refl _
    exact Nat.lt_succ_of_lt (Nat.lt_of_lt_of_le (hname h) hle)
  · cases h

theorem readHyphens_nil_behind (f : Flags) (items : Items) (fuel fuel' : Nat) {cs' : List Char}
    (h : Behind [] cs') (bound : Nat) :
    SameRest bound (readHyphens f items fuel []) (readHyphens f items fuel' cs') := by
  have hatEnd : ∀ fuel cs, cs = [] ∨ cs = ending → readHyphens f items fuel cs = (items, cs) := by
    rintro fuel _ (rfl | rfl)
    · cases fuel <;> rfl
    · cases fuel <;> rfl
  rw [hatEnd fuel [] (.inl rfl), hatEnd fuel' cs' h.eq_nil_or_ending]
  exact sameRest h (Nat.zero_le bound)

/-- The hyphens at the start of a class do not reach into the ending. -/
theorem readHyphens_behind (f : Flags) (items : Items) {fuel fuel' : Nat} {cs cs' : List Char}
    {bound : Nat} (h : Behind cs cs') (hle : cs.length ≤ bound) (hfuel : cs.length ≤ fuel)
    (hfuel' : cs'.length ≤ fuel') :
    SameRest bound (readHyphens f items fuel cs) (readHyphens f items fuel' cs') := by
  induction fuel generalizing items fuel' cs cs' with
  | zero =>
    cases List.length_eq_zero_iff.1 (Nat.le_zero.1 hfuel)
    exact readHyphens_nil_behind f items 0 fuel' h bound
  | succ fuel ih =>
    cases cs with
    | nil => exact readHyphens_nil_behind f items (fuel + 1) fuel' h bound
    | cons c cs =>
      cases h
      obtain ⟨fuel', rfl⟩ :=
        Nat.exists_eq_succ_of_ne_zero (Nat.ne_of_gt (Nat.zero_lt_of_lt hfuel'))
      by_cases hc : c = '-'
      · subst hc
        have hskip := length_skip_le f cs
        have hskip' := length_skip_le f (cs ++ ending)
        exact ih _ (behind_skip f (.kept cs)) (Nat.le_trans hskip (Nat.le_of_succ_le hle))
          (Nat.le_trans hskip (Nat.le_of_succ_le_succ hfuel))
          (Nat.le_trans hskip' (Nat.le_of_succ_le_succ hfuel'))
      · rw [List.cons_append, readHyphens, readHyphens]
        · exact sameRest (.cons c cs) hle
        · simpa using hc
        · simpa using hc

/-- A closing bracket stands for itself at the start of a class. -/
theorem addBracket_behind (f : Flags) (negated : Bool) (items : Items) {cs cs' : List Char}
    {bound : Nat} (h : Behind cs cs') (hle : cs.length ≤ bound) :
    ∃ items' rest rest',
      (match items.count, cs with
        | 0, ']' :: cs => (negated, items.add (.single ']') 0, f.skip cs)
        | _, cs => (negated, items, cs)) = (negated, items', rest) ∧
      (match items.count, cs' with
        | 0, ']' :: cs => (negated, items.add (.single ']') 0, f.skip cs)
        | _, cs => (negated, items, cs)) = (negated, items', rest') ∧
      Behind rest rest' ∧ rest.length ≤ bound := by
  by_cases hbracket : items.count = 0 ∧ ∃ v, cs = ']' :: v
  · obtain ⟨hcount, v, rfl⟩ := hbracket
    cases h
    rw [hcount]
    exact ⟨_, _, _, rfl, rfl, behind_skip f (.kept v),
      Nat.le_trans (length_skip_le f v) (Nat.le_of_succ_le hle)⟩
  · refine ⟨items, cs, cs', ?_, ?_, h, hle⟩
    · split
      · rename_i hcount
        exact absurd ⟨hcount, _, rfl⟩ hbracket
      · rfl
    · -- a bracket with the ending behind it is there without the ending
      split
      · rename_i v hcount
        generalize hcs' : ']' :: v = cs' at h
        cases h with
        | kept =>
          rcases cs with _ | ⟨c, v⟩
          · cases hcs'
          · cases hcs'
            exact absurd ⟨hcount, _, rfl⟩ hbracket
        | lost => cases hcs'
      · rfl

/-- The hyphens at the start of a class, and a closing bracket that stands for itself. -/
theorem readStart_behind (f : Flags) (negated : Bool) {cs cs' : List Char} {bound : Nat}
    (h : Behind cs cs') (hle : cs.length ≤ bound) :
    ∃ items rest rest',
      (match (readHyphens f {} cs.length cs).1.count, (readHyphens f {} cs.length cs).2 with
        | 0, ']' :: rest =>
          (negated, (readHyphens f {} cs.length cs).1.add (.single ']') 0, f.skip rest)
        | _, rest => (negated, (readHyphens f {} cs.length cs).1, rest)) = (negated, items, rest) ∧
      (match (readHyphens f {} cs'.length cs').1.count, (readHyphens f {} cs'.length cs').2 with
        | 0, ']' :: rest =>
          (negated, (readHyphens f {} cs'.length cs').1.add (.single ']') 0, f.skip rest)
        | _, rest => (negated, (readHyphens f {} cs'.length cs').1, rest)) =
          (negated, items, rest') ∧
      Behind rest rest' ∧ rest.length ≤ bound := by
  obtain ⟨hitems, hrest, hle⟩ :=
    readHyphens_behind f {} h hle (Nat.le_refl cs.length) (Nat.le_refl cs'.length)
  rw [hitems]
  exact addBracket_behind f negated _ hrest hle

/-- The start of a class does not reach into the ending. -/
theorem readOpening_behind (f : Flags) {cs cs' : List Char} {bound : Nat} (h : Behind cs cs')
    (hle : cs.length ≤ bound) :
    ∃ negated items rest rest', readOpening f cs = (negated, items, rest) ∧
      readOpening f cs' = (negated, items, rest') ∧ Behind rest rest' ∧ rest.length ≤ bound := by
  unfold readOpening
  rcases skip_cases f h with ⟨hw, hw' | hw'⟩ | ⟨c, v, hw, hw', hlt⟩
  · rw [hw, hw']
    exact ⟨false, readStart_behind f false .lost (Nat.zero_le _)⟩
  · rw [hw, hw']
    exact ⟨false, readStart_behind f false .atEnd (Nat.zero_le _)⟩
  · rw [hw, hw']
    by_cases hc : c = '^'
    · subst hc
      exact ⟨true, readStart_behind f true (behind_skip f (.kept v))
        (Nat.le_trans (length_skip_le f v) (by omega))⟩
    · simp only [List.cons.injEq, hc, false_and, false_imp_iff, implies_true]
      exact ⟨false, readStart_behind f false (.cons c v) (Nat.le_trans hlt hle)⟩

/-- An item is read alike. At the end it is the closing parenthesis of the ending. -/
theorem follows_readItem (f : Flags) {cs cs' : List Char} {bound : Nat} (h : Behind cs cs')
    (hle : cs.length ≤ bound + 1) :
    Follows (SameRest bound) (Escape.Astray f) (readItem f cs) (readItem f cs') := by
  cases h with
  | lost => exact .error
  | kept =>
    cases cs with
    | nil => exact .astray (.inl (.inl rfl))
    | cons c cs =>
      have hrest : cs.length ≤ bound := Nat.le_of_succ_le_succ hle
      by_cases hc : c = '\\'
      · subst hc
        exact Escape.follows_read f (.kept cs) hrest
      · rw [List.cons_append, readItem, readItem]
        · exact .ok (sameRest (.kept cs) hrest)
        · simpa using hc
        · simpa using hc

/-- What follows a hyphen is looked at alike, up to the parenthesis of the ending. -/
theorem peekSpace_append (inComment : Bool) (cs : List Char) :
    peekSpace inComment (cs ++ ending) = (peekSpace inComment cs).or (some ')') := by
  induction cs generalizing inComment with
  | nil => cases inComment <;> rfl
  | cons c cs ih =>
    rw [List.cons_append, peekSpace, peekSpace]
    split
    · exact ih _
    · split
      · exact ih _
      · rfl

theorem peek_append (f : Flags) (cs : List Char) :
    peek f (cs ++ ending) = (peek f cs).or (some ')') := by
  unfold peek
  split
  · exact peekSpace_append false cs
  · cases cs <;> rfl

/-- What stands behind a hyphen that makes no range. -/
theorem peek_append_eq_iff (f : Flags) (cs : List Char) :
    (peek f (cs ++ ending) = some ']' ∨ peek f (cs ++ ending) = some '-') ↔
      (peek f cs = some ']' ∨ peek f cs = some '-') := by
  rw [peek_append]
  cases peek f cs with
  | none => decide
  | some c => rfl

/-- Nothing but the ending is left, or a part of it. -/
def AtEnding (cs : List Char) : Prop := cs = ending ∨ InEnding cs

/-- An item that is no range. -/
theorem follows_single {α : Type} {x : Except Fault α} {rest rest' : List Char} {bound : Nat}
    {astray : α × List Char → Prop} (h : Behind rest rest') (hle : rest.length ≤ bound) :
    Follows (SameRest bound) astray (x >>= fun a => pure (a, rest))
      (x >>= fun a => pure (a, rest')) := by
  cases x with
  | error e => exact .error
  | ok a => exact .ok (sameRest h hle)

theorem strays_single {α : Type} {x : Except Fault α} {rest : List Char} (h : AtEnding rest) :
    Strays (fun y => AtEnding y.2) (x >>= fun a => pure (a, rest)) := by
  cases x with
  | error e => exact .error
  | ok a => exact .ok h

/-- The range between two items, with what is left behind it. -/
def rangeOf (f : Flags) (rest : List Char) : Escape → Escape → Except Fault (CharSet × List Char)
  | .char a _, .char b _ => do
    let lo ← codeOf f a
    let hi ← codeOf f b
    if lo ≤ hi then return (.range lo hi, rest) else .error .invalidClass
  | _, _ => .error .invalidClass

/-- What is left does not decide what a range is. -/
theorem rangeOf_eq (f : Flags) (first last : Escape) :
    ∃ x : Except Fault CharSet,
      ∀ rest, rangeOf f rest first last = x >>= fun s => pure (s, rest) := by
  cases first with
  | char a =>
    cases last with
    | char b =>
      simp only [rangeOf]
      cases codeOf f a with
      | error e => exact ⟨.error e, fun _ => rfl⟩
      | ok lo =>
        cases codeOf f b with
        | error e => exact ⟨.error e, fun _ => rfl⟩
        | ok hi =>
          by_cases h : lo ≤ hi
          · exact ⟨.ok (.range lo hi), fun _ => if_pos h⟩
          · exact ⟨.error .invalidClass, fun _ => if_neg h⟩
    | _ => exact ⟨.error .invalidClass, fun _ => rfl⟩
  | _ => exact ⟨.error .invalidClass, fun _ => rfl⟩

/-- An item or a range is read alike. What the ending would add to it is not closed. -/
theorem follows_readRange (f : Flags) {cs cs' : List Char} {bound : Nat} (h : Behind cs cs')
    (hle : cs.length ≤ bound + 1) :
    Follows (SameRest bound) (fun x => AtEnding x.2) (readRange f cs) (readRange f cs') := by
  have hends : ∀ {first last rest rest'}, Behind rest rest' → rest.length ≤ bound →
      Follows (SameRest bound) (fun x => AtEnding x.2) (rangeOf f rest first last)
        (rangeOf f rest' first last) := by
    intro first last rest rest' hrest hle
    obtain ⟨x, hx⟩ := rangeOf_eq f first last
    rw [hx, hx]
    exact follows_single hrest hle
  have hastray : ∀ first x, Escape.Astray f x →
      Strays (fun x => AtEnding x.2) (rangeOf f x.2 first x.1) := by
    rintro first x (hx | ⟨l, rest, rfl, -⟩)
    · obtain ⟨y, hy⟩ := rangeOf_eq f first x.1
      rw [hy]
      exact strays_single (.inr hx)
    · cases first <;> exact .error
  refine (follows_readItem f h hle).andThen (fun first rest rest' hrest hle => ?_) ?_
  · dsimp only
    rcases skip_cases f hrest with ⟨hw, hw' | hw'⟩ | ⟨c, v, hw, hw', hlt⟩
    · rw [hw, hw']
      exact .error
    · rw [hw, hw']
      exact (strays_single (.inl rfl)).follows
    · rw [hw, hw']
      by_cases hc : c = '-'
      · subst hc
        simp only [peek_append_eq_iff]
        split
        · exact follows_single (.cons _ v) (Nat.le_trans hlt hle)
        · have hskip := length_skip_le f v
          exact (follows_readItem f (behind_skip f (.kept v)) (by omega)).andThen
            (fun last rest rest' => hends) (hastray first)
      · simp only [List.cons.injEq, hc, false_and, false_imp_iff, implies_true]
        exact follows_single (.cons c v) (Nat.le_trans hlt hle)
  · rintro ⟨first, rest⟩ ((rfl | rfl) | ⟨l, v, heq, -⟩)
    · dsimp only
      rw [skip_dollar]
      exact strays_single (.inr (.inl rfl))
    · dsimp only
      rw [skip_nil]
      exact .error
    · cases heq
      dsimp only
      rw [skip_brace]
      exact .error

theorem readRange_dollar (f : Flags) : readRange f ['$'] = .error .unclosed := by
  have hitem : readItem f ['$'] = .ok (.char '$' false, []) := rfl
  simp only [readRange, hitem, bind, Except.bind, skip_nil]

theorem readRange_ending (f : Flags) : readRange f ending = .ok (.range 41 41, ['$']) := by
  have hitem : readItem f ending = .ok (.char ')' false, ['$']) := rfl
  have hcode : codeOf f ')' = .ok 41 := if_pos (.inr (by decide))
  simp only [readRange, hitem, bind, Except.bind, skip_dollar, itemSet, hcode]
  rfl

/-- One round of reading a class, from behind blanks; `next` reads on. -/
def readRound (f : Flags)
    (next : List Frame → Items → List Char → Except Fault (CharSet × Nat × List Char))
    (stack : List Frame) (items : Items) :
    List Char → Except Fault (CharSet × Nat × List Char)
  | [] => .error .unclosed
  | '[' :: cs =>
    match readAscii? f cs with
    | some (s, rest) => do next stack (items.add (← s) 0) rest
    | none =>
      let (negated, inner, rest) := readOpening f cs
      next (.bracket items negated :: stack) inner rest
  | ']' :: cs =>
    let (s, depth, stack) := finishOperand f stack items
    match stack with
    | .bracket outer negated :: stack => do
      let s ← Escape.finish f negated s
      if stack.isEmpty then return (s, depth + 1, cs)
      else next stack (outer.add s (depth + 1)) cs
    | _ => .error .unclosed
  | '&' :: '&' :: cs =>
    let (left, depth, stack) := finishOperand f stack items
    next (.op .inter left depth :: stack) {} cs
  | '-' :: '-' :: cs =>
    let (left, depth, stack) := finishOperand f stack items
    next (.op .diff left depth :: stack) {} cs
  | '~' :: '~' :: cs =>
    let (left, depth, stack) := finishOperand f stack items
    next (.op .symmDiff left depth :: stack) {} cs
  | cs => do
    let (s, rest) ← readRange f cs
    next stack (items.add s 0) rest

theorem readOn_succ (f : Flags) (fuel : Nat) (stack : List Frame) (items : Items)
    (cs : List Char) :
    readOn f (fuel + 1) stack items cs = readRound f (readOn f fuel) stack items (f.skip cs) := by
  rfl

/-- Nothing in the ending closes a class. -/
theorem readOn_atEnding (f : Flags) (fuel : Nat) (stack : List Frame) (items : Items)
    {cs : List Char} (h : AtEnding (f.skip cs)) : ∃ e, readOn f fuel stack items cs = .error e := by
  induction fuel generalizing items cs with
  | zero => exact ⟨_, rfl⟩
  | succ fuel ih =>
    rw [readOn_succ]
    rcases h with h | h | h
    · rw [h]
      obtain ⟨e, he⟩ := ih (items.add (.range 41 41) 0) (.inr (.inl (skip_dollar f)))
      refine ⟨e, ?_⟩
      show (readRange f ending >>= fun x => readOn f fuel stack (items.add x.1 0) x.2) = _
      rw [readRange_ending]
      exact he
    · rw [h]
      refine ⟨.unclosed, ?_⟩
      show (readRange f ['$'] >>= fun x => readOn f fuel stack (items.add x.1 0) x.2) = _
      rw [readRange_dollar]
      rfl
    · rw [h]
      exact ⟨_, rfl⟩

/-- The same class has been read, and at most so many characters are left. -/
def SameClass (count : Nat) (x y : CharSet × Nat × List Char) : Prop :=
  y.1 = x.1 ∧ y.2.1 = x.2.1 ∧ Behind x.2.2 y.2.2 ∧ x.2.2.length ≤ count

/-- An item is what begins with none of the signs of a class. -/
theorem readRound_item (f : Flags) {c : Char} {v : List Char} (hopen : c ≠ '[') (hclose : c ≠ ']')
    (hop : c = '&' ∨ c = '-' ∨ c = '~' → ∀ u, v ≠ c :: u)
    (next : List Frame → Items → List Char → Except Fault (CharSet × Nat × List Char))
    (stack : List Frame) (items : Items) :
    readRound f next stack items (c :: v) =
      readRange f (c :: v) >>= fun x => next stack (items.add x.1 0) x.2 := by
  rw [readRound]
  · simp
  · simpa using hopen
  · simpa using hclose
  · rintro u heq
    cases heq
    exact hop (.inl rfl) u rfl
  · rintro u heq
    cases heq
    exact hop (.inr (.inl rfl)) u rfl
  · rintro u heq
    cases heq
    exact hop (.inr (.inr rfl)) u rfl

theorem follows_readRound (f : Flags) (stack : List Frame) (items : Items) {c : Char}
    {v : List Char} {bound : Nat} (hle : v.length ≤ bound)
    {next next' : List Frame → Items → List Char → Except Fault (CharSet × Nat × List Char)}
    (hnext : ∀ (stack : List Frame) (items : Items) {cs cs' : List Char}, Behind cs cs' →
      cs.length ≤ v.length →
        Follows (SameClass bound) (fun _ => False) (next stack items cs) (next' stack items cs'))
    (hfails : ∀ (stack : List Frame) (items : Items) {cs : List Char}, AtEnding cs →
      ∃ e, next' stack items cs = .error e) :
    Follows (SameClass bound) (fun _ => False) (readRound f next stack items (c :: v))
      (readRound f next' stack items (c :: (v ++ ending))) := by
  by_cases hopen : c = '['
  · subst hopen
    rw [readRound, readRound, readAscii?_append]
    rcases hascii : readAscii? f v with _ | ⟨s, rest⟩
    · obtain ⟨negated, inner, rest, rest', hopening, hopening', hrest, hle⟩ :=
        readOpening_behind f (.kept v) (Nat.le_refl _)
      dsimp only [Option.map_none]
      rw [hopening, hopening']
      exact hnext _ _ hrest hle
    · cases s with
      | error e => exact .error
      | ok s => exact hnext _ _ (.kept rest) (Nat.le_of_lt (length_of_readAscii? hascii))
  · by_cases hclose : c = ']'
    · subst hclose
      rw [readRound, readRound]
      generalize finishOperand f stack items = operand
      obtain ⟨s, depth, stack⟩ := operand
      rcases stack with _ | ⟨frame, stack⟩
      · exact .error
      · cases frame with
        | op => exact .error
        | bracket outer negated =>
          dsimp only
          cases Escape.finish f negated s with
          | error e => exact .error
          | ok s =>
            show Follows _ _ (if stack.isEmpty then _ else _) (if stack.isEmpty then _ else _)
            split
            · exact .ok ⟨rfl, rfl, .kept v, hle⟩
            · exact hnext _ _ (.kept v) (Nat.le_refl _)
    · by_cases hop : (c = '&' ∨ c = '-' ∨ c = '~') ∧ ∃ u, v = c :: u
      · obtain ⟨rfl | rfl | rfl, u, rfl⟩ := hop
        · exact hnext _ _ (.kept u) (Nat.le_succ _)
        · exact hnext _ _ (.kept u) (Nat.le_succ _)
        · exact hnext _ _ (.kept u) (Nat.le_succ _)
      · have hitem : Follows (SameClass bound) (fun _ => False)
            (readRange f (c :: v) >>= fun x => next stack (items.add x.1 0) x.2)
            (readRange f (c :: (v ++ ending)) >>= fun x => next' stack (items.add x.1 0) x.2) := by
          refine (follows_readRange f (.cons c v) (Nat.le_refl _)).andThen
            (fun s rest rest' => hnext _ _) ?_
          intro x hx
          obtain ⟨e, he⟩ := hfails stack (items.add x.1 0) hx
          rw [he]
          exact .error
        rw [readRound_item f hopen hclose fun hc => fun u hu => hop ⟨hc, u, hu⟩,
          readRound_item f hopen hclose fun hc u hu => ?_]
        · exact hitem
        · have hclosing : c ≠ ')' := by
            rintro rfl
            revert hc
            decide
          obtain ⟨u, hu, -⟩ := exists_of_append_ending hu hclosing
          exact hop ⟨hc, u, hu⟩

/-- A class is read alike, and one that is not closed without the ending is not closed with it. -/
theorem follows_readOn (f : Flags) {fuel fuel' : Nat} (stack : List Frame) (items : Items)
    {cs cs' : List Char} {bound : Nat} (h : Behind cs cs') (hle : cs.length ≤ bound)
    (hfuel : cs.length < fuel) (hfuel' : cs.length + 2 < fuel') :
    Follows (SameClass bound) (fun _ => False) (readOn f fuel stack items cs)
      (readOn f fuel' stack items cs') := by
  induction fuel generalizing fuel' stack items cs cs' with
  | zero => exact absurd hfuel (Nat.not_lt_zero _)
  | succ fuel ih =>
    obtain ⟨fuel', rfl⟩ := Nat.exists_eq_succ_of_ne_zero (Nat.ne_of_gt (Nat.zero_lt_of_lt hfuel'))
    rcases skip_cases f h with ⟨hw, hw'⟩ | ⟨c, v, hw, hw', hlt⟩
    · obtain ⟨e, he⟩ := readOn_atEnding f (fuel' + 1) stack items
        (hw'.elim (fun hw' => .inr (.inr hw')) .inl)
      rw [he, readOn, hw]
      exact .error
    · rw [readOn_succ, readOn_succ, hw, hw']
      refine follows_readRound f stack items (by omega) ?_ ?_
      · intro stack items rest rest' hrest hlen
        exact ih stack items hrest (by omega) (by omega) (by omega)
      · intro stack items cs hcs
        refine readOn_atEnding f fuel' stack items ?_
        rcases hcs with rfl | hcs
        · exact .inl (skip_ending f)
        · exact .inr hcs.skip

/-- A class is read alike, from behind its opening bracket. -/
theorem follows_read (f : Flags) {cs cs' : List Char} {bound : Nat} (h : Behind cs cs')
    (hle : cs.length ≤ bound) :
    Follows (SameClass bound) (fun _ => False) (Class.read f cs) (Class.read f cs') := by
  cases h with
  | lost =>
    obtain ⟨negated, items, rest, rest', hopening, -, -, hrest⟩ :=
      readOpening_behind f .lost (Nat.le_refl 0)
    cases List.length_eq_zero_iff.1 (Nat.le_zero.1 hrest)
    rw [Class.read, hopening]
    show Follows _ _ (readOn f 1 _ items []) (readOn f 1 _ items [])
    rw [readOn_succ, skip_nil]
    exact .error
  | kept =>
    obtain ⟨negated, items, rest, rest', hopening, hopening', hrest, hlen⟩ :=
      readOpening_behind f (.kept cs) (Nat.le_refl cs.length)
    rw [Class.read, Class.read, hopening, hopening']
    exact follows_readOn f _ items hrest (Nat.le_trans hlen hle) (Nat.lt_succ_of_le hlen)
      (by simp [ending]; omega)

end Class

end KeyedState.Regex

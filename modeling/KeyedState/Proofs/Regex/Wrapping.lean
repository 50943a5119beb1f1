import KeyedState.Proofs.Except
import KeyedState.Proofs.Regex.Matching
import KeyedState.Proofs.Regex.TokenEnding
import KeyedState.Regex.Pattern

/-!
# Reading a pattern between two conditions

`read_wholeText` says what becomes of a pattern that can be read when `^(?:` is put in front of its
text and `)$` behind it: it is read as before, in parentheses and between the conditions for the
start and the end of the text, or a comment in it swallows what is put behind it and nothing can be
read. `read_wholeText_error` says that a faulty pattern stays faulty, unless its fault is that it
closes a group which it has not opened.

Both are proved in two steps. The tokens of the pattern are the same inside any groups, up to what
is left at its end (`Token.readsFirst_of_scanFrom`, `Token.scanFrom_inside_error`); and these
tokens build the same part inside any groups (`readTokens_inside`, `readTokens_inside_error`).
-/

namespace KeyedState.Regex

namespace Token

/-! ## Tokens inside further groups -/

/-- The state inside further groups, of which the flags around are given. -/
def State.inside (extra : List Flags) (s : State) : State := { s with outer := s.outer ++ extra }

/-- What has been read, inside further groups. -/
def carry (extra : List Flags) (x : Token × State × List Char) : Token × State × List Char :=
  (x.1, x.2.1.inside extra, x.2.2)

theorem readName_inside (extra : List Flags) (s : State) (cs : List Char) :
    readName (s.inside extra) cs =
      (readName s cs).map fun x => (x.1.inside extra, x.2) := by
  unfold readName
  rcases upTo (· == '>') cs with ⟨_ | ⟨c, name⟩, _ | ⟨d, rest⟩⟩
  · rfl
  · rfl
  · rfl
  · dsimp only [State.inside]
    split
    · rename_i hname
      exact if_pos hname
    · rename_i hname
      exact if_neg hname

theorem readNamed_inside (extra : List Flags) (s : State) (cs : List Char) :
    readNamed (s.inside extra) cs = (readNamed s cs).map (carry extra) := by
  unfold readNamed
  rw [readName_inside]
  cases readName s cs with
  | error e => rfl
  | ok x => rfl

theorem readSwitch_inside (extra : List Flags) (s : State) (cs : List Char) :
    readSwitch (s.inside extra) cs = (readSwitch s cs).map (carry extra) := by
  unfold readSwitch
  generalize upTo (fun c => c == ':' || c == ')') cs = x
  obtain ⟨letters, rest⟩ := x
  show (Flags.switchAll true [] letters s.flags >>= _) = _
  dsimp only
  cases Flags.switchAll true [] letters s.flags with
  | error e => rfl
  | ok inner =>
    dsimp only [bind, Except.bind]
    split
    · rfl
    · split
      · rfl
      · rfl
    · rfl

theorem readOpened_inside (extra : List Flags) (s : State) (cs : List Char) :
    readOpened (s.inside extra) cs = (readOpened s cs).map (carry extra) := by
  unfold readOpened
  split
  · exact readNamed_inside extra s _
  · rfl
  · rfl
  · rfl
  · rfl
  · exact readNamed_inside extra s _
  · exact readSwitch_inside extra s _
  · rfl

/-- Groups around the open ones make no difference to the next token, unless it closes one. -/
theorem readOne_inside (extra : List Flags) {s : State} {c : Char} (cs : List Char)
    (h : c = ')' → s.outer ≠ []) :
    readOne (s.inside extra) c cs = (readOne s c cs).map (carry extra) := by
  have hread : ∀ {α : Type} (x : Except Fault α) (f : α → Token × State × List Char),
      (x >>= fun a => pure (carry extra (f a))) =
        (x >>= fun a => pure (f a)).map (carry extra) := by
    intro α x f
    cases x with
    | error e => rfl
    | ok a => rfl
  unfold readOne
  dsimp only
  split
  · exact readOpened_inside extra s _
  · obtain ⟨before, outer, houter⟩ := List.exists_cons_of_ne_nil (h rfl)
    rw [State.inside, houter]
    rfl
  · rfl
  · exact hread (Class.read s.flags cs) fun x => (.set x.1 x.2.1, s, x.2.2)
  · rfl
  · rfl
  · rfl
  · exact hread (readBounds s.flags cs) fun x => (x.1, s, x.2)
  · show (Escape.read s.flags cs >>= _) = _
    cases Escape.read s.flags cs with
    | error e => rfl
    | ok x => exact hread (ofEscape s.flags x.1) fun t => (t, s, x.2)
  · exact hread (dot s.flags) fun set => (.set set 0, s, cs)
  · rfl
  · rfl
  · exact hread (charSet s.flags _ false) fun set => (.set set 0, s, cs)

/-! ## All tokens -/

/-- From a character on, there is a token and then the ones behind it. -/
theorem scanFrom_cons (fuel : Nat) (s : State) {cs : List Char} {c : Char} {v : List Char}
    (h : s.flags.skip cs = c :: v) :
    scanFrom (fuel + 1) s cs =
      readOne s c v >>= fun x => scanFrom fuel x.2.1 x.2.2 >>= fun ts => pure (x.1 :: ts) := by
  rw [scanFrom, h]

/-- The same inside further groups, unless the character closes one of them. -/
theorem scanFrom_inside_cons (fuel : Nat) (extra : List Flags) {s : State} {cs v : List Char}
    {c : Char} (h : s.flags.skip cs = c :: v) (hclosing : c = ')' → s.outer ≠ []) :
    scanFrom (fuel + 1) (s.inside extra) cs =
      readOne s c v >>= fun x => scanFrom fuel (x.2.1.inside extra) x.2.2 >>=
        fun ts => pure (x.1 :: ts) := by
  have hinside : (s.inside extra).flags.skip cs = c :: v := h
  rw [scanFrom_cons fuel _ hinside, readOne_inside extra v hclosing]
  cases readOne s c v with
  | error e => rfl
  | ok x => rfl

/-- At the end no group may be open. -/
theorem scanFrom_end (fuel : Nat) {s : State} {cs : List Char} (h : s.flags.skip cs = [])
    (hfuel : cs.length ≤ fuel) :
    scanFrom fuel s cs = if s.outer.isEmpty then .ok [] else .error .unclosed := by
  cases fuel with
  | zero =>
    cases List.length_eq_zero_iff.1 (Nat.le_zero.1 hfuel)
    rfl
  | succ fuel => rw [scanFrom, h]

theorem inside_outer_ne_nil {extra : List Flags} (h : extra ≠ []) (s : State) :
    (s.inside extra).outer ≠ [] :=
  List.append_ne_nil_of_right_ne_nil _ h

theorem scanFrom_unclosed (fuel : Nat) {s : State} {cs : List Char} (h : s.flags.skip cs = [])
    (houter : s.outer ≠ []) : scanFrom fuel s cs = .error .unclosed := by
  have hopen : s.outer.isEmpty = false := by simpa using houter
  cases fuel with
  | zero => rw [scanFrom, hopen, Bool.and_false]; rfl
  | succ fuel => rw [scanFrom, h, hopen]; rfl

/-- What is left at the end of a pattern: the ending, or nothing when a comment has swallowed it. -/
def Remains (f : Flags) (cs : List Char) : Prop := f.skip cs = [] ∨ f.skip cs = ending

/-- Inside any groups, and with enough fuel, these tokens are read first, and then what is left at
the end of a pattern, where none of the groups has been closed. -/
def ReadsFirst (ts : List Token) (fuel : Nat) (s : State) (cs : List Char) : Prop :=
  ∃ (last : State) (rest : List Char), last.outer = [] ∧ Remains last.flags rest ∧
    ∀ more, fuel + 2 ≤ more → ∃ left, 2 ≤ left ∧ ∀ extra, scanFrom more (s.inside extra) cs =
      (scanFrom left (last.inside extra) rest).map (ts ++ ·)

theorem ReadsFirst.atEnd (fuel : Nat) {s : State} {cs : List Char} (houter : s.outer = [])
    (h : Remains s.flags cs) : ReadsFirst [] fuel s cs := by
  refine ⟨s, cs, houter, h, fun more hmore => ⟨more, Nat.le_of_add_left_le hmore, fun extra => ?_⟩⟩
  cases scanFrom more (s.inside extra) cs with
  | error e => rfl
  | ok ts => rfl

theorem ReadsFirst.cons {fuel : Nat} {s s₁ : State} {cs v rest : List Char} {c : Char} {t : Token}
    {ts : List Token} (h : ReadsFirst ts fuel s₁ rest) (hcs : s.flags.skip cs = c :: v)
    (hread : readOne s c v = .ok (t, s₁, rest)) (houter : c = ')' → s.outer ≠ []) :
    ReadsFirst (t :: ts) (fuel + 1) s cs := by
  obtain ⟨last, remains, hlast, hremains, hscan⟩ := h
  refine ⟨last, remains, hlast, hremains, fun more hmore => ?_⟩
  obtain ⟨more, rfl⟩ := Nat.exists_eq_add_of_le' (Nat.le_of_add_left_le hmore)
  obtain ⟨left, hleft, hscan⟩ := hscan (more + 1) (by omega)
  refine ⟨left, hleft, fun extra => ?_⟩
  rw [scanFrom_inside_cons (more + 1) extra hcs houter, hread]
  show (scanFrom (more + 1) (s₁.inside extra) rest >>= _) = _
  rw [hscan]
  cases scanFrom left (last.inside extra) remains with
  | error e => rfl
  | ok more => rfl

/-- A closing parenthesis needs an open group. -/
theorem outer_ne_nil_of_readOne {s : State} {c : Char} (cs : List Char)
    (h : readOne s c cs ≠ .error .unopenedGroup) (hc : c = ')') : s.outer ≠ [] := by
  obtain ⟨flags, outer, names⟩ := s
  rintro rfl
  subst hc
  exact h rfl

/-- The pattern ends here. -/
theorem readsFirst_of_end {fuel : Nat} {s : State} {cs cs' : List Char} {ts : List Token}
    (h : scanFrom fuel s cs = .ok ts) (hcs : s.flags.skip cs = []) (hcs' : Remains s.flags cs')
    (hfuel : cs.length ≤ fuel) : ReadsFirst ts fuel s cs' := by
  rw [scanFrom_end fuel hcs hfuel] at h
  split at h
  · rename_i houter
    cases h
    exact .atEnd fuel (List.isEmpty_iff.1 houter) hcs'
  · cases h

/-- A pattern that is read alone is read with the ending behind it and inside any groups, up to
what is left at its end. -/
theorem readsFirst_of_scanFrom {fuel : Nat} {s : State} {cs cs' : List Char} {ts : List Token}
    (h : scanFrom fuel s cs = .ok ts) (hbehind : Behind cs cs') (hfuel : cs.length ≤ fuel) :
    ReadsFirst ts fuel s cs' := by
  induction fuel generalizing s cs cs' ts with
  | zero =>
    rcases skip_cases s.flags hbehind with ⟨hw, hw'⟩ | ⟨_, _, _, _, hlt⟩
    · exact readsFirst_of_end h hw hw' hfuel
    · exact absurd (Nat.lt_of_lt_of_le hlt hfuel) (Nat.not_lt_zero _)
  | succ fuel ih =>
    rcases skip_cases s.flags hbehind with ⟨hw, hw'⟩ | ⟨c, v, hw, hw', hlt⟩
    · exact readsFirst_of_end h hw hw' hfuel
    · rw [scanFrom_cons fuel s hw] at h
      obtain ⟨⟨t, s₁, rest⟩, hone, h⟩ := exists_of_bind_eq_ok h
      obtain ⟨more, hmore, h⟩ := exists_of_bind_eq_ok h
      cases h
      have hclosing : c = ')' → s.outer ≠ [] :=
        outer_ne_nil_of_readOne v (by rw [hone]; rintro ⟨⟩)
      have hread := follows_readOne s c (.kept v) (Nat.le_refl v.length)
      rw [hone] at hread
      obtain ⟨⟨_, _, rest'⟩, hone', rfl, rfl, hrest, hlen⟩ := hread.of_ok
      dsimp only at hmore hone' hrest hlen
      exact .cons (ih hmore hrest (by omega)) hw' hone' hclosing

/-- The ending closes the group around a pattern, and without one it closes too much. -/
theorem scanFrom_ending_eq (left : Nat) {s : State} {rest : List Char} (hs : s.outer = [])
    (h : s.flags.skip rest = ending) :
    scanFrom (left + 2) s rest = .error .unopenedGroup ∧
      scanFrom (left + 2) (s.inside [{}]) rest = .ok [.closing, .look .textEnd] := by
  obtain ⟨flags, _, names⟩ := s
  cases hs
  constructor
  · rw [scanFrom_cons (left + 1) _ h]
    rfl
  · have hinside : (State.inside [{}] { flags, names }).flags.skip rest = ending := h
    rw [scanFrom_cons (left + 1) _ hinside]
    show (scanFrom (left + 1) { names } ['$'] >>= _) = _
    rw [scanFrom_cons left _ rfl]
    show ((scanFrom left { names } [] >>= _) >>= _) = _
    rw [scanFrom_end left (skip_nil _) (Nat.zero_le left)]
    rfl

/-- What is left at the end of a pattern closes the group around it, or a comment has swallowed
it and the group is not closed. -/
theorem ReadsFirst.closed_or_lost {ts : List Token} {fuel : Nat} {s : State} {cs : List Char}
    (h : ReadsFirst ts fuel s cs) :
    (∀ more, fuel + 2 ≤ more →
      scanFrom more s cs = .error .unopenedGroup ∧
        scanFrom more (s.inside [{}]) cs = .ok (ts ++ [.closing, .look .textEnd])) ∨
      ∀ more, fuel + 2 ≤ more →
        scanFrom more s cs = .ok ts ∧ scanFrom more (s.inside [{}]) cs = .error .unclosed := by
  obtain ⟨last, rest, hlast, hremains, hscan⟩ := h
  have hscan : ∀ more, fuel + 2 ≤ more → ∃ left,
      scanFrom more s cs = (scanFrom (left + 2) last rest).map (ts ++ ·) ∧
      scanFrom more (s.inside [{}]) cs =
        (scanFrom (left + 2) (last.inside [{}]) rest).map (ts ++ ·) := by
    intro more hmore
    obtain ⟨left, hleft, hscan⟩ := hscan more hmore
    obtain ⟨left, rfl⟩ := Nat.exists_eq_add_of_le' hleft
    have halone := hscan []
    rw [State.inside, State.inside, List.append_nil, List.append_nil] at halone
    exact ⟨left, halone, hscan [{}]⟩
  rcases hremains with hrest | hrest
  · refine .inr fun more hmore => ?_
    obtain ⟨left, halone, hinside⟩ := hscan more hmore
    have hrest' : (last.inside [{}]).flags.skip rest = [] := hrest
    rw [halone, hinside, scanFrom_unclosed _ hrest' (inside_outer_ne_nil (by simp) last), scanFrom,
      hrest, hlast]
    exact ⟨congrArg Except.ok (List.append_nil ts), rfl⟩
  · refine .inl fun more hmore => ?_
    obtain ⟨left, halone, hinside⟩ := hscan more hmore
    obtain ⟨halone', hinside'⟩ := scanFrom_ending_eq left hlast hrest
    rw [halone, hinside, halone', hinside']
    exact ⟨rfl, rfl⟩

/-! ## Faults -/

theorem scanFrom_zero {s : State} (cs : List Char) (houter : s.outer ≠ []) :
    scanFrom 0 s cs = .error .unclosed := by
  rw [scanFrom, if_neg]
  simp [houter]

/-- A part of the ending closes no group. -/
theorem scanFrom_inEnding (fuel : Nat) {s : State} {cs : List Char} (h : InEnding cs)
    (houter : s.outer ≠ []) : ∃ e, scanFrom fuel s cs = .error e := by
  rcases h with rfl | rfl
  · cases fuel with
    | zero => exact ⟨_, scanFrom_zero _ houter⟩
    | succ fuel =>
      rw [scanFrom_cons fuel s (skip_dollar s.flags)]
      have hend : scanFrom fuel s [] = .error .unclosed :=
        scanFrom_unclosed fuel (skip_nil s.flags) houter
      exact exists_bind_eq_error ⟨_, hend⟩ _
  · exact ⟨_, scanFrom_unclosed fuel (skip_nil s.flags) houter⟩

/-- The ending closes no more than one group. -/
theorem scanFrom_ending (fuel : Nat) {s : State} {cs : List Char} {before : Flags}
    {outer : List Flags} (h : s.flags.skip cs = ending) (hs : s.outer = before :: outer)
    (houter : outer ≠ []) : ∃ e, scanFrom fuel s cs = .error e := by
  obtain ⟨flags, _, names⟩ := s
  cases hs
  cases fuel with
  | zero => exact ⟨_, scanFrom_zero cs (List.cons_ne_nil _ _)⟩
  | succ fuel =>
    rw [scanFrom_cons fuel _ h]
    have hdollar : ∃ e, scanFrom fuel { flags := before, outer, names } ['$'] = .error e :=
      scanFrom_inEnding fuel (.inl rfl) houter
    exact exists_bind_eq_error hdollar _

/-- Braces around the ending give no bounds. -/
theorem readBounds_ending (f : Flags) {cs : List Char} (h : f.skip cs = ending) :
    readBounds f cs = .error .invalidRepetition := by
  have hbound : readBound f ending = .ok (none, f.skip ending) := rfl
  rw [readBounds, h]
  show (readBound f ending >>= _) = _
  rw [hbound]
  rfl

/-- Where reading went astray no group is closed any more. -/
theorem scanFrom_astray (fuel : Nat) {x : Token × State × List Char} (h : AstrayToken x)
    (houter : x.2.1.outer ≠ []) : ∃ e, scanFrom fuel x.2.1 x.2.2 = .error e := by
  obtain ⟨t, s, cs⟩ := x
  rcases h with h | ⟨rest, heq, hrest⟩
  · exact scanFrom_inEnding fuel h houter
  · cases heq
    cases fuel with
    | zero => exact ⟨_, scanFrom_zero _ houter⟩
    | succ fuel =>
      rw [scanFrom_cons fuel s (skip_brace s.flags rest)]
      have hbounds := readBounds_ending s.flags hrest
      exact exists_bind_eq_error (exists_bind_eq_error ⟨_, hbounds⟩ _) _

/-- At the end of a pattern a group is still open, which the ending closes. -/
theorem scanFrom_end_error {fuel : Nat} (fuel' : Nat) {s : State} {cs cs' : List Char} {e : Fault}
    {extra : List Flags} (h : scanFrom fuel s cs = .error e) (hcs : s.flags.skip cs = [])
    (hcs' : Remains s.flags cs') (hfuel : cs.length ≤ fuel) (hextra : extra ≠ []) :
    ∃ e', scanFrom fuel' (s.inside extra) cs' = .error e' := by
  rw [scanFrom_end fuel hcs hfuel] at h
  split at h
  · cases h
  · rename_i houter
    obtain ⟨before, outer, hs⟩ := List.exists_cons_of_ne_nil (mt List.isEmpty_iff.2 houter)
    have hinside : (s.inside extra).outer = before :: (outer ++ extra) := by
      rw [State.inside, hs]
      rfl
    rcases hcs' with hcs' | hcs'
    · exact ⟨_, scanFrom_unclosed fuel' hcs' (by rw [hinside]; exact List.cons_ne_nil _ _)⟩
    · exact scanFrom_ending fuel' hcs' hinside (List.append_ne_nil_of_right_ne_nil _ hextra)

/-- A fault of the first token remains one, or reading goes astray. -/
theorem scanFrom_inside_of_readOne {fuel : Nat} {s : State} {cs' v : List Char} {c : Char}
    {e : Fault} {extra : List Flags} (hone : readOne s c v = .error e) (he : e ≠ .unopenedGroup)
    (hcs' : s.flags.skip cs' = c :: (v ++ ending)) (hextra : extra ≠ []) :
    ∃ e', scanFrom (fuel + 1) (s.inside extra) cs' = .error e' := by
  have hclosing : c = ')' → s.outer ≠ [] :=
    outer_ne_nil_of_readOne v (by rw [hone]; exact fun h => he (Except.error.inj h))
  have hread := follows_readOne s c (.kept v) (Nat.le_refl v.length)
  rw [hone] at hread
  rw [scanFrom_inside_cons fuel extra hcs' hclosing]
  refine hread.of_error.exists_error fun x hx => ?_
  have hastray : AstrayToken (carry extra x) := hx
  exact exists_bind_eq_error (scanFrom_astray fuel hastray (inside_outer_ne_nil hextra x.2.1)) _

/-- A pattern that is faulty alone is faulty with the ending behind it and inside further groups,
unless it closes a group that it has not opened. -/
theorem scanFrom_inside_error {fuel : Nat} (fuel' : Nat) {s : State} {cs cs' : List Char}
    {e : Fault} {extra : List Flags} (h : scanFrom fuel s cs = .error e) (he : e ≠ .unopenedGroup)
    (hbehind : Behind cs cs') (hfuel : cs.length ≤ fuel) (hextra : extra ≠ []) :
    ∃ e', scanFrom fuel' (s.inside extra) cs' = .error e' := by
  induction fuel generalizing fuel' s cs cs' with
  | zero =>
    rcases skip_cases s.flags hbehind with ⟨hw, hw'⟩ | ⟨_, _, _, _, hlt⟩
    · exact scanFrom_end_error fuel' h hw hw' hfuel hextra
    · exact absurd (Nat.lt_of_lt_of_le hlt hfuel) (Nat.not_lt_zero _)
  | succ fuel ih =>
    rcases skip_cases s.flags hbehind with ⟨hw, hw'⟩ | ⟨c, v, hw, hw', hlt⟩
    · exact scanFrom_end_error fuel' h hw hw' hfuel hextra
    · cases fuel' with
      | zero => exact ⟨_, scanFrom_zero cs' (inside_outer_ne_nil hextra s)⟩
      | succ fuel' =>
        rw [scanFrom_cons fuel s hw] at h
        rcases eq_error_of_bind_eq_error h with hone | ⟨⟨t, s₁, rest⟩, hone, h⟩
        · exact scanFrom_inside_of_readOne hone he hw' hextra
        · rcases eq_error_of_bind_eq_error h with hmore | ⟨ts, -, h⟩
          · have hclosing : c = ')' → s.outer ≠ [] :=
              outer_ne_nil_of_readOne v (by rw [hone]; rintro ⟨⟩)
            have hread := follows_readOne s c (.kept v) (Nat.le_refl v.length)
            rw [hone] at hread
            obtain ⟨⟨_, _, rest'⟩, hone', rfl, rfl, hrest, hlen⟩ := hread.of_ok
            dsimp only at hmore hrest hlen
            rw [scanFrom_inside_cons fuel' extra hw' hclosing, hone']
            exact exists_bind_eq_error (ih fuel' hmore hrest (by omega)) _
          · cases h

end Token

/-! ## Groups around tokens -/

/-- The outermost of some open groups. -/
def outermost (g : Group) : List Group → Group
  | [] => g
  | h :: outer => outermost h outer

theorem outermost_capture {g g' : Group} (h : g'.capture = g.capture) (outer : List Group) :
    (outermost g' outer).capture = (outermost g outer).capture := by
  cases outer with
  | nil => exact h
  | cons inner outer => rfl

/-- No token changes whether the outermost group captures. -/
theorem readToken_capture {g g' : Group} {outer outer' : List Group} {t : Token}
    (h : readToken g outer t = .ok (g', outer')) :
    (outermost g' outer').capture = (outermost g outer).capture := by
  unfold readToken at h
  split at h
  · cases h
    exact outermost_capture (by rfl) _
  · cases h
    exact outermost_capture (by rfl) _
  · cases h
    exact outermost_capture (by rfl) _
  · cases h
    rfl
  · split at h
    · cases h
    · cases h
      exact outermost_capture (by rfl) _
  · cases h
    exact outermost_capture (by rfl) _
  · split at h
    · cases h
      exact outermost_capture (by rfl) _
    · cases h

/-- Groups around the open ones make no difference to a token, unless it closes one. -/
theorem readToken_inside (extra : List Group) (g : Group) {outer : List Group} {t : Token}
    (h : readToken g outer t ≠ .error .unopenedGroup) :
    readToken g (outer ++ extra) t = (readToken g outer t).map fun x => (x.1, x.2 ++ extra) := by
  unfold readToken
  split
  · rfl
  · rfl
  · rfl
  · rfl
  · cases outer with
    | nil => exact absurd rfl h
    | cons h outer => rfl
  · rfl
  · split
    · rfl
    · rfl

/-- Tokens that are read alone are read inside any groups, up to the content of one group. -/
theorem readTokens_inside {g : Group} {outer : List Group} {ts : List Token} {p : Part}
    (h : readTokens g outer ts = .ok p) :
    ∃ last : Group, last.content = p ∧ last.capture = (outermost g outer).capture ∧
      ∀ extra more, readTokens g (outer ++ extra) (ts ++ more) = readTokens last extra more := by
  induction ts generalizing g outer with
  | nil =>
    rw [readTokens] at h
    split at h
    · rename_i houter
      cases h
      cases List.isEmpty_iff.1 houter
      exact ⟨g, rfl, rfl, fun _ _ => rfl⟩
    · cases h
  | cons t ts ih =>
    rw [readTokens] at h
    obtain ⟨⟨g₁, outer₁⟩, htoken, hts⟩ := exists_of_bind_eq_ok h
    obtain ⟨last, hcontent, hcapture, hlast⟩ := ih hts
    refine ⟨last, hcontent, hcapture.trans (readToken_capture htoken), fun extra more => ?_⟩
    rw [List.cons_append, readTokens, readToken_inside extra g (by rw [htoken]; rintro ⟨⟩), htoken]
    exact hlast extra more

/-- Tokens that are faulty alone are faulty inside a group and with the end of one group behind
them, unless they close a group that they have not opened. What they leave open stays open. -/
theorem readTokens_inside_error {g : Group} {outer : List Group} {ts : List Token} {e : Fault}
    (h : readTokens g outer ts = .error e) (he : e ≠ .unopenedGroup) (around : Group) (l : Look) :
    ∃ e', readTokens g (outer ++ [around]) (ts ++ [.closing, .look l]) = .error e' := by
  induction ts generalizing g outer with
  | nil =>
    cases outer with
    | nil => cases h
    | cons inner outer =>
      refine ⟨.unclosed, ?_⟩
      show (if (outer ++ [around]).isEmpty then Except.ok _ else Except.error Fault.unclosed) = _
      rw [if_neg]
      simp
  | cons t ts ih =>
    rw [List.cons_append, readTokens]
    rw [readTokens] at h
    cases htoken : readToken g outer t with
    | error e =>
      rw [htoken] at h
      cases h
      rw [readToken_inside [around] g (by rw [htoken]; rintro ⟨⟩; exact he rfl), htoken]
      exact ⟨_, rfl⟩
    | ok x =>
      rw [htoken] at h
      rw [readToken_inside [around] g (by rw [htoken]; rintro ⟨⟩), htoken]
      exact ih h

/-! ## Whole patterns -/

/-- A part between the conditions for the start and the end of the text, in parentheses. -/
def Part.anchored (p : Part) : Part :=
  ⟨Regex.anchored p.regex, p.depth + 2, .concat [.look .textStart, p.form, .look .textEnd]⟩

theorem toList_wholeText (pattern : String) :
    (wholeText pattern).toList = '^' :: '(' :: '?' :: ':' :: (pattern.toList ++ ending) := by
  rw [wholeText, String.toList_append, String.toList_append]
  rfl

theorem scan_wholeText (pattern : String) :
    Token.scan (wholeText pattern).toList =
      (Token.scanFrom (pattern.toList.length + 4) (Token.State.inside [{}] {})
        (pattern.toList ++ ending)).map ([.look .textStart, .opening false] ++ ·) := by
  have hlen : ('^' :: '(' :: '?' :: ':' :: (pattern.toList ++ ending)).length =
      pattern.toList.length + 4 + 2 := by
    simp [ending]
  rw [Token.scan, toList_wholeText, hlen, Token.scanFrom_cons _ {} rfl]
  generalize pattern.toList ++ ending = cs
  show (Token.scanFrom _ {} ('(' :: '?' :: ':' :: cs) >>= _) = _
  rw [Token.scanFrom_cons _ {} rfl]
  show ((Token.scanFrom _ (Token.State.inside [{}] {}) cs >>= _) >>= _) = _
  generalize Token.scanFrom _ (Token.State.inside [{}] {}) cs = x
  cases x with
  | error e => rfl
  | ok ts => rfl

/-- Tokens between the two conditions and in parentheses. -/
def anchoredTokens (ts : List Token) : List Token :=
  [.look .textStart, .opening false] ++ (ts ++ [.closing, .look .textEnd])

/-- The ending closes the parenthesis in front of a pattern, and a comment in the pattern swallows
it otherwise. -/
theorem scan_wholeText_of_scan {pattern : String} {ts : List Token}
    (h : Token.scan pattern.toList = .ok ts) :
    (Token.scan (pattern ++ ")$").toList = .error .unopenedGroup ∧
      Token.scan (wholeText pattern).toList = .ok (anchoredTokens ts)) ∨
    (Token.scan (pattern ++ ")$").toList = .ok ts ∧
      Token.scan (wholeText pattern).toList = .error .unclosed) := by
  have htext : (pattern ++ ")$").toList = pattern.toList ++ ending := by
    rw [String.toList_append]
    rfl
  have hlen : (pattern.toList ++ ending).length = pattern.toList.length + 2 := by
    rw [List.length_append]
    rfl
  rw [scan_wholeText, Token.scan, htext, hlen]
  have hfirst := Token.readsFirst_of_scanFrom h (.kept _) (Nat.le_refl _)
  rcases hfirst.closed_or_lost with hmore | hmore
  · rw [(hmore _ (Nat.le_refl _)).1, (hmore _ (by omega)).2]
    exact .inl ⟨rfl, rfl⟩
  · rw [(hmore _ (Nat.le_refl _)).1, (hmore _ (by omega)).2]
    exact .inr ⟨rfl, rfl⟩

/-- The group that holds the condition for the start of the text. -/
def startGroup : Group := Group.push { capture := false } (.part (.ofLook .textStart))

/-- Between the two conditions and in parentheses, tokens are read as before. -/
theorem readTokens_anchoredTokens {ts : List Token} {p : Part}
    (h : readTokens { capture := false } [] ts = .ok p) :
    readTokens { capture := false } [] (anchoredTokens ts) = .ok p.anchored := by
  obtain ⟨last, rfl, hcapture, hlast⟩ := readTokens_inside h
  let inner : Part := { last.content with depth := last.content.depth + 1 }
  have hitem : last.toItem = .part inner := by
    rw [Group.toItem, hcapture]
    rfl
  have hdepth : Part.deepest [.ofLook .textStart, inner, .ofLook .textEnd] =
      last.content.depth + 1 := by
    simp [Part.deepest, Part.ofLook, inner]
  calc readTokens { capture := false } [] (anchoredTokens ts)
      = readTokens { capture := false } [startGroup] (ts ++ [.closing, .look .textEnd]) := rfl
    _ = readTokens last [startGroup] [.closing, .look .textEnd] := by exact hlast [startGroup] _
    _ = readTokens ((startGroup.push last.toItem).push (.part (.ofLook .textEnd))) [] [] := rfl
    _ = .ok ⟨Regex.anchored last.content.regex,
          Part.deepest [.ofLook .textStart, inner, .ofLook .textEnd] + 1,
          .concat [.look .textStart, last.content.form, .look .textEnd]⟩ := by
        rw [hitem]
        rfl
    _ = .ok last.content.anchored := by
        rw [hdepth]
        rfl

/-- What is read of tokens, unless it is nested too deeply. -/
def ofTokens (ts : List Token) : Except Fault Part := do
  let p ← readTokens { capture := false } [] ts
  if depthLimit < p.depth then .error .nestedTooDeeply else .ok p

theorem read_eq (pattern : String) : read pattern = Token.scan pattern.toList >>= ofTokens := rfl

theorem ofTokens_anchoredTokens {ts : List Token} {p : Part} (h : ofTokens ts = .ok p) :
    ofTokens (anchoredTokens ts) =
      if depthLimit < p.depth + 2 then .error .nestedTooDeeply else .ok p.anchored := by
  obtain ⟨p', hp, h⟩ := exists_of_bind_eq_ok h
  split at h
  · cases h
  · cases h
    rw [ofTokens, readTokens_anchoredTokens hp]
    rfl

theorem ofTokens_anchoredTokens_error {ts : List Token} {e : Fault} (h : ofTokens ts = .error e)
    (he : e ≠ .unopenedGroup) : ∃ e', ofTokens (anchoredTokens ts) = .error e' := by
  rcases eq_error_of_bind_eq_error h with hp | ⟨p, hp, h⟩
  · have hinside : ∃ e', readTokens { capture := false } [] (anchoredTokens ts) = .error e' :=
      readTokens_inside_error hp he startGroup .textEnd
    exact exists_bind_eq_error hinside _
  · split at h
    · rename_i hdepth
      rw [ofTokens, readTokens_anchoredTokens hp]
      exact ⟨_, if_pos (Nat.lt_add_right 2 hdepth)⟩
    · cases h

/-- A pattern that can be read is read between the conditions for the start and the end of the
text, unless a comment in it swallows the parenthesis behind it. -/
theorem read_wholeText {pattern : String} {p : Part} (h : read pattern = .ok p) :
    (read (pattern ++ ")$") = .error .unopenedGroup ∧
      read (wholeText pattern) =
        if depthLimit < p.depth + 2 then .error .nestedTooDeeply else .ok p.anchored) ∨
    (read (pattern ++ ")$") = .ok p ∧ read (wholeText pattern) = .error .unclosed) := by
  obtain ⟨ts, hscan, hp⟩ := exists_of_bind_eq_ok h
  rw [read_eq, read_eq]
  rcases scan_wholeText_of_scan hscan with ⟨hending, hwhole⟩ | ⟨hending, hwhole⟩
  · rw [hending, hwhole]
    exact .inl ⟨rfl, ofTokens_anchoredTokens hp⟩
  · rw [hending, hwhole]
    exact .inr ⟨hp, rfl⟩

/-- A pattern that is faulty alone is faulty between the two conditions, unless it closes a group
that it has not opened. -/
theorem read_wholeText_error {pattern : String} {e : Fault} (h : read pattern = .error e)
    (he : e ≠ .unopenedGroup) : ∃ e', read (wholeText pattern) = .error e' := by
  rw [read_eq] at h ⊢
  rcases eq_error_of_bind_eq_error h with hscan | ⟨ts, hscan, h⟩
  · obtain ⟨e', he'⟩ := Token.scanFrom_inside_error (pattern.toList.length + 4) hscan he (.kept _)
      (Nat.le_refl _) (List.cons_ne_nil {} [])
    rw [scan_wholeText, he']
    exact ⟨e', rfl⟩
  · rcases scan_wholeText_of_scan hscan with ⟨-, hwhole⟩ | ⟨-, hwhole⟩
    · rw [hwhole]
      exact ofTokens_anchoredTokens_error h he
    · rw [hwhole]
      exact ⟨_, rfl⟩

end KeyedState.Regex

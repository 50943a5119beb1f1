import KeyedState.Proofs.Pattern.Whole

/-!
# The grammar of descriptions

Which JSON values describe patterns, and what the patterns do. `Pattern.Describes` is the grammar:
an object with one operator and its operand and, beside equality, whether case is ignored. A
description in the grammar is read as a pattern unless its regular expression does not compile, and
no other value is (`Pattern.ofJson_of_describes`, `Pattern.describes_or_malformed`). `Pattern.Means`
says what a pattern does by the operator and the operand that describe it. All of this makes up
`Pattern.ofJson_by_grammar`.
-/

namespace KeyedState

/-- A value stands for a truth value: it is one, or a text that spells it in any case. -/
inductive Json.Spells : Json → Bool → Prop where
  /-- A truth value. -/
  | bool (b : Bool) : Spells (.bool b) b
  /-- A text. -/
  | text {s : String} {b : Bool} (h : sameAsciiCase s (writeBool b) = true) : Spells (.str s) b

theorem Json.Spells.unique {v : Json} {b c : Bool} (hb : v.Spells b) (hc : v.Spells c) : b = c := by
  cases hb with
  | bool =>
    cases hc
    rfl
  | text hb =>
    cases hc with
    | text hc =>
      have h := (beq_iff_eq.1 hb).symm.trans (beq_iff_eq.1 hc)
      clear hb hc
      decide +revert

namespace Operator

/-- An operator takes an operand: a truth value to ask for absence, and otherwise a text, or a
number or truth value in its place. -/
def Takes : Operator → Json → Prop
  | .absent, operand => ∃ b, operand.Spells b
  | _, operand => ∃ text, operand.scalarText? = some text

/-- The operators whose operand is a regular expression. -/
def takesRegex (o : Operator) : Bool := o = .matches || o = .doesNotMatch

/-- The operator that holds of a present value where this one does not. -/
def negated? : Operator → Option Operator
  | .doesNotContain => some .contains
  | .doesNotMatch => some .matches
  | _ => none

/-- The names of operators. -/
def names : List String := all.map name

theorem named?_name (o : Operator) : named? o.name = some o := by
  cases o <;> rfl

theorem named?_eq_some_iff {name : String} {o : Operator} :
    named? name = some o ↔ name = o.name := by
  constructor
  · intro h
    have hname := List.find?_some h
    exact (beq_iff_eq.1 hname).symm
  · rintro rfl
    exact named?_name o

theorem name_inj {o o' : Operator} (h : o.name = o'.name) : o = o' := by
  have hname := named?_name o
  rw [h, named?_name o'] at hname
  exact (Option.some.inj hname).symm

theorem isSome_named? (name : String) : (named? name).isSome = decide (name ∈ names) := by
  rw [Bool.eq_iff_iff, Option.isSome_iff_exists, decide_eq_true_iff, names, List.mem_map]
  simp only [named?_eq_some_iff]
  constructor
  · rintro ⟨o, rfl⟩
    exact ⟨o, by cases o <;> decide, rfl⟩
  · rintro ⟨o, -, rfl⟩
    exact ⟨o, rfl⟩

end Operator

namespace Regex

/-- A text is compiled as a pattern for whole texts: with the conditions for the start and the end
around it, it is a regular expression that is not too large. -/
def Compiles (pattern : String) : Prop :=
  ∃ p, read (wholeText pattern) = .ok p ∧ p.form.fits = true

end Regex

/-- An operand is a regular expression, if the operator takes one. -/
def Operator.Compiles (o : Operator) (operand : Json) : Prop :=
  o.takesRegex = true → ∀ text, operand.scalarText? = some text → Regex.Compiles text

theorem WholePattern.exists_compile_iff {pattern : String} :
    (∃ w, compile pattern = .ok w) ↔ Regex.Compiles pattern := by
  constructor
  · rintro ⟨w, hw⟩
    obtain ⟨p, hp, hfits, -⟩ := exists_read_wholeText hw
    exact ⟨p, hp, hfits⟩
  · rintro ⟨p, hp, hfits⟩
    exact ⟨_, compile_of_read hp hfits⟩

/-- What is not compiled is reported with its text. -/
theorem WholePattern.compile_of_not_compiles {pattern : String} (h : ¬ Regex.Compiles pattern) :
    ∃ reason, compile pattern = .error (.invalidRegex pattern reason) := by
  rw [← exists_compile_iff] at h
  unfold compile at h ⊢
  split
  · rename_i hcompile
    rw [hcompile] at h
    exact absurd ⟨_, rfl⟩ h
  · exact ⟨_, rfl⟩

namespace Pattern

variable {members : List (String × Json)} {name : String} {d operand v : Json} {o : Operator}
  {p : Pattern}

/-! ## The grammar -/

/-- The members of an object describe a pattern with an operator and its operand. -/
structure DescribedBy (members : List (String × Json)) (o : Operator) (operand : Json) : Prop where
  /-- The operator is the one that keys name. -/
  operator : (members.filter fun m => m.1 ∈ Operator.names) = [(o.name, operand)]
  /-- Any other key says whether case is ignored, and stands beside equality. -/
  other : ∀ m ∈ members, m.1 ≠ o.name → m.1 = caseInsensitive ∧ o = .equalTo
  /-- The operator takes the operand. -/
  takes : o.Takes operand
  /-- Whether case is ignored is a truth value. -/
  flag : ∀ v, Entries.get? caseInsensitive members = some v → ∃ b, v.Spells b

/-- A value describes a pattern with an operator and its operand. -/
def Describes (d : Json) (o : Operator) (operand : Json) : Prop :=
  ∃ members, d = .object members ∧ DescribedBy members o operand

/-! ## Operands -/

theorem operandText_eq_ok_iff {text : String} :
    operandText name v = .ok text ↔ v.scalarText? = some text := by
  unfold operandText
  cases v.scalarText? <;> simp

theorem operandText_of_none (h : ∀ text, v.scalarText? ≠ some text) :
    ∃ reason, operandText name v = .error (.invalidPattern reason) := by
  unfold operandText
  split
  · rename_i text htext
    exact absurd htext (h text)
  · exact ⟨_, rfl⟩

theorem spelledBool?_eq_some_iff {s : String} {b : Bool} :
    spelledBool? s = some b ↔ sameAsciiCase s (Json.writeBool b) = true := by
  have hboth (ht : sameAsciiCase s "true" = true) : sameAsciiCase s "false" = false := by
    refine Bool.eq_false_iff.2 fun hf => ?_
    have htrue : (Json.str s).Spells true := .text ht
    have hfalse : (Json.str s).Spells false := .text hf
    cases htrue.unique hfalse
  unfold spelledBool?
  cases b with
  | true =>
    show _ ↔ sameAsciiCase s "true" = true
    split <;> simp_all
  | false =>
    show _ ↔ sameAsciiCase s "false" = true
    split <;> simp_all

theorem operandFlag_eq_ok_iff {b : Bool} : operandFlag name v = .ok b ↔ v.Spells b := by
  cases v with
  | bool c =>
    constructor
    · intro h
      cases h
      exact .bool b
    · rintro ⟨⟩
      rfl
  | str s =>
    have hspells : (Json.str s).Spells b ↔ spelledBool? s = some b := by
      rw [spelledBool?_eq_some_iff]
      exact ⟨fun h => by cases h; assumption, .text⟩
    rw [hspells, operandFlag]
    cases spelledBool? s <;> simp
  | _ => exact iff_of_false (fun h => by cases h) (fun h => by cases h)

theorem operandFlag_of_none (name : String) (h : ∀ b, ¬ v.Spells b) :
    ∃ reason, operandFlag name v = .error (.invalidPattern reason) := by
  have hno : ∀ b, operandFlag name v ≠ .ok b := fun b hb => h b (operandFlag_eq_ok_iff.1 hb)
  cases v with
  | bool b => exact absurd rfl (hno b)
  | str s =>
    rw [operandFlag] at hno ⊢
    cases hs : spelledBool? s with
    | none => exact ⟨_, rfl⟩
    | some b => exact absurd (by rw [hs]) (hno b)
  | _ => exact ⟨_, rfl⟩

/-! ## Operators -/

/-- The operators of a description are named by some of its keys. -/
theorem map_operators (members : List (String × Json)) :
    (operators members).map (fun e => (e.1.name, e.2)) =
      members.filter fun m => (Operator.named? m.1).isSome := by
  induction members with
  | nil => rfl
  | cons m ms ih =>
    obtain ⟨name, v⟩ := m
    unfold operators at ih ⊢
    rw [List.filter_cons]
    cases hname : Operator.named? name with
    | none => simpa [hname] using ih
    | some o =>
      obtain rfl := Operator.named?_eq_some_iff.1 hname
      simpa [Operator.named?_name] using ih

theorem operators_eq_singleton_iff : operators members = [(o, operand)] ↔
    (members.filter fun m => m.1 ∈ Operator.names) = [(o.name, operand)] := by
  have hfilter : (members.filter fun m => m.1 ∈ Operator.names) =
      members.filter fun m => (Operator.named? m.1).isSome := by
    simp only [← Operator.isSome_named?]
  rw [hfilter, ← map_operators, List.map_eq_singleton_iff]
  constructor
  · intro h
    exact ⟨_, h, rfl⟩
  · rintro ⟨⟨o', v⟩, h, he⟩
    obtain ⟨ho, rfl⟩ := Prod.mk.inj he
    obtain rfl : o' = o := Operator.name_inj ho
    exact h

/-! ## Reading descriptions -/

theorem caseInsensitive_ne_name (o : Operator) : caseInsensitive ≠ o.name := by
  cases o <;> decide

/-- A description in the grammar is read as its operator says. -/
theorem ofJson_of_describedBy (h : DescribedBy members o operand) :
    ofJson (.object members) = ofOperator members o operand := by
  have hknown : (members.find? fun m => (Operator.named? m.1).isNone && m.1 != caseInsensitive) =
      none := by
    rw [List.find?_eq_none]
    intro m hm hunknown
    rw [Bool.and_eq_true, Option.isNone_iff_eq_none, bne_iff_ne] at hunknown
    refine hunknown.2 (h.other m hm fun hname => ?_).1
    rw [hname, Operator.named?_name] at hunknown
    cases hunknown.1
  have hcase : ¬ (o ≠ .equalTo ∧ (Entries.get? caseInsensitive members).isSome) := by
    rintro ⟨ho, hsome⟩
    obtain ⟨v, hv⟩ := Option.isSome_iff_exists.1 hsome
    have hmem := Entries.mem_of_get?_eq_some hv
    exact ho (h.other _ hmem (caseInsensitive_ne_name o)).2
  rw [ofJson, operators_eq_singleton_iff.2 h.operator]
  simp only [hknown, if_neg hcase]

theorem ofOperator_of_not_takes (h : ¬ o.Takes operand) :
    ∃ reason, ofOperator members o operand = .error (.invalidPattern reason) := by
  cases o with
  | absent =>
    obtain ⟨reason, hflag⟩ := operandFlag_of_none Operator.absent.name fun b hb => h ⟨b, hb⟩
    exact ⟨reason, by rw [ofOperator, hflag]; rfl⟩
  | _ =>
    obtain ⟨reason, htext⟩ := operandText_of_none fun text htext => h ⟨text, htext⟩
    exact ⟨reason, by rw [ofOperator, htext]; rfl⟩

/-- An operand that is no regular expression is reported with its text. -/
theorem ofOperator_of_not_compiles {text : String} (ho : o.takesRegex = true)
    (htext : operand.scalarText? = some text) (h : ¬ Regex.Compiles text) :
    ∃ reason, ofOperator members o operand = .error (.invalidRegex text reason) := by
  obtain ⟨reason, hcompile⟩ := WholePattern.compile_of_not_compiles h
  refine ⟨reason, ?_⟩
  cases o with
  | «matches» => rw [ofOperator, operandText_eq_ok_iff.2 htext, ok_bind, hcompile]; rfl
  | doesNotMatch => rw [ofOperator, operandText_eq_ok_iff.2 htext, ok_bind, hcompile]; rfl
  | _ => cases ho

/-- Keys that are no operator say whether case is ignored, which only equality may. -/
theorem eq_caseInsensitive_of_ne
    (hoperator : (members.filter fun m => m.1 ∈ Operator.names) = [(o.name, operand)])
    (hknown : (members.find? fun m => (Operator.named? m.1).isNone && m.1 != caseInsensitive) =
      none)
    (hcase : ¬ (o ≠ .equalTo ∧ (Entries.get? caseInsensitive members).isSome))
    {m : String × Json} (hm : m ∈ members) (hname : m.1 ≠ o.name) :
    m.1 = caseInsensitive ∧ o = .equalTo := by
  have hflag : m.1 = caseInsensitive := by
    refine Classical.byContradiction fun hne => ?_
    have hnamed : m.1 ∉ Operator.names := fun hnamed => by
      have hmem : m ∈ members.filter fun m => m.1 ∈ Operator.names :=
        List.mem_filter.2 ⟨hm, decide_eq_true hnamed⟩
      rw [hoperator, List.mem_singleton] at hmem
      exact hname (congrArg Prod.fst hmem)
    refine List.find?_eq_none.1 hknown m hm ?_
    have hnone := Operator.isSome_named? m.1
    simp_all
  refine ⟨hflag, Classical.byContradiction fun ho => hcase ⟨ho, ?_⟩⟩
  rw [← Option.ne_none_iff_isSome, Ne, Entries.get?_eq_none_iff, not_not, ← hflag]
  exact List.mem_map_of_mem hm

/-- What is not in the grammar is malformed. -/
theorem ofJson_of_not_describedBy (h : ∀ o operand, ¬ DescribedBy members o operand) :
    ∃ reason, ofJson (.object members) = .error (.invalidPattern reason) := by
  rw [ofJson]
  split
  · exact ⟨_, rfl⟩
  · exact ⟨_, rfl⟩
  rename_i o operand hoperators
  split
  · exact ⟨_, rfl⟩
  rename_i hknown
  split_ifs with hcase
  · exact ⟨_, rfl⟩
  have hoperator := operators_eq_singleton_iff.1 hoperators
  have hother := fun m => eq_caseInsensitive_of_ne (m := m) hoperator hknown hcase
  by_cases htakes : o.Takes operand
  · -- all that is left to be malformed is the flag
    have hflag : ¬ ∀ v, Entries.get? caseInsensitive members = some v → ∃ b, v.Spells b :=
      fun hflag => h o operand ⟨hoperator, hother, htakes, hflag⟩
    simp only [not_forall, not_exists] at hflag
    obtain ⟨v, hv, hspells⟩ := hflag
    obtain ⟨-, rfl⟩ := hother _ (Entries.mem_of_get?_eq_some hv) (caseInsensitive_ne_name o)
    obtain ⟨expected, hexpected⟩ := htakes
    obtain ⟨reason, hreason⟩ := operandFlag_of_none caseInsensitive hspells
    refine ⟨reason, ?_⟩
    rw [ofOperator, operandText_eq_ok_iff.2 hexpected, ok_bind, ignoresCase, hv]
    simp only [hreason]
    rfl
  · exact ofOperator_of_not_takes htakes

/-- A description in the grammar whose regular expression, if it has one, compiles is read. -/
theorem exists_ofJson_of_describedBy (h : DescribedBy members o operand)
    (hcompiles : o.Compiles operand) : ∃ p, ofJson (.object members) = .ok p := by
  rw [ofJson_of_describedBy h]
  have htakes := h.takes
  cases o with
  | absent =>
    obtain ⟨b, hb⟩ := htakes
    exact ⟨.absent b, by rw [ofOperator, operandFlag_eq_ok_iff.2 hb]; rfl⟩
  | equalTo =>
    obtain ⟨text, htext⟩ := htakes
    obtain ⟨b, hb⟩ : ∃ b, ignoresCase members = .ok b := by
      unfold ignoresCase
      split
      · exact ⟨false, rfl⟩
      · rename_i v hv
        obtain ⟨b, hb⟩ := h.flag v hv
        exact ⟨b, operandFlag_eq_ok_iff.2 hb⟩
    exact ⟨.equalTo text b, by rw [ofOperator, operandText_eq_ok_iff.2 htext, ok_bind, hb]; rfl⟩
  | contains =>
    obtain ⟨text, htext⟩ := htakes
    exact ⟨.contains text, by rw [ofOperator, operandText_eq_ok_iff.2 htext]; rfl⟩
  | doesNotContain =>
    obtain ⟨text, htext⟩ := htakes
    exact ⟨.doesNotContain text, by rw [ofOperator, operandText_eq_ok_iff.2 htext]; rfl⟩
  | «matches» =>
    obtain ⟨text, htext⟩ := htakes
    obtain ⟨w, hw⟩ := WholePattern.exists_compile_iff.2 (hcompiles rfl text htext)
    exact ⟨.matches w, by rw [ofOperator, operandText_eq_ok_iff.2 htext, ok_bind, hw]; rfl⟩
  | doesNotMatch =>
    obtain ⟨text, htext⟩ := htakes
    obtain ⟨w, hw⟩ := WholePattern.exists_compile_iff.2 (hcompiles rfl text htext)
    exact ⟨.doesNotMatch w, by rw [ofOperator, operandText_eq_ok_iff.2 htext, ok_bind, hw]; rfl⟩

/-! ## What patterns do -/

/-- What a pattern does by its description, the operator of that and the operand. -/
structure Means (d : Json) (o : Operator) (operand : Json) (p : Pattern) : Prop where
  /-- A missing value is what asks to be absent. -/
  missing : p.test none = true ↔ o = .absent ∧ operand.Spells true
  /-- A present value is what asks not to be absent. -/
  present : o = .absent → ∀ value, p.test (some value) = true ↔ operand.Spells false
  /-- Where case counts, the value is the operand. -/
  equal : o = .equalTo → (∀ v, d.get? caseInsensitive = some v → v.Spells false) →
    ∀ value, p.test (some value) = true ↔ operand.scalarText? = some value
  /-- The operand is somewhere in the value. -/
  part : o = .contains → ∀ value, p.test (some value) = true ↔
    ∃ text, operand.scalarText? = some text ∧ text.toList <:+: value.toList
  /-- The operand, with the conditions for the start and the end around it, matches somewhere. -/
  fits : o = .matches → ∃ text r, operand.scalarText? = some text ∧
    Regex.read (Regex.wholeText text) = .ok r ∧ ∀ value, p.test (some value) = true ↔
      ∃ i j, i ≤ value.toList.length ∧ Regex.Spans value.toList r.regex i j
  /-- A negated operator holds of a present value where the other one does not. -/
  negated : ∀ o', o.negated? = some o' → ∃ q, ofJson (.object [(o'.name, operand)]) = .ok q ∧
    ∀ value, p.test (some value) = !q.test (some value)

/-- A description of an operator and its operand and nothing else. -/
theorem ofJson_operator (o : Operator) (operand : Json) :
    ofJson (.object [(o.name, operand)]) = ofOperator [(o.name, operand)] o operand := by
  cases o <;> rfl

/-- Case is not ignored where no flag says so. -/
theorem eq_false_of_ignoresCase {b : Bool} (h : ignoresCase members = .ok b)
    (hflag : ∀ v, Entries.get? caseInsensitive members = some v → v.Spells false) : b = false := by
  unfold ignoresCase at h
  split at h
  · exact (Except.ok.inj h).symm
  · rename_i v hv
    exact (operandFlag_eq_ok_iff.1 h).unique (hflag v hv)

theorem means_of_ofOperator (h : ofOperator members o operand = .ok p) :
    Means (.object members) o operand p := by
  cases o with
  | absent =>
    obtain ⟨b, hb, rfl⟩ := exists_of_map_eq_ok h
    have hspells : ∀ c, operand.Spells c ↔ b = c := fun c => by
      have hb := operandFlag_eq_ok_iff.1 hb
      exact ⟨hb.unique, fun h => h ▸ hb⟩
    refine ⟨?_, fun _ value => ?_, nofun, nofun, nofun, nofun⟩
    · simp [test, hspells]
    · simp [test, hspells]
  | equalTo =>
    obtain ⟨text, htext, h⟩ := exists_of_bind_eq_ok h
    obtain ⟨b, hb, h⟩ := exists_of_bind_eq_ok h
    cases h
    rw [operandText_eq_ok_iff] at htext
    refine ⟨iff_of_false nofun nofun, nofun, fun _ hflag value => ?_, nofun, nofun, nofun⟩
    rw [eq_false_of_ignoresCase hb hflag]
    simp [test, htext]
  | contains =>
    obtain ⟨text, htext, rfl⟩ := exists_of_map_eq_ok h
    rw [operandText_eq_ok_iff] at htext
    refine ⟨iff_of_false nofun nofun, nofun, nofun, fun _ value => ?_, nofun, nofun⟩
    simp [test, hasPart, occursIn_iff, htext]
  | doesNotContain =>
    obtain ⟨text, htext, rfl⟩ := exists_of_map_eq_ok h
    rw [operandText_eq_ok_iff] at htext
    refine ⟨iff_of_false nofun nofun, nofun, nofun, nofun, nofun, ?_⟩
    rintro _ ⟨⟩
    refine ⟨.contains text, ?_, fun value => rfl⟩
    rw [ofJson_operator, ofOperator, operandText_eq_ok_iff.2 htext]
    rfl
  | «matches» =>
    obtain ⟨text, htext, h⟩ := exists_of_bind_eq_ok h
    obtain ⟨w, hw, h⟩ := exists_of_bind_eq_ok h
    cases h
    rw [operandText_eq_ok_iff] at htext
    obtain ⟨r, hr, -, rfl⟩ := WholePattern.exists_read_wholeText hw
    exact ⟨iff_of_false nofun nofun, nofun, nofun, nofun,
      fun _ => ⟨text, r, htext, hr, Regex.occursIn_iff r.regex⟩, nofun⟩
  | doesNotMatch =>
    obtain ⟨text, htext, h⟩ := exists_of_bind_eq_ok h
    obtain ⟨w, hw, h⟩ := exists_of_bind_eq_ok h
    cases h
    rw [operandText_eq_ok_iff] at htext
    refine ⟨iff_of_false nofun nofun, nofun, nofun, nofun, nofun, ?_⟩
    rintro _ ⟨⟩
    refine ⟨.matches w, ?_, fun value => rfl⟩
    rw [ofJson_operator, ofOperator, operandText_eq_ok_iff.2 htext, ok_bind, hw]
    rfl

/-! ## The main statement -/

/-- A description in the grammar is read, or its regular expression is at fault. -/
theorem ofJson_of_describes (h : Describes d o operand) :
    (∃ p, ofJson d = .ok p) ∧ o.Compiles operand ∨
      ∃ text reason, ofJson d = .error (.invalidRegex text reason) ∧ o.takesRegex = true ∧
        operand.scalarText? = some text ∧ ¬ Regex.Compiles text := by
  obtain ⟨members, rfl, h⟩ := h
  by_cases hcompiles : o.Compiles operand
  · exact .inl ⟨exists_ofJson_of_describedBy h hcompiles, hcompiles⟩
  · simp only [Operator.Compiles, not_forall] at hcompiles
    obtain ⟨ho, text, htext, hnot⟩ := hcompiles
    obtain ⟨reason, hreason⟩ := ofOperator_of_not_compiles ho htext hnot
    exact .inr ⟨text, reason, (ofJson_of_describedBy h).trans hreason, ho, htext, hnot⟩

theorem describes_or_malformed (d : Json) :
    (∃ o operand, Describes d o operand) ∨
      ∃ reason, ofJson d = .error (.invalidPattern reason) := by
  refine Classical.or_iff_not_imp_left.2 fun h => ?_
  cases d with
  | object members =>
    exact ofJson_of_not_describedBy fun o operand hd => h ⟨o, operand, members, rfl, hd⟩
  | _ => exact ⟨_, rfl⟩

/-- **Descriptions are read by their grammar.** A value is read as a pattern exactly when it is a
description in the grammar whose operand, where the operator takes a regular expression, compiles.
It is refused for its regular expression exactly when it is a description in the grammar and that
does not compile, and as malformed exactly when it is not in the grammar. A pattern that is read
does what its operator and operand say. -/
theorem ofJson_by_grammar (d : Json) :
    ((∃ p, ofJson d = .ok p) ↔ ∃ o operand, Describes d o operand ∧ o.Compiles operand) ∧
    (∀ text, (∃ reason, ofJson d = .error (.invalidRegex text reason)) ↔
      ∃ o operand, Describes d o operand ∧ o.takesRegex = true ∧
        operand.scalarText? = some text ∧ ¬ Regex.Compiles text) ∧
    ((∃ reason, ofJson d = .error (.invalidPattern reason)) ↔
      ¬ ∃ o operand, Describes d o operand) ∧
    ∀ p o operand, ofJson d = .ok p → Describes d o operand → Means d o operand p := by
  refine ⟨⟨?_, ?_⟩, fun text => ⟨?_, ?_⟩, ⟨?_, fun h => ?_⟩, ?_⟩
  · rintro ⟨p, hp⟩
    rcases describes_or_malformed d with ⟨o, operand, hd⟩ | ⟨reason, hreason⟩
    · rcases ofJson_of_describes hd with ⟨-, hcompiles⟩ | ⟨text, reason, hreason, -⟩
      · exact ⟨o, operand, hd, hcompiles⟩
      · cases hp.symm.trans hreason
    · cases hp.symm.trans hreason
  · rintro ⟨o, operand, hd, hcompiles⟩
    rcases ofJson_of_describes hd with ⟨hp, -⟩ | ⟨text, reason, -, ho, htext, hnot⟩
    · exact hp
    · exact absurd (hcompiles ho text htext) hnot
  · rintro ⟨reason, hreason⟩
    rcases describes_or_malformed d with ⟨o, operand, hd⟩ | ⟨reason', hreason'⟩
    · rcases ofJson_of_describes hd with ⟨⟨p, hp⟩, -⟩ | ⟨text', reason', hreason', ho, htext, hnot⟩
      · cases hp.symm.trans hreason
      · cases hreason.symm.trans hreason'
        exact ⟨o, operand, hd, ho, htext, hnot⟩
    · cases hreason.symm.trans hreason'
  · rintro ⟨o, operand, hd, ho, htext, hnot⟩
    rcases ofJson_of_describes hd with ⟨-, hcompiles⟩ | ⟨text', reason, hreason, -, htext', -⟩
    · exact absurd (hcompiles ho text htext) hnot
    · cases htext.symm.trans htext'
      exact ⟨reason, hreason⟩
  · rintro ⟨reason, hreason⟩ ⟨o, operand, hd⟩
    rcases ofJson_of_describes hd with ⟨⟨p, hp⟩, -⟩ | ⟨text, reason', hreason', -⟩
    · cases hp.symm.trans hreason
    · cases hreason.symm.trans hreason'
  · exact (describes_or_malformed d).resolve_left h
  · rintro p o operand hp ⟨members, rfl, hd⟩
    exact means_of_ofOperator ((ofJson_of_describedBy hd).symm.trans hp)

/-- A number that is to be equalled, in any case, is described and read as its text. -/
theorem ofJson_by_grammar_equality :
    let d : Json := .object [("caseInsensitive", .str "FALSE"), ("equalTo", .int (-5))]
    ofJson d = .ok (.equalTo "-5" false) ∧ Describes d .equalTo (.int (-5)) ∧
      Means d .equalTo (.int (-5)) (.equalTo "-5" false) := by
  intro d
  have hread : ofJson d = .ok (.equalTo "-5" false) := by rfl
  have hd : Describes d .equalTo (.int (-5)) := by
    refine ⟨_, rfl, by rfl, ?_, ⟨_, rfl⟩, ?_⟩
    · decide
    · rintro _ ⟨⟩
      exact ⟨false, .text (by rfl)⟩
  obtain ⟨-, -, -, hmeans⟩ := ofJson_by_grammar d
  exact ⟨hread, hd, hmeans _ _ _ hread hd⟩

end Pattern

end KeyedState

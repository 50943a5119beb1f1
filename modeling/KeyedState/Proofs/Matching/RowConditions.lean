import KeyedState.Proofs.Decimal.Spelling
import KeyedState.Proofs.Json.Maps
import KeyedState.Proofs.Matching.Meaning
import KeyedState.Proofs.Matching.ReadConditions
import KeyedState.Proofs.Template.Literal
import KeyedState.Proofs.Template.Rendered

/-!
# Conditions on rows by their keys

The conditions on rows are written under keys, and several keys may name one position: `last` and
`-1` do, and so do all spellings of one index (`ListPosition.NamedBy`). In a match every condition
is enforced whose position no later key names (`StateMatcher.row_conditions_enforced`). Of keys that
name one position only the last one counts, and what stands under the others is not looked at: a
match may ask for more of a row than the row has (`StateMatcher.row_condition_passed_over`).
-/

namespace KeyedState

/-! ## Keys and positions -/

/-- A key names a position of rows: by a word, by `-1` for the last row, or by a spelling of the
index. -/
inductive ListPosition.NamedBy : ListPosition → String → Prop where
  | first : NamedBy .first "first"
  | last : NamedBy .last "last"
  | fromEnd : NamedBy .last "-1"
  | index {n : U64} {key : String} (h : Integer.Spells key n.val) : NamedBy (.index n) key

theorem ListPosition.parse_eq_ok_iff {key : String} {p : ListPosition} :
    parse key = .ok p ↔ p.NamedBy key := by
  constructor
  · intro h
    rw [parse] at h
    split at h
    · rename_i hkey
      cases h
      exact hkey ▸ .first
    · split at h
      · rename_i hkey
        cases h
        rcases hkey with rfl | rfl
        · exact .last
        · exact .fromEnd
      · obtain ⟨n, hn, rfl⟩ := exists_of_map_eq_ok h
        exact .index (readU64_eq_ok_iff.1 hn)
  · intro h
    cases h with
    | first => rfl
    | last => rfl
    | fromEnd => rfl
    | @index n _ h =>
      have hn := readU64_eq_ok_iff.2 h
      -- no word is a number
      rw [parse, if_neg, if_neg, hn]
      · rfl
      · rintro (rfl | rfl)
        · cases hn
        · cases hn
      · rintro rfl
        cases hn

namespace PositionMap

variable {α : Type} {m : PositionMap α} {p : ListPosition} {v : α}

theorem mem_of_get?_eq_some (h : get? p m = some v) : (p, v) ∈ m := by
  induction m with
  | nil => cases h
  | cons e es ih =>
    obtain ⟨q, w⟩ := e
    rw [get?] at h
    split at h
    · rename_i hpq
      cases h
      exact hpq ▸ List.mem_cons_self
    · exact List.mem_cons_of_mem _ (ih h)

end PositionMap

namespace ContextConditions

variable {conditions rows : ListConditions} {es : List (String × PatternConfig)}
  {p : ListPosition}

theorem get?_byPosition_of_unnamed (h : byPosition conditions es = .ok rows)
    (hp : ∀ e ∈ es, ¬ p.NamedBy e.1) : PositionMap.get? p rows = PositionMap.get? p conditions := by
  induction es generalizing conditions with
  | nil =>
    cases h
    rfl
  | cons e es ih =>
    obtain ⟨key, config⟩ := e
    obtain ⟨hkey, hes⟩ := List.forall_mem_cons.1 hp
    rw [byPosition] at h
    split at h
    · cases h
    · rename_i q hq
      have hne : p ≠ q := fun hpq => hkey (hpq ▸ ListPosition.parse_eq_ok_iff.1 hq)
      rw [ih h hes, PositionMap.get?_insert, if_neg hne]

/-- The conditions at a position are those of the last key that names it. -/
theorem get?_byPosition (h : byPosition conditions es = .ok rows) (hordered : Entries.Ordered es)
    {key : String} {config : PatternConfig} (hmem : (key, config) ∈ es) (hp : p.NamedBy key)
    (hlast : ∀ e ∈ es, key < e.1 → ¬ p.NamedBy e.1) : PositionMap.get? p rows = some config := by
  induction es generalizing conditions with
  | nil => cases hmem
  | cons e es ih =>
    obtain ⟨k, c⟩ := e
    obtain ⟨hfirst, hrest⟩ := List.pairwise_cons.1 hordered
    rw [byPosition] at h
    split at h
    · cases h
    · rename_i q hq
      rcases List.mem_cons.1 hmem with he | hmem
      · cases he
        have hpq := ListPosition.parse_eq_ok_iff.2 hp
        rw [hq] at hpq
        cases hpq
        have hlater : ∀ e ∈ es, ¬ p.NamedBy e.1 := fun e he =>
          hlast e (List.mem_cons_of_mem _ he) (hfirst e he)
        rw [get?_byPosition_of_unnamed h hlater, PositionMap.get?_insert, if_pos rfl]
      · exact ih h hrest hmem fun e he => hlast e (List.mem_cons_of_mem _ he)

theorem exists_namedBy (h : byPosition conditions es = .ok rows) {e : String × PatternConfig}
    (he : e ∈ es) : ∃ p : ListPosition, p.NamedBy e.1 := by
  induction es generalizing conditions with
  | nil => cases he
  | cons f es ih =>
    rw [byPosition] at h
    split at h
    · cases h
    · rename_i q hq
      rcases List.mem_cons.1 he with rfl | he
      · exact ⟨q, ListPosition.parse_eq_ok_iff.1 hq⟩
      · exact ih h he

end ContextConditions

/-! ## Conditions that are enforced -/

/-- A condition on a row is enforced on rows: its key names a position, there is a row at that
position, and every pattern of the condition matches the row. -/
def RowEnforced (parser : PatternParser) (rows : List Row) (key : String) (condition : Json) :
    Prop :=
  ∃ position row fields, ListPosition.NamedBy position key ∧ position.addressed rows = some row ∧
    condition = .object fields ∧
    ∀ e ∈ fields, ∃ m, parser e.2 = .ok m ∧ m (row.get? e.1) = true

/-- A key of conditions on rows is passed over: a later one names its position. -/
def PassedOver (conditions : List (String × Json)) (key : String) : Prop :=
  ∃ e ∈ conditions, key < e.1 ∧ ∃ p : ListPosition, p.NamedBy key ∧ p.NamedBy e.1

namespace ContextConditions

/-- Conditions on rows that hold are enforced, but for those whose keys are passed over. -/
theorem rowEnforced {parser : PatternParser} {members conditions : List (String × Json)}
    (hordered : (Json.object members).Ordered) {read : ContextConditions}
    (hread : ofJson (.object members) = .ok read)
    (hlist : Entries.get? "list" members = some (.object conditions)) {c : Context}
    (hold : read.HoldIn parser c) {key : String} {condition : Json}
    (hmem : (key, condition) ∈ conditions) (hlast : ¬ PassedOver conditions key) :
    RowEnforced parser c.rows key condition := by
  have hconditions : (Json.object conditions).Ordered :=
    hordered.get? (show (Json.object members).get? "list" = _ from hlist)
  have hfield := setsOnly_list.record hordered.1 hlist (mapError_eq_ok_iff.1 hread)
  obtain ⟨rows, hrows, hsome⟩ := exists_of_map_eq_ok hfield
  obtain ⟨m, hm, hrows⟩ := exists_of_bind_eq_ok hrows
  obtain ⟨es, hes, rfl, hesOrdered⟩ := Decoder.exists_of_map_eq_ok hm hconditions.1
  obtain ⟨config, hconfig, hentry⟩ := Decoder.mem_memberValues hes hmem
  obtain ⟨p, hp⟩ := exists_namedBy hrows hentry
  have hposition : PositionMap.get? p rows = some config := by
    refine get?_byPosition hrows hesOrdered hentry hp fun e he hlt hnamed => hlast ?_
    have hkey : e.1 ∈ conditions.map (·.1) :=
      Decoder.keys_memberValues hes ▸ List.mem_map_of_mem he
    obtain ⟨e', he', hsame⟩ := List.mem_map.1 hkey
    exact ⟨e', he', hsame ▸ hlt, p, hp, hsame ▸ hnamed⟩
  obtain ⟨row, hrow, hmatched⟩ := hold .list rows hsome.symm (p, config)
    (PositionMap.mem_of_get?_eq_some hposition)
  cases condition with
  | object fields =>
    have hfields : Entries.Ordered fields :=
      (Json.orderedMembers_iff.1 hconditions.2 _ hmem).1
    obtain ⟨es', hes', hto, -⟩ := Decoder.exists_of_map_eq_ok hconfig hfields
    refine ⟨p, row, fields, hp, hrow, rfl, fun e he => ?_⟩
    obtain ⟨_, ⟨⟩, hentry⟩ := Decoder.mem_memberValues hes' he
    exact hmatched e.1 e.2 (KeyMap.mem_toList.1 (hto ▸ hentry))
  | _ => cases hconfig

end ContextConditions

namespace StateMatcher

/-- The rendering of an object is an object. -/
theorem exists_members_of_renderJson {render : Renderer} {model v : Json}
    {members : List (String × Json)} (h : renderJson render model (.object members) = .ok v) :
    ∃ members', v = .object members' := by
  obtain ⟨n, hn, rfl⟩ := exists_of_map_eq_ok h
  obtain ⟨es, -, rfl⟩ := exists_of_map_eq_ok hn
  exact ⟨_, rfl⟩

/-- **Every condition on a row is enforced whose key is not passed over.** If a request matches
parameters with a context that must exist, then the context exists, and each condition on a row
that the rendered parameters have, but for keys whose position a later key names, is enforced on
the rows of that context as it was read. -/
theorem row_conditions_enforced (m : StateMatcher) (wall : Instant) (s : MemoryStore Context)
    (request parameters v : Json) (hv : parameters.get? "hasContext" = some v)
    (h : ((m.matchRequest request parameters).run MemoryStore.backend wall s).1 = .ok true) :
    ∃ template id c rendered, v = .str template ∧
      m.render (requestModel request) template = .ok id ∧ s.get? id = some c ∧
      renderJson m.render (contextModel request c) parameters = .ok rendered ∧
      ∀ conditions, rendered.get? "list" = some (.object conditions) →
        ∀ e ∈ conditions, ¬ PassedOver conditions e.1 → RowEnforced m.parser c.rows e.1 e.2 := by
  rw [run_matchRequest] at h
  rcases hquestion : MatchQuestion.ofJson parameters with e | question
  · rw [hquestion] at h
    cases h
  obtain ⟨template, hstr, rfl⟩ := ofJson_eq_ok hv hquestion
  rw [hquestion] at h
  obtain ⟨id, hid, h⟩ := exists_of_bind_eq_ok h
  obtain ⟨_, -, h⟩ := exists_of_bind_eq_ok h
  rcases hc : s.get? id with _ | c
  · rw [hc] at h
    cases h
  rw [hc] at h
  obtain ⟨rendered, read, hrendered, hread, hold⟩ := (conditionsHold_iff h).1 rfl
  refine ⟨template, id, c, rendered, hstr, hid, hc, hrendered, ?_⟩
  intro conditions hlist e he hlast
  have hordered := renderJson_ordered hrendered
  cases parameters with
  | object members =>
    obtain ⟨members', rfl⟩ := exists_members_of_renderJson hrendered
    exact ContextConditions.rowEnforced hordered hread hlist hold he hlast
  | _ => cases hv

/-- What is asked of the first row of the order: that it is tea. -/
def teaCondition : Json := .object [("item", .object [("equalTo", .str "tea")])]

/-- The question whether the first row of the order is both a cup and tea, with two spellings of
its index. -/
def cupAndTea : Json :=
  .ofMembers
    [("hasContext", .str "order-7"),
     ("list", .object
       [("0", .object [("item", .object [("equalTo", .str "cup")])]), ("00", teaCondition)])]

/-- The order is tea. -/
theorem matchRequest_cupAndTea :
    ((({} : StateMatcher).matchRequest orderRequest cupAndTea).run MemoryStore.backend .epoch
      openOrder).1 = .ok true := by
  refine eq_ok_of_toOption ?_
  decide +kernel

/-- There is nothing to render in the question. -/
theorem renderJson_cupAndTea (model : Json) :
    renderJson Template.render model cupAndTea = .ok cupAndTea := by
  have hmembers : cupAndTea = .object
      [("hasContext", .str "order-7"),
       ("list", .object
         [("0", .object [("item", .object [("equalTo", .str "cup")])]), ("00", teaCondition)])] :=
    rfl
  refine renderJson_of_literal ?_ ?_ model
  · simp only [hmembers, teaCondition, Json.Ordered, Json.OrderedMembers]
    decide
  · simp [hmembers, teaCondition, Json.AllTexts, Json.AllTextsMembers,
      Template.isLiteral_of_not_mem]

/-- The condition under the second spelling is enforced. -/
theorem row_conditions_enforced_second_spelling :
    cupAndTea.get? "hasContext" = some (.str "order-7") ∧
      ((({} : StateMatcher).matchRequest orderRequest cupAndTea).run MemoryStore.backend .epoch
        openOrder).1 = .ok true ∧
      ∃ c, openOrder.get? "order-7" = some c ∧
        RowEnforced Pattern.parser c.rows "00" teaCondition := by
  refine ⟨rfl, matchRequest_cupAndTea, ?_⟩
  obtain ⟨template, id, c, rendered, htemplate, hid, hc, hrendered, henforced⟩ :=
    row_conditions_enforced {} .epoch openOrder orderRequest cupAndTea (.str "order-7") rfl
      matchRequest_cupAndTea
  cases htemplate
  have hname : Template.render (requestModel orderRequest) "order-7" = .ok "order-7" :=
    Template.render_of_not_mem "order-7" (by decide) _
  cases hname.symm.trans hid
  cases (renderJson_cupAndTea _).symm.trans hrendered
  refine ⟨c, hc, henforced _ rfl ("00", teaCondition)
    (List.mem_cons_of_mem _ List.mem_cons_self) ?_⟩
  rintro ⟨e, he, hlt, -⟩
  revert e
  decide

/-- The condition under the first spelling is passed over: the order matches though its first row is
no cup. -/
theorem row_condition_passed_over :
    ((({} : StateMatcher).matchRequest orderRequest cupAndTea).run MemoryStore.backend .epoch
        openOrder).1 = .ok true ∧
      ∃ c conditions condition, openOrder.get? "order-7" = some c ∧
        renderJson Template.render (contextModel orderRequest c) cupAndTea = .ok cupAndTea ∧
        cupAndTea.get? "list" = some (.object conditions) ∧ ("0", condition) ∈ conditions ∧
        ¬ RowEnforced Pattern.parser c.rows "0" condition := by
  refine ⟨matchRequest_cupAndTea, _, _, _, rfl, renderJson_cupAndTea _, rfl,
    List.mem_cons_self, ?_⟩
  rintro ⟨p, row, fields, hp, hrow, hfields, hmatched⟩
  have hparse := ListPosition.parse_eq_ok_iff.2 hp
  cases hparse
  cases hrow
  cases hfields
  obtain ⟨m, hm, hitem⟩ := hmatched _ List.mem_cons_self
  cases hm
  revert hitem
  decide

end StateMatcher

end KeyedState

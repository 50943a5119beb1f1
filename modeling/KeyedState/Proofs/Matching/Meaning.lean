import KeyedState.Matching.Match
import KeyedState.Proofs.Except
import KeyedState.Proofs.Store.Alone
import Mathlib.Data.Option.Basic

/-!
# What a match means

The result of a match, said without the evaluation: conditions hold of a context when what each
kind asks of it is so (`ContextConditions.HoldIn`), and a match is an id, a context that is visible
under it, and conditions that hold of that context (`StateMatcher.IsMatch`).

Each step of the evaluation is shown to decide its part of the meaning: the matchers of a map of
texts, the row at a position, a kind of condition, and the predicates of all kinds.
-/

namespace KeyedState

/-! ## Patterns and rows -/

/-- Every described field has a value, or lacks one, as its description asks. -/
def PatternConfig.IsMatched (parser : PatternParser) (config : PatternConfig)
    (fields : KeyMap String) : Prop :=
  ∀ field description, config.get? field = some description →
    ∃ m, parser description = .ok m ∧ m (fields.get? field) = true

/-- The row that a position addresses, if there is one. -/
def ListPosition.addressed (rows : List Row) : ListPosition → Option Row
  | .first => rows.head?
  | .last => rows.getLast?
  | .index n => rows[n.val]?

/-- A position resolves to the index of the row that it addresses. -/
theorem ListPosition.resolve_bind (rows : List Row) (p : ListPosition) :
    ((p.resolve rows.length).bind (rows[·]?)) = p.addressed rows := by
  cases p with
  | first =>
    cases rows with
    | nil => rfl
    | cons row rows => rfl
  | last =>
    cases rows with
    | nil => rfl
    | cons row rows =>
      rw [addressed, List.getLast?_eq_getElem?]
      rfl
  | index n =>
    rw [resolve, addressed]
    split
    · rfl
    · rename_i h
      rw [List.getElem?_eq_none (Nat.le_of_not_lt h)]
      rfl

namespace FieldPatterns

variable {parser : PatternParser}

/-- Matchers that were read hold when each description is matched. -/
theorem hold_ofEntries {es : List (String × Json)} {patterns : FieldPatterns}
    (h : ofEntries parser es = .ok patterns) (fields : KeyMap String) :
    hold fields patterns = true ↔
      ∀ e ∈ es, ∃ m, parser e.2 = .ok m ∧ m (fields.get? e.1) = true := by
  induction es generalizing patterns with
  | nil =>
    cases h
    exact iff_of_true rfl (List.forall_mem_nil _)
  | cons e es ih =>
    obtain ⟨field, description⟩ := e
    obtain ⟨m, hm, h⟩ := exists_of_bind_eq_ok h
    obtain ⟨ms, hms, h⟩ := exists_of_bind_eq_ok h
    cases h
    have hhead : (∃ m', parser description = .ok m' ∧ m' (fields.get? field) = true) ↔
        m (fields.get? field) = true := by
      rw [hm]
      exact ⟨fun ⟨_, hm', hv⟩ => Except.ok.inj hm' ▸ hv, fun hv => ⟨m, rfl, hv⟩⟩
    rw [List.forall_mem_cons, hhead, ← ih hms]
    exact Bool.and_eq_true_iff

theorem hold_ofConfig {config : PatternConfig} {patterns : FieldPatterns}
    (h : ofConfig parser config = .ok patterns) (fields : KeyMap String) :
    hold fields patterns = true ↔ config.IsMatched parser fields := by
  rw [hold_ofEntries h]
  constructor
  · intro hall field description hget
    exact hall (field, description) (KeyMap.mem_toList.2 hget)
  · intro hall e he
    exact hall e.1 e.2 (KeyMap.mem_toList.1 he)

end FieldPatterns

/-- The row at a position exists and is matched. -/
def ListPosition.RowMatched (parser : PatternParser) (rows : List Row) (p : ListPosition)
    (config : PatternConfig) : Prop :=
  ∃ row, p.addressed rows = some row ∧ config.IsMatched parser row

namespace Predicate

variable {parser : PatternParser}

theorem rowHolds_iff {config : PatternConfig} {patterns : FieldPatterns}
    (h : FieldPatterns.ofConfig parser config = .ok patterns) (rows : List Row)
    (p : ListPosition) :
    rowHolds rows p patterns = true ↔ p.RowMatched parser rows config := by
  rw [rowHolds, ListPosition.resolve_bind, ListPosition.RowMatched]
  rcases p.addressed rows with _ | row
  · exact iff_of_false Bool.false_ne_true fun ⟨_, hrow, _⟩ => by cases hrow
  · show FieldPatterns.hold row patterns = true ↔ _
    rw [FieldPatterns.hold_ofConfig h]
    exact ⟨fun hm => ⟨row, rfl, hm⟩, fun ⟨_, hrow, hm⟩ => Option.some.inj hrow ▸ hm⟩

theorem evaluate_ofRows {conditions : ListConditions} {ps : List (ListPosition × FieldPatterns)}
    (h : ofRows parser conditions = .ok ps) (rows : List Row) :
    (ps.all fun e => rowHolds rows e.1 e.2) = true ↔
      ∀ e ∈ conditions, e.1.RowMatched parser rows e.2 := by
  induction conditions generalizing ps with
  | nil =>
    cases h
    exact iff_of_true rfl (List.forall_mem_nil _)
  | cons e es ih =>
    obtain ⟨position, config⟩ := e
    obtain ⟨patterns, hp, h⟩ := exists_of_bind_eq_ok h
    obtain ⟨rest, hps, h⟩ := exists_of_bind_eq_ok h
    cases h
    rw [List.forall_mem_cons, ← rowHolds_iff hp, ← ih hps]
    exact Bool.and_eq_true_iff

end Predicate

/-! ## Conditions -/

/-- What a kind of condition asks of a context, if it is configured: nothing otherwise. -/
def ConditionKind.HoldsIn (parser : PatternParser) (conditions : ContextConditions)
    (c : Context) : ConditionKind → Prop
  | .property => ∀ config ∈ conditions.property, config.IsMatched parser c.properties
  | .list => ∀ rows ∈ conditions.list, ∀ e ∈ rows, e.1.RowMatched parser c.rows e.2
  | .hasProperty => ∀ name ∈ conditions.hasProperty, ∃ value, c.property name = some value
  | .hasNotProperty => ∀ name ∈ conditions.hasNotProperty, c.property name = none
  | .updateCountEqualTo => ∀ n ∈ conditions.updateCountEqualTo, (c.updateCount.val : Int) = n
  | .updateCountLessThan => ∀ n ∈ conditions.updateCountLessThan, (c.updateCount.val : Int) < n
  | .updateCountMoreThan => ∀ n ∈ conditions.updateCountMoreThan, n < (c.updateCount.val : Int)
  | .listSizeEqualTo => ∀ n ∈ conditions.listSizeEqualTo, (c.rows.length : Int) = n
  | .listSizeLessThan => ∀ n ∈ conditions.listSizeLessThan, (c.rows.length : Int) < n
  | .listSizeMoreThan => ∀ n ∈ conditions.listSizeMoreThan, n < (c.rows.length : Int)

/-- All that conditions ask is so. -/
def ContextConditions.HoldIn (parser : PatternParser) (conditions : ContextConditions)
    (c : Context) : Prop :=
  ∀ kind : ConditionKind, kind.HoldsIn parser conditions c

theorem forall_mem_none {α : Type} (P : α → Prop) : ∀ x ∈ (none : Option α), P x := by
  intro x hx
  cases hx

/-- Of conditions that ask for nothing but existence, all hold. -/
theorem ContextConditions.holdIn_of_existence (parser : PatternParser) (id : String)
    (c : Context) : ({ hasContext := id } : ContextConditions).HoldIn parser c := by
  intro kind
  cases kind <;> exact forall_mem_none _

theorem forall_mem_some {α : Type} {a : α} {P : α → Prop} : (∀ x ∈ some a, P x) ↔ P a := by
  simp only [Option.mem_def, Option.some.injEq, forall_eq']

namespace ConditionKind

variable {parser : PatternParser} {conditions : ContextConditions}

theorem mem_all (kind : ConditionKind) : kind ∈ all := by
  cases kind <;> decide

/-- A predicate that comes from an optional value holds when what it says of the value does. -/
theorem forall_evaluate_map {α : Type} {c : Context} {f : α → Predicate} {P : α → Prop}
    (h : ∀ a, (f a).evaluate c = true ↔ P a) (o : Option α) :
    (∀ p ∈ o.map f, p.evaluate c = true) ↔ ∀ a ∈ o, P a :=
  Option.forall_mem_map.trans (forall₂_congr fun a _ => h a)

/-- The predicate of a kind decides what the kind asks. -/
theorem evaluate_extract {kind : ConditionKind} {predicate : Option Predicate}
    (h : kind.extract parser conditions = .ok predicate) (c : Context) :
    (∀ p ∈ predicate, p.evaluate c = true) ↔ kind.HoldsIn parser conditions c := by
  cases kind with
  | property =>
    rw [extract] at h
    rw [HoldsIn]
    generalize conditions.property = o at h ⊢
    rcases o with _ | config
    · cases h
      exact iff_of_true (forall_mem_none _) (forall_mem_none _)
    · obtain ⟨ps, hps, rfl⟩ := exists_of_map_eq_ok h
      refine forall_mem_some.trans (Iff.trans ?_ forall_mem_some.symm)
      exact FieldPatterns.hold_ofConfig hps c.properties
  | list =>
    rw [extract] at h
    rw [HoldsIn]
    generalize conditions.list = o at h ⊢
    rcases o with _ | rows
    · cases h
      exact iff_of_true (forall_mem_none _) (forall_mem_none _)
    · obtain ⟨ps, hps, rfl⟩ := exists_of_map_eq_ok h
      refine forall_mem_some.trans (Iff.trans ?_ forall_mem_some.symm)
      exact Predicate.evaluate_ofRows hps c.rows
  | hasProperty =>
    cases h
    refine forall_evaluate_map (fun name => ?_) _
    exact Option.isSome_iff_exists
  | hasNotProperty =>
    cases h
    refine forall_evaluate_map (fun name => ?_) _
    exact Option.isNone_iff_eq_none
  | updateCountEqualTo =>
    cases h
    refine forall_evaluate_map (fun n => ?_) _
    exact beq_iff_eq
  | updateCountLessThan =>
    cases h
    refine forall_evaluate_map (fun n => ?_) _
    exact decide_eq_true_iff
  | updateCountMoreThan =>
    cases h
    refine forall_evaluate_map (fun n => ?_) _
    exact decide_eq_true_iff
  | listSizeEqualTo =>
    cases h
    refine forall_evaluate_map (fun n => ?_) _
    exact beq_iff_eq
  | listSizeLessThan =>
    cases h
    refine forall_evaluate_map (fun n => ?_) _
    exact decide_eq_true_iff
  | listSizeMoreThan =>
    cases h
    refine forall_evaluate_map (fun n => ?_) _
    exact decide_eq_true_iff

end ConditionKind

/-- The predicates of some kinds decide what those kinds ask. -/
theorem PredicateSet.evaluate_collect {parser : PatternParser} {conditions : ContextConditions}
    {kinds : List ConditionKind} {ps : PredicateSet}
    (h : collect parser conditions kinds = .ok ps) (c : Context) :
    ps.evaluate c = true ↔ ∀ kind ∈ kinds, kind.HoldsIn parser conditions c := by
  induction kinds generalizing ps with
  | nil =>
    cases h
    exact iff_of_true rfl (List.forall_mem_nil _)
  | cons kind kinds ih =>
    obtain ⟨predicate, hp, h⟩ := exists_of_bind_eq_ok h
    obtain ⟨rest, hrest, h⟩ := exists_of_bind_eq_ok h
    rw [List.forall_mem_cons, ← ConditionKind.evaluate_extract hp c, ← ih hrest]
    rcases predicate with _ | p
    · cases h
      exact (and_iff_right (forall_mem_none _)).symm
    · cases h
      rw [forall_mem_some]
      exact Bool.and_eq_true_iff

theorem PredicateSet.evaluate_ofConditions {parser : PatternParser}
    {conditions : ContextConditions} {ps : PredicateSet}
    (h : ofConditions parser conditions = .ok ps) (c : Context) :
    ps.evaluate c = true ↔ conditions.HoldIn parser c := by
  rw [evaluate_collect h]
  exact ⟨fun hall kind => hall kind kind.mem_all, fun hall kind _ => hall kind⟩

/-! ## Conditions that hold have been read -/

theorem FieldPatterns.exists_ofConfig {parser : PatternParser} {config : PatternConfig}
    {fields : KeyMap String} (h : config.IsMatched parser fields) :
    ∃ patterns, ofConfig parser config = .ok patterns := by
  have hread : ∀ e ∈ config.toList, ∃ m, parser e.2 = .ok m := fun e he => by
    obtain ⟨m, hm, -⟩ := h e.1 e.2 (KeyMap.mem_toList.1 he)
    exact ⟨m, hm⟩
  unfold ofConfig
  generalize config.toList = es at hread
  induction es with
  | nil => exact ⟨[], rfl⟩
  | cons e es ih =>
    obtain ⟨⟨m, hm⟩, hes⟩ := List.forall_mem_cons.1 hread
    obtain ⟨ms, hms⟩ := ih hes
    exact ⟨(e.1, m) :: ms, by rw [ofEntries, hm, ok_bind, hms]; rfl⟩

theorem Predicate.exists_ofRows {parser : PatternParser} {rows : List Row}
    {conditions : ListConditions} (h : ∀ e ∈ conditions, e.1.RowMatched parser rows e.2) :
    ∃ ps, ofRows parser conditions = .ok ps := by
  induction conditions with
  | nil => exact ⟨[], rfl⟩
  | cons e es ih =>
    obtain ⟨⟨row, -, hmatched⟩, hes⟩ := List.forall_mem_cons.1 h
    obtain ⟨patterns, hpatterns⟩ := FieldPatterns.exists_ofConfig hmatched
    obtain ⟨ps, hps⟩ := ih hes
    exact ⟨(e.1, patterns) :: ps, by rw [ofRows, hpatterns, ok_bind, hps]; rfl⟩

theorem ConditionKind.exists_extract {parser : PatternParser} {conditions : ContextConditions}
    {c : Context} {kind : ConditionKind} (h : kind.HoldsIn parser conditions c) :
    ∃ p, kind.extract parser conditions = .ok p := by
  cases kind with
  | property =>
    rw [HoldsIn] at h
    rw [extract]
    generalize conditions.property = o at h ⊢
    cases o with
    | none => exact ⟨none, rfl⟩
    | some config =>
      obtain ⟨patterns, hpatterns⟩ := FieldPatterns.exists_ofConfig (h config rfl)
      exact ⟨some (.property patterns), by simp [hpatterns]⟩
  | list =>
    rw [HoldsIn] at h
    rw [extract]
    generalize conditions.list = o at h ⊢
    cases o with
    | none => exact ⟨none, rfl⟩
    | some rows =>
      obtain ⟨ps, hps⟩ := Predicate.exists_ofRows (h rows rfl)
      exact ⟨some (.list ps), by simp [hps]⟩
  | _ => exact ⟨_, rfl⟩

theorem PredicateSet.exists_ofConditions {parser : PatternParser} {conditions : ContextConditions}
    {c : Context} (h : conditions.HoldIn parser c) :
    ∃ ps, ofConditions parser conditions = .ok ps := by
  unfold ofConditions
  generalize ConditionKind.all = kinds
  induction kinds with
  | nil => exact ⟨[], rfl⟩
  | cons kind kinds ih =>
    obtain ⟨p, hp⟩ := ConditionKind.exists_extract (h kind)
    obtain ⟨ps, hps⟩ := ih
    exact ⟨_, by rw [collect, hp, ok_bind, hps]; rfl⟩

/-! ## Matches -/

namespace StateMatcher

/-- A request matches in a store: the id that the template renders to is the id of a visible
context, and of that same context hold the conditions that the parameters render to, with the
request and the context in view. -/
def IsMatch (m : StateMatcher) (s : MemoryStore Context) (request parameters : Json)
    (template : String) : Prop :=
  ∃ id c rendered conditions, m.render (requestModel request) template = .ok id ∧
    s.get? id = some c ∧
    renderJson m.render (contextModel request c) parameters = .ok rendered ∧
    ContextConditions.ofJson rendered = .ok conditions ∧ conditions.HoldIn m.parser c

theorem conditionsHold_iff {m : StateMatcher} {request parameters : Json} {c : Context} {b : Bool}
    (h : m.conditionsHold request parameters c = .ok b) :
    b = true ↔ ∃ rendered conditions,
      renderJson m.render (contextModel request c) parameters = .ok rendered ∧
      ContextConditions.ofJson rendered = .ok conditions ∧ conditions.HoldIn m.parser c := by
  obtain ⟨rendered, hrendered, h⟩ := exists_of_bind_eq_ok h
  obtain ⟨conditions, hconditions, h⟩ := exists_of_bind_eq_ok h
  obtain ⟨predicates, hpredicates, h⟩ := exists_of_bind_eq_ok h
  rw [mapError_eq_ok_iff] at hconditions hpredicates
  cases h
  rw [PredicateSet.evaluate_ofConditions hpredicates c]
  constructor
  · intro hold
    exact ⟨rendered, conditions, hrendered, hconditions, hold⟩
  · rintro ⟨rendered', conditions', hrendered', hconditions', hold⟩
    rw [hrendered] at hrendered'
    cases hrendered'
    rw [hconditions] at hconditions'
    cases hconditions'
    exact hold

/-- Conditions that hold are read, so their evaluation does not fail. -/
theorem conditionsHold_of_holdIn {m : StateMatcher} {request parameters rendered : Json}
    {c : Context} {conditions : ContextConditions}
    (hrendered : renderJson m.render (contextModel request c) parameters = .ok rendered)
    (hconditions : ContextConditions.ofJson rendered = .ok conditions)
    (hold : conditions.HoldIn m.parser c) : m.conditionsHold request parameters c = .ok true := by
  obtain ⟨ps, hps⟩ := PredicateSet.exists_ofConditions hold
  have hevaluated := (PredicateSet.evaluate_ofConditions hps c).2 hold
  simp [conditionsHold, hrendered, hconditions, hps, hevaluated]

/-- Conditions that cannot be read make the parameters malformed. -/
theorem conditionsHold_of_ofJson_eq_error {m : StateMatcher} {request parameters rendered : Json}
    {c : Context} {e : ConfigurationError}
    (hrendered : renderJson m.render (contextModel request c) parameters = .ok rendered)
    (hconditions : ContextConditions.ofJson rendered = .error e) :
    m.conditionsHold request parameters c = .error (.configuration e) := by
  rw [conditionsHold, hrendered, ok_bind, hconditions]
  rfl

/-- Parameters with a context that exists ask for nothing else, and its id is a template. -/
theorem ofJson_eq_ok {parameters v : Json} {question : MatchQuestion}
    (hv : parameters.get? "hasContext" = some v)
    (h : MatchQuestion.ofJson parameters = .ok question) :
    ∃ template, v = .str template ∧ question = .hasContext template := by
  cases parameters with
  | object members =>
    rw [Json.get?] at hv
    rw [MatchQuestion.ofJson, hv] at h
    generalize Entries.get? "hasNotContext" members = other at h
    rcases other with _ | other
    · obtain ⟨template, htemplate, rfl⟩ := exists_of_map_eq_ok h
      cases v with
      | str text =>
        cases htemplate
        exact ⟨template, rfl, rfl⟩
      | _ => cases htemplate
    · cases h
  | _ => cases hv

/-- A match reads the store once and changes nothing. -/
theorem run_matchRequest (m : StateMatcher) (wall : Instant) (s : MemoryStore Context)
    (request parameters : Json) :
    (m.matchRequest request parameters).run MemoryStore.backend wall s =
      match MatchQuestion.ofJson parameters with
      | .error e => (.error (.configuration e), s)
      | .ok (.hasNotContext template) =>
        (do
          let id ← m.render (requestModel request) template
          (ContextStore.validateId id).mapError .configuration
          return (s.get? id).isNone, s)
      | .ok (.hasContext template) =>
        (do
          let id ← m.render (requestModel request) template
          (ContextStore.validateId id).mapError .configuration
          match s.get? id with
          | none => return false
          | some c => m.conditionsHold request parameters c, s) := by
  rw [matchRequest, Call.run_bind, Call.run_check]
  rcases MatchQuestion.ofJson parameters with e | ⟨template⟩ | ⟨template⟩
  · rfl
  · simp only [mapError_ok, Call.run_bind, Call.run_lift]
    rcases m.render (requestModel request) template with e | id
    · rfl
    simp only [ContextStore.run_get, bind, Except.bind]
    rcases ContextStore.validateId id with e | ⟨⟩
    · rfl
    rcases s.get? id with _ | c
    · rfl
    · rfl
  · simp only [mapError_ok, Call.run_bind, Call.run_lift]
    rcases m.render (requestModel request) template with e | id
    · rfl
    simp only [ContextStore.run_has, bind, Except.bind]
    rcases ContextStore.validateId id with e | ⟨⟩
    · rfl
    · show (Except.ok !(s.get? id).isSome, s) = (Except.ok (s.get? id).isNone, s)
      rw [Option.not_isSome]

/-- A match against a context that is found evaluates the conditions on that context, whatever
storage it is found in. -/
theorem run_matchRequest_of_get {σ : Type} {b : Backend σ} {wall : Instant} {s s' : σ}
    {m : StateMatcher} {request : Json} {members : List (String × Json)} {template id : String}
    {c : Context} (htemplate : Entries.get? "hasContext" members = some (.str template))
    (hno : Entries.get? "hasNotContext" members = none)
    (hid : m.render (requestModel request) template = .ok id)
    (hget : (ContextStore.get id).run b wall s = (.ok (some c), s')) :
    (m.matchRequest request (.object members)).run b wall s =
      (m.conditionsHold request (.object members) c, s') := by
  have hquestion : MatchQuestion.ofJson (.object members) = .ok (.hasContext template) := by
    rw [MatchQuestion.ofJson, htemplate, hno]
    rfl
  rw [matchRequest, hquestion]
  simp only [Call.run_bind, Call.run_check, mapError_ok, Call.run_lift, hid, hget]

/-- A match against a context that is visible evaluates the conditions on that context. -/
theorem run_matchRequest_of_visible {m : StateMatcher} {s : MemoryStore Context}
    {request : Json} {members : List (String × Json)} {template id : String} {c : Context}
    (htemplate : Entries.get? "hasContext" members = some (.str template))
    (hno : Entries.get? "hasNotContext" members = none)
    (hid : m.render (requestModel request) template = .ok id) (hne : id ≠ "")
    (hc : s.get? id = some c) (wall : Instant) :
    (m.matchRequest request (.object members)).run MemoryStore.backend wall s =
      (m.conditionsHold request (.object members) c, s) := by
  have hvalid : ContextStore.validateId id = .ok () := if_neg (by simpa using hne)
  refine run_matchRequest_of_get htemplate hno hid ?_
  rw [ContextStore.run_get, hvalid, hc]

/-- **A match means that the context exists and that all its conditions hold.** Whenever a request
is matched against parameters with a context that must exist, whatever renders the templates and
reads the patterns, the answer is whether the request matches in the store as it is. -/
theorem matchRequest_eq_ok_iff_isMatch (m : StateMatcher) (wall : Instant) (s : MemoryStore Context)
    (request parameters v : Json) (matched : Bool)
    (hv : parameters.get? "hasContext" = some v)
    (h : ((m.matchRequest request parameters).run MemoryStore.backend wall s).1 = .ok matched) :
    ∃ template, v = .str template ∧
      (matched = true ↔ m.IsMatch s request parameters template) := by
  rw [run_matchRequest] at h
  rcases hquestion : MatchQuestion.ofJson parameters with e | question
  · rw [hquestion] at h
    cases h
  obtain ⟨template, hstr, rfl⟩ := ofJson_eq_ok hv hquestion
  refine ⟨template, hstr, ?_⟩
  rw [hquestion] at h
  obtain ⟨id, hid, h⟩ := exists_of_bind_eq_ok h
  obtain ⟨_, _, h⟩ := exists_of_bind_eq_ok h
  -- the id is the one that the template renders to
  have hread : m.IsMatch s request parameters template ↔ ∃ c, s.get? id = some c ∧
      ∃ rendered conditions,
        renderJson m.render (contextModel request c) parameters = .ok rendered ∧
        ContextConditions.ofJson rendered = .ok conditions ∧ conditions.HoldIn m.parser c := by
    constructor
    · rintro ⟨id', c, rendered, conditions, hid', hc, hmeaning⟩
      rw [hid] at hid'
      cases hid'
      exact ⟨c, hc, rendered, conditions, hmeaning⟩
    · rintro ⟨c, hc, rendered, conditions, hmeaning⟩
      exact ⟨id, c, rendered, conditions, hid, hc, hmeaning⟩
  rw [hread]
  rcases hc : s.get? id with _ | c
  · rw [hc] at h
    cases h
    exact iff_of_false Bool.false_ne_true fun ⟨_, hc, _⟩ => by cases hc
  · rw [hc] at h
    rw [conditionsHold_iff h]
    constructor
    · intro hmeaning
      exact ⟨c, rfl, hmeaning⟩
    · rintro ⟨c', hc', hmeaning⟩
      cases hc'
      exact hmeaning

/-- A store with an open order, to which two rows have been added. -/
def openOrder : MemoryStore Context :=
  (MemoryStore.new .epoch).setSlot "order-7"
    ⟨⟨"order-7", .ofList [("state", "open")],
      [.ofList [("item", "tea")], .ofList [("item", "cup")]], ⟨2, by decide⟩, none⟩, none⟩

/-- The request for the order. -/
def orderRequest : Json := .object [("id", .int 7)]

/-- The question whether the order has the state that the request names, as many rows as updates,
and a certain last row. -/
def orderParameters : Json :=
  .ofMembers
    [("hasContext", .str "order-\x7b\x7brequest.id\x7d\x7d"),
     ("hasProperty", .str "state"),
     ("list", .object [("last", .object [("item", .object [("equalTo", .str "cup")])])]),
     ("listSizeEqualTo", .str "\x7b\x7bcontext.updateCount\x7d\x7d")]

/-- The order matches: its last row and its counts are read through two renderings. -/
theorem isMatch_openOrder :
    orderParameters.get? "hasContext" = some (.str "order-\x7b\x7brequest.id\x7d\x7d") ∧
      ((({} : StateMatcher).matchRequest orderRequest orderParameters).run MemoryStore.backend
        .epoch openOrder).1 = .ok true ∧
      ({} : StateMatcher).IsMatch openOrder orderRequest orderParameters
        "order-\x7b\x7brequest.id\x7d\x7d" := by
  have hv : orderParameters.get? "hasContext" =
      some (.str "order-\x7b\x7brequest.id\x7d\x7d") := by
    rfl
  have h : ((({} : StateMatcher).matchRequest orderRequest orderParameters).run
      MemoryStore.backend .epoch openOrder).1 = .ok true := by
    refine eq_ok_of_toOption ?_
    decide +kernel
  obtain ⟨template, htemplate, hmatched⟩ := matchRequest_eq_ok_iff_isMatch {} .epoch openOrder
    orderRequest orderParameters (.str "order-\x7b\x7brequest.id\x7d\x7d") true hv h
  cases htemplate
  exact ⟨hv, h, hmatched.1 rfl⟩

end StateMatcher

end KeyedState

import KeyedState.Proofs.Event.Record
import KeyedState.Proofs.Matching.Equality
import KeyedState.Proofs.Template.Literal
import KeyedState.Proofs.Template.Models

/-!
# What is recorded is matched

The templates of a record event, asked for in a match, are satisfied by what the event recorded
(`StateMatcher.matchRequest_of_handleRecord`). The two sides make texts of scalars and render them
along different ways, and with different models: a template means the same to both only if it does
not look at the context.
-/

namespace KeyedState

theorem Template.IsLiteral.not_mentions {name text : String} (h : IsLiteral text) :
    ¬ Mentions name text := by
  rintro ⟨rest, cs, hcs, -⟩
  simp [h.parse_eq] at hcs

namespace Pattern

/-- The equalities with the templates of values are rendered to the equalities with what the values
are rendered to. -/
theorem rendersMembers_equality {f : String → Except StateError String}
    (hname : f "equalTo" = .ok "equalTo") {es : List (String × Json)}
    (hkeys : ∀ e ∈ es, f e.1 = .ok e.1) {texts : List (String × String)}
    (h : Event.renderValues f es = .ok texts) :
    List.Forall₂ (RendersMember f) (es.map fun e => (e.1, equality e.2))
      (texts.map fun e => (e.1, equality (.str e.2))) := by
  induction es generalizing texts with
  | nil =>
    cases h
    exact .nil
  | cons e es ih =>
    obtain ⟨name, v⟩ := e
    obtain ⟨hkey, hes⟩ := List.forall_mem_cons.1 hkeys
    obtain ⟨template, htemplate, h⟩ := exists_of_bind_eq_ok h
    obtain ⟨text, htext, h⟩ := exists_of_bind_eq_ok h
    obtain ⟨rest, hrest, h⟩ := exists_of_bind_eq_ok h
    cases h
    have hscalar : v.scalarText? = some template := by
      rw [mapError_eq_ok_iff, Event.leafText] at htemplate
      split at htemplate
      · rename_i text htext
        cases htemplate
        exact htext
      · cases htemplate
    exact .cons ⟨hkey, renders_equality hname (.scalar hscalar htext)⟩ (ih hes hrest)

end Pattern

namespace StateMatcher

/-- The question whether a context has the properties of a state. -/
def stateQuestion (template : String) (state : List (String × Json)) : Json :=
  .object
    [("hasContext", .str template),
     ("property", .object (state.map fun e => (e.1, Pattern.equality e.2)))]

/-- A context is what a state asks for if it has the properties to which the state is rendered. -/
theorem conditionsHold_stateQuestion {request : Json} {template id : String}
    {state : List (String × Json)} {c : Context} {texts : List (String × String)}
    (hid : Template.render (requestModel request) template = .ok id)
    (hordered : Entries.Ordered state) (hkeys : ∀ e ∈ state, Template.IsLiteral e.1)
    (htexts : Event.renderValues (Template.render (contextModel request c)) state = .ok texts)
    (hproperties : ∀ e ∈ texts, c.properties.get? e.1 = some e.2) :
    ({} : StateMatcher).conditionsHold request (stateQuestion template state) c = .ok true := by
  have hname := fun name h => Template.render_of_not_mem name h (contextModel request c)
  obtain ⟨text, htext⟩ := Template.exists_render hid (contextModel request c)
  let properties : PatternConfig := .equalities ⟨texts, Event.ordered_renderValues htexts hordered⟩
  let members := [("hasContext", Json.str text), ("property", .object properties.entries)]
  have hmembers : Entries.Ordered members :=
    Entries.ordered_iff_keys.2 (show ["hasContext", "property"].Pairwise (· < ·) by decide)
  have hproperty : Renders (Template.render (contextModel request c))
      (.object (state.map fun e => (e.1, Pattern.equality e.2))) (.object properties.entries) :=
    .object (Pattern.rendersMembers_equality (hname "equalTo" (by decide))
      (fun e he => (hkeys e he).render_eq _) htexts) properties.ordered
  have hrendered : Renders (Template.render (contextModel request c))
      (stateQuestion template state) (.object members) :=
    .object
      (.cons ⟨hname "hasContext" (by decide), .str htext⟩
        (.cons ⟨hname "property" (by decide), hproperty⟩ .nil))
      hmembers
  have hconditions : ContextConditions.ofJson (.object members) =
      .ok { hasContext := text, property := some properties } := by
    refine mapError_eq_ok_iff.2 ((ContextConditions.decode_object_iff hmembers).2 ⟨rfl, ?_⟩)
    rw [ContextConditions.areRead_iff]
    simp [members, Entries.get?, Decoder.string, Decoder.optional, ContextConditions.decodePatterns,
      Decoder.map_any properties.ordered]
  refine conditionsHold_of_holdIn (renderJson_of_renders hrendered) hconditions fun kind => ?_
  cases kind with
  | property =>
    refine forall_mem_some.2 (PatternConfig.isMatched_equalities.2 fun field value hvalue => ?_)
    exact hproperties _ (Entries.mem_of_get?_eq_some hvalue)
  | _ => exact forall_mem_none _

/-- **What is recorded through templates is matched by the same templates.** If a record event
succeeds, its keys having no placeholder and its values not looking at the context, and what it
records does not expire at once, then a match for the same templates in the store that it leaves
behind says that the request matches. -/
theorem matchRequest_of_handleRecord (store : ContextStore) (wall : Instant)
    (s s' : MemoryStore Context) (request parameters : Json) (template : String)
    (state : List (String × Json)) (c : Context) (hordered : parameters.Ordered)
    (hcontext : parameters.get? "context" = some (.str template))
    (hstate : parameters.get? "state" = some (.object state))
    (hkeys : ∀ e ∈ state, Template.IsLiteral e.1)
    (hvalues : ∀ e ∈ state, ∀ text, e.2.scalarText? = some text →
      ¬ Template.Mentions "context" text)
    (httl : ∀ d, store.eventTtl parameters = some d → 0 < d.nanos)
    (h : (store.handleRecord Template.render (requestModel request) parameters).run
      MemoryStore.backend wall s = (.ok c, s')) :
    (({} : StateMatcher).matchRequest request (stateQuestion template state)).run
      MemoryStore.backend wall s' = (.ok true, s') := by
  obtain ⟨id, texts, before, hid, hne, htexts, hproperties, rfl⟩ :=
    ContextStore.recorded_of_handleRecord hordered hcontext hstate h
  have hstateOrdered : Entries.Ordered state := (hordered.get? hstate).1
  have hvisible := s.get?_setSlot_of_positive id c httl
  -- the values do not look at the context, so they are rendered as they were recorded
  have htexts' : Event.renderValues (Template.render (contextModel request c)) state =
      .ok texts := by
    rw [← htexts]
    exact Event.renderValues_congr fun e he text htext =>
      Template.render_of_not_mentions (hvalues e he text htext) ..
  have hold := conditionsHold_stateQuestion hid hstateOrdered hkeys htexts' fun e he => by
    rw [hproperties]
    exact before.get?_insertAll_of_mem (Event.ordered_renderValues htexts hstateOrdered) he
  rw [stateQuestion, run_matchRequest_of_visible rfl rfl hid hne hvisible]
  exact congrArg (·, _) hold

/-- A request of a customer whose name looks like a template. -/
def customerRequest : Json :=
  .object [("customer", .str "\x7b\x7bcontext.id\x7d\x7d & Co"), ("id", .int 7)]

/-- The template of the customer of a request. -/
def customerTemplate : String := "\x7b\x7brequest.customer\x7d\x7d"

/-- The state that is recorded of an order. -/
def customerState : List (String × Json) := [("count", .int 3), ("customer", .str customerTemplate)]

/-- An event that records the customer of an order and adds a row, for a minute. -/
def customerEvent : Json :=
  .object
    [("context", .str "order-\x7b\x7brequest.id\x7d\x7d"),
     ("list", .object [("addFirst", .object [("item", .str "milk")])]),
     ("state", .object customerState), ("ttlSeconds", .str "60")]

/-- The template of the customer looks at the request only. -/
theorem not_mentions_customerTemplate : ¬ Template.Mentions "context" customerTemplate := by
  rintro ⟨rest, cs, hcs, hpath⟩
  have hparse : Template.parse customerTemplate.toList =
      [.text [], .placeholder "request.customer".toList, .text []] := by
    decide +kernel
  have hread : Path.parse (trimBlankChars "request.customer".toList) =
      .ok [.key "request", .key "customer"] :=
    eq_ok_of_toOption (by decide +kernel)
  rw [hparse] at hcs
  simp only [List.mem_cons, reduceCtorEq, List.not_mem_nil, or_false, false_or,
    Template.Piece.placeholder.injEq] at hcs
  rw [hcs, hread] at hpath
  simp at hpath

/-- The order is matched after the event, though the name of its customer reads like a template that
looks at the context. -/
theorem matchRequest_customerEvent :
    ∃ c s', (({} : ContextStore).handleRecord Template.render (requestModel customerRequest)
        customerEvent).run MemoryStore.backend .epoch openOrder = (.ok c, s') ∧
      c.properties.get? "customer" = some "\x7b\x7bcontext.id\x7d\x7d & Co" ∧
      (({} : StateMatcher).matchRequest customerRequest (stateQuestion
        "order-\x7b\x7brequest.id\x7d\x7d" customerState)).run MemoryStore.backend .epoch s' =
          (.ok true, s') := by
  have hordered : customerEvent.Ordered := by
    simp only [customerEvent, customerState, Json.Ordered, Json.OrderedMembers]
    decide
  let c : Context :=
    ⟨"order-7", .ofList [("count", "3"), ("customer", "\x7b\x7bcontext.id\x7d\x7d & Co"),
      ("state", "open")],
      [.ofList [("item", "milk")], .ofList [("item", "tea")], .ofList [("item", "cup")]],
      ⟨3, by decide⟩, some (.ofSeconds ⟨60, by decide⟩)⟩
  have h : ((({} : ContextStore).handleRecord Template.render (requestModel customerRequest)
      customerEvent).run MemoryStore.backend .epoch openOrder).1 = .ok c :=
    eq_ok_of_toOption (by decide +kernel)
  obtain ⟨s', hrun⟩ : ∃ s', (({} : ContextStore).handleRecord Template.render
      (requestModel customerRequest) customerEvent).run MemoryStore.backend .epoch openOrder =
        (.ok c, s') :=
    ⟨_, Prod.ext h rfl⟩
  refine ⟨c, s', hrun, by decide +kernel, ?_⟩
  refine matchRequest_of_handleRecord {} .epoch openOrder s' customerRequest customerEvent _
    customerState c hordered rfl rfl ?_ ?_ ?_ hrun
  · simp [customerState, Template.isLiteral_of_not_mem]
  · intro e he text htext
    simp only [customerState, List.mem_cons, List.not_mem_nil, or_false] at he
    rcases he with rfl | rfl
    · cases htext
      exact (Template.isLiteral_of_not_mem (by decide)).not_mentions
    · cases htext
      exact not_mentions_customerTemplate
  · intro d hd
    have hdecode : ContextStore.eventTtl {} customerEvent = some (.ofSeconds ⟨60, by decide⟩) := by
      decide +kernel
    rw [hdecode] at hd
    cases hd
    decide

end StateMatcher

end KeyedState

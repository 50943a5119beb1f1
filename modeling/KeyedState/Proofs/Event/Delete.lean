import KeyedState.Proofs.Decimal.Spelling
import KeyedState.Proofs.Store.Failure

/-!
# What a delete event asks for

The parameters of a delete event are well formed when exactly one target is given, a choice of a row
only beside a single context, and exactly one way to choose it (`DeleteParameters.WellFormed`). What
they ask for is what their templates render to (`DeleteParameters.Asks`). An event does what its
well-formed parameters ask for; where they are not well formed, or a template cannot be rendered, it
fails and asks nothing of the storage (`ContextStore.handleDelete_dispatches`).
-/

namespace KeyedState

variable {f : String → Except StateError String}

theorem Event.leafText_eq_ok_iff {name template : String} {v : Json} :
    leafText name v = .ok template ↔ v.scalarText? = some template := by
  unfold leafText
  rcases v.scalarText? with _ | text
  · exact iff_of_false (fun h => by cases h) (fun h => by cases h)
  · constructor
    · intro h
      exact congrArg some (Except.ok.inj h)
    · intro h
      exact congrArg Except.ok (Option.some.inj h)

/-- An index is read from the spellings of a natural of 64 bits, with blanks around them. -/
theorem ListDeletion.ofText_eq_ok_iff {text : String} {choice : ListDeletion} :
    ofText text = .ok choice ↔
      ∃ n : U64, Integer.Spells (trimBlank text) n.val ∧ choice = .index n := by
  unfold ofText
  cases hread : readU64 (trimBlank text) with
  | error fault =>
    refine iff_of_false (fun h => by cases h) ?_
    rintro ⟨n, hn, -⟩
    rw [readU64_eq_ok_iff.2 hn] at hread
    cases hread
  | ok n =>
    constructor
    · intro h
      exact ⟨n, readU64_eq_ok_iff.1 hread, (Except.ok.inj h).symm⟩
    · rintro ⟨n', hn', rfl⟩
      rw [readU64_eq_ok_iff.2 hn'] at hread
      cases hread
      rfl

/-! ## The choice of a row -/

namespace DeleteListParameters

variable {p : DeleteListParameters} {choice : ListDeletion}

/-- The number of ways to choose a row that are given. -/
def ways (p : DeleteListParameters) : Nat :=
  [p.deleteFirst, p.deleteLast, p.deleteIndex.isSome, p.deleteWhere.isSome].count true

/-- A way to choose a row is given, and its templates render to that choice. -/
inductive Chooses (f : String → Except StateError String) (p : DeleteListParameters) :
    ListDeletion → Prop where
  /-- The first row. -/
  | first (h : p.deleteFirst = true) : Chooses f p .first
  /-- The last row. -/
  | last (h : p.deleteLast = true) : Chooses f p .last
  /-- The row at an index, which may be spelled with blanks around it. -/
  | index {v : Json} {template text : String} {n : U64} (h : p.deleteIndex = some v)
    (htemplate : v.scalarText? = some template) (htext : f template = .ok text)
    (hn : Integer.Spells (trimBlank text) n.val) : Chooses f p (.index n)
  /-- The first row with a property of a value. -/
  | where_ {w : DeleteWhere} {property value : String} (h : p.deleteWhere = some w)
    (hproperty : f w.property = .ok property) (hvalue : f w.value = .ok value) :
    Chooses f p (.where_ property value)

theorem ways_eq_one_iff : p.ways = 1 ↔
    p = { deleteFirst := true } ∨ p = { deleteLast := true } ∨
      (∃ v, p = { deleteIndex := some v }) ∨ ∃ w, p = { deleteWhere := some w } := by
  rcases p with ⟨_ | _, _ | _, _ | v, _ | w⟩ <;> simp [ways]

theorem render_of_ways_ne (h : p.ways ≠ 1) : p.render f = .error notOne := by
  rcases p with ⟨_ | _, _ | _, _ | v, _ | w⟩
  all_goals first | rfl | exact absurd rfl h

theorem ways_of_render_eq_ok (h : p.render f = .ok choice) : p.ways = 1 := by
  by_contra hways
  rw [render_of_ways_ne hways] at h
  cases h

theorem chooses_of_render_eq_ok (h : p.render f = .ok choice) : p.Chooses f choice := by
  rcases ways_eq_one_iff.1 (ways_of_render_eq_ok h) with rfl | rfl | ⟨v, rfl⟩ | ⟨w, rfl⟩
  · cases h
    exact .first rfl
  · cases h
    exact .last rfl
  · obtain ⟨template, htemplate, h⟩ := exists_of_bind_eq_ok h
    obtain ⟨text, htext, h⟩ := exists_of_bind_eq_ok h
    rw [mapError_eq_ok_iff] at htemplate h
    obtain ⟨n, hn, rfl⟩ := ListDeletion.ofText_eq_ok_iff.1 h
    exact .index rfl (Event.leafText_eq_ok_iff.1 htemplate) htext hn
  · obtain ⟨property, hproperty, h⟩ := exists_of_bind_eq_ok h
    obtain ⟨value, hvalue, h⟩ := exists_of_bind_eq_ok h
    cases h
    exact .where_ rfl hproperty hvalue

theorem Chooses.render_eq (h : p.Chooses f choice) (hways : p.ways = 1) :
    p.render f = .ok choice := by
  rcases ways_eq_one_iff.1 hways with rfl | rfl | ⟨v, rfl⟩ | ⟨w, rfl⟩
  · cases h with
    | first => rfl
    | last h | index h | where_ h => cases h
  · cases h with
    | last => rfl
    | first h | index h | where_ h => cases h
  · cases h with
    | index h htemplate htext hn =>
      cases h
      simp only [render, Event.leafText_eq_ok_iff.2 htemplate, mapError_ok, ok_bind, htext,
        ListDeletion.ofText_eq_ok_iff.2 ⟨_, hn, rfl⟩]
    | first h | last h | where_ h => cases h
  · cases h with
    | where_ h hproperty hvalue =>
      cases h
      simp only [render, hproperty, hvalue, ok_bind, pure_eq_ok]
    | first h | last h | index h => cases h

/-- A choice is rendered exactly where one way is given and its templates are rendered. -/
theorem render_eq_ok_iff : p.render f = .ok choice ↔ p.ways = 1 ∧ p.Chooses f choice :=
  ⟨fun h => ⟨ways_of_render_eq_ok h, chooses_of_render_eq_ok h⟩, fun h => h.2.render_eq h.1⟩

end DeleteListParameters

/-! ## The target -/

namespace DeleteParameters

variable {p : DeleteParameters} {r : DeleteRequest}

/-- The number of targets that are given. -/
def targets (p : DeleteParameters) : Nat :=
  [p.context.isSome, p.contexts.isSome, p.contextsMatching.isSome].count true

/-- The parameters make one thing of what is to be deleted. -/
structure WellFormed (p : DeleteParameters) : Prop where
  /-- Exactly one target is given. -/
  oneTarget : p.targets = 1
  /-- A row is chosen only of a single context. -/
  listOfContext : p.list.isSome → p.context.isSome
  /-- A row is chosen in exactly one way. -/
  oneWay : ∀ list, p.list = some list → list.ways = 1

/-- A target is given, and its templates render to what is asked for. -/
inductive Asks (f : String → Except StateError String) (p : DeleteParameters) :
    DeleteRequest → Prop where
  /-- The context of an id. -/
  | context {template id : String} (h : p.context = some template) (hlist : p.list = none)
    (hid : f template = .ok id) : Asks f p (.context id)
  /-- A row of the context of an id. -/
  | row {template id : String} {list : DeleteListParameters} {choice : ListDeletion}
    (h : p.context = some template) (hlist : p.list = some list) (hid : f template = .ok id)
    (hchoice : list.Chooses f choice) : Asks f p (.row id choice)
  /-- The contexts of several ids, in order. -/
  | contexts {templates ids : List String} (h : p.contexts = some templates)
    (hids : List.Forall₂ (fun template id => f template = .ok id) templates ids) :
    Asks f p (.contexts ids)
  /-- The contexts whose ids match a pattern. -/
  | matching {template pattern : String} (h : p.contextsMatching = some template)
    (hpattern : f template = .ok pattern) : Asks f p (.matching pattern)

theorem rejectList_eq_ok_iff (key : String) : p.rejectList key = .ok () ↔ p.list = none := by
  unfold rejectList
  rcases p.list with _ | list
  · exact iff_of_true rfl rfl
  · exact iff_of_false (fun h => by cases h) (fun h => by cases h)

theorem targets_eq_one_iff : p.targets = 1 ↔
    (∃ context, p = { context := some context, list := p.list }) ∨
      (∃ contexts, p = { contexts := some contexts, list := p.list }) ∨
        ∃ pattern, p = { contextsMatching := some pattern, list := p.list } := by
  rcases p with ⟨_ | context, _ | contexts, _ | pattern, list⟩ <;> simp [targets]

theorem render_of_targets_ne (h : p.targets ≠ 1) : p.render f = .error notOne := by
  rcases p with ⟨_ | context, _ | contexts, _ | pattern, list⟩
  all_goals first | rfl | exact absurd rfl h

theorem targets_of_render_eq_ok (h : p.render f = .ok r) : p.targets = 1 := by
  by_contra htargets
  rw [render_of_targets_ne htargets] at h
  cases h

/-- Where no row is chosen, one target is enough. -/
theorem wellFormed_of_list_eq_none (htarget : p.targets = 1) (hlist : p.list = none) :
    p.WellFormed where
  oneTarget := htarget
  listOfContext h := by
    rw [hlist] at h
    cases h
  oneWay list h := by
    rw [hlist] at h
    cases h

theorem asks_of_render_eq_ok (h : p.render f = .ok r) : p.WellFormed ∧ p.Asks f r := by
  -- one target is given, and by its form the templates are rendered one after the other
  have htarget := targets_of_render_eq_ok h
  rcases p with ⟨context?, contexts?, pattern?, list?⟩
  rcases targets_eq_one_iff.1 htarget with ⟨context, hp⟩ | ⟨contexts, hp⟩ | ⟨pattern, hp⟩
  · cases hp
    obtain ⟨id, hid, h⟩ := exists_of_bind_eq_ok h
    rcases list? with _ | list
    · cases h
      exact ⟨wellFormed_of_list_eq_none htarget rfl, .context rfl rfl hid⟩
    · obtain ⟨choice, hchoice, h⟩ := exists_of_bind_eq_ok h
      cases h
      obtain ⟨hways, hchooses⟩ := DeleteListParameters.render_eq_ok_iff.1 hchoice
      refine ⟨⟨htarget, fun _ => rfl, fun _ hlist => ?_⟩, .row rfl rfl hid hchooses⟩
      cases hlist
      exact hways
  · cases hp
    obtain ⟨⟨⟩, hlist, h⟩ := exists_of_bind_eq_ok h
    obtain ⟨ids, hids, h⟩ := exists_of_bind_eq_ok h
    cases h
    exact ⟨wellFormed_of_list_eq_none htarget ((rejectList_eq_ok_iff _).1 hlist),
      .contexts rfl (mapM_eq_ok_iff.1 hids)⟩
  · cases hp
    obtain ⟨⟨⟩, hlist, h⟩ := exists_of_bind_eq_ok h
    obtain ⟨text, htext, h⟩ := exists_of_bind_eq_ok h
    cases h
    exact ⟨wellFormed_of_list_eq_none htarget ((rejectList_eq_ok_iff _).1 hlist),
      .matching rfl htext⟩

/-- Only of a single context a row is chosen. -/
theorem WellFormed.list_eq_none (hp : p.WellFormed) (hcontext : p.context = none) :
    p.list = none := by
  by_contra hlist
  have hsome := hp.listOfContext (Option.isSome_iff_ne_none.2 hlist)
  rw [hcontext] at hsome
  cases hsome

theorem Asks.render_eq (h : p.Asks f r) (hp : p.WellFormed) : p.render f = .ok r := by
  -- the form that is asked for is the one of the target that is given; the others contradict it
  rcases p with ⟨context?, contexts?, pattern?, list?⟩
  rcases targets_eq_one_iff.1 hp.oneTarget with ⟨context, hp'⟩ | ⟨contexts, hp'⟩ | ⟨pattern, hp'⟩
  · cases hp'
    cases h with
    | context h hlist hid =>
      cases h
      cases hlist
      simp only [render, hid, ok_bind, pure_eq_ok]
    | row h hlist hid hchoice =>
      cases h
      cases hlist
      simp only [render, hid, hchoice.render_eq (hp.oneWay _ rfl), ok_bind, pure_eq_ok]
    | contexts h | matching h => cases h
  · cases hp'
    have hlist := (rejectList_eq_ok_iff "contexts").2 (hp.list_eq_none rfl)
    cases h with
    | contexts h hids =>
      cases h
      simp only [render, hlist, mapM_eq_ok_iff.2 hids, ok_bind, pure_eq_ok]
    | context h | row h | matching h => cases h
  · cases hp'
    have hlist := (rejectList_eq_ok_iff "contextsMatching").2 (hp.list_eq_none rfl)
    cases h with
    | matching h hpattern =>
      cases h
      simp only [render, hlist, hpattern, ok_bind, pure_eq_ok]
    | context h | row h | contexts h => cases h

/-- Parameters are rendered exactly where they are well formed, to what they ask for. -/
theorem render_eq_ok_iff : p.render f = .ok r ↔ p.WellFormed ∧ p.Asks f r :=
  ⟨asks_of_render_eq_ok, fun h => h.2.render_eq h.1⟩

end DeleteParameters

namespace ContextStore

/-! ## Events -/

variable {σ : Type} (b : Backend σ) (wall : Instant) (s : σ) {render : Renderer}
  {model parameters : Json} {p : DeleteParameters}

theorem handleDelete_eq (hp : Event.parse DeleteParameters.decode parameters = .ok p) :
    handleDelete render model parameters = Call.lift (p.render (render model)) >>= perform := by
  unfold handleDelete
  rw [hp]
  rfl

/-- A delete event whose parameters are rendered does what they ask for. -/
theorem handleDelete_eq_perform (hp : Event.parse DeleteParameters.decode parameters = .ok p)
    {request : DeleteRequest} (h : p.render (render model) = .ok request) :
    handleDelete render model parameters = perform request := by
  rw [handleDelete_eq hp, h]
  rfl

/-- A delete event whose parameters are not rendered is nothing but a failure. -/
theorem handleDelete_eq_fail (hp : Event.parse DeleteParameters.decode parameters = .ok p)
    {e : StateError} (h : p.render (render model) = .error e) :
    handleDelete render model parameters = Call.fail e := by
  rw [handleDelete_eq hp, h]
  rfl

/-- One deletion is made, and its result is turned into what the event did. -/
theorem perform_eq_map (request : DeleteRequest) :
    perform request =
      match request with
      | .context id => (fun _ => .context) <$> delete id
      | .row id choice => .listEntry <$> deleteRow id choice
      | .contexts ids => (fun _ => .contexts ids.length) <$> deleteAll ids
      | .matching pattern => .matching <$> deleteMatching pattern := by
  cases request with
  | context id => exact Call.bind_pure_eq_map (delete id) _
  | row id choice => exact Call.bind_pure_eq_map (deleteRow id choice) _
  | contexts ids => exact Call.bind_pure_eq_map (deleteAll ids) _
  | matching pattern => exact Call.bind_pure_eq_map (deleteMatching pattern) _

/-- **A delete event does what its parameters ask for.** If it asks anything of the storage, its
parameters are well formed: exactly one target, a row only of a single context, exactly one way to
choose it. It then ends as the deletion does that the rendered parameters ask for, and says which
one that was. If the parameters are not well formed, or one of the templates they use cannot be
rendered, or an index is rendered to something else than a natural of 64 bits, it fails and asks
nothing of the storage. -/
theorem handleDelete_dispatches (render : Renderer) (model : Json)
    (hp : Event.parse DeleteParameters.decode parameters = .ok p) :
    let asked := (handleDelete render model parameters).steps.asked b wall s
    let r := (handleDelete render model parameters).run b wall s
    (asked ≠ [] → p.WellFormed) ∧
    (p.WellFormed →
      (∀ id, p.Asks (render model) (.context id) →
        r = ((fun _ => .context) <$> delete id).run b wall s) ∧
      (∀ id choice, p.Asks (render model) (.row id choice) →
        r = (.listEntry <$> deleteRow id choice).run b wall s) ∧
      (∀ ids, p.Asks (render model) (.contexts ids) →
        r = ((fun _ => .contexts ids.length) <$> deleteAll ids).run b wall s) ∧
      ∀ pattern, p.Asks (render model) (.matching pattern) →
        r = (.matching <$> deleteMatching pattern).run b wall s) ∧
    (¬ (p.WellFormed ∧ ∃ request, p.Asks (render model) request) →
      (∃ e, r.1 = .error e) ∧ r.2 = s ∧ asked = []) := by
  intro asked r
  have hdone : ∀ request, p.WellFormed → p.Asks (render model) request →
      r = (perform request).run b wall s := fun request hwell h =>
    congrArg (Call.run b wall · s) (handleDelete_eq_perform hp (h.render_eq hwell))
  have hfails : ¬ (p.WellFormed ∧ ∃ request, p.Asks (render model) request) →
      (∃ e, r.1 = .error e) ∧ r.2 = s ∧ asked = [] := by
    intro hnot
    cases hrender : p.render (render model) with
    | error e =>
      have hfail := handleDelete_eq_fail hp hrender
      have hr : r = (.error e, s) := congrArg (Call.run b wall · s) hfail
      have hasked : asked = [] := congrArg (fun c => (Call.steps c).asked b wall s) hfail
      exact ⟨⟨e, by rw [hr]⟩, by rw [hr], hasked⟩
    | ok request =>
      obtain ⟨hwell, hasks⟩ := DeleteParameters.render_eq_ok_iff.1 hrender
      exact absurd ⟨hwell, request, hasks⟩ hnot
  refine ⟨fun hasked => ?_, fun hwell => ⟨?_, ?_, ?_, ?_⟩, hfails⟩
  · by_contra hwell
    exact hasked (hfails fun h => hwell h.1).2.2
  · intro id h
    rw [hdone _ hwell h, perform_eq_map]
  · intro id choice h
    rw [hdone _ hwell h, perform_eq_map]
  · intro ids h
    rw [hdone _ hwell h, perform_eq_map]
  · intro pattern h
    rw [hdone _ hwell h, perform_eq_map]

/-- The parameters for the row of a context at the index that the model says. -/
def rowAtIndex : Json :=
  .object [("context", .str "a"),
    ("list", .object [("deleteIndex", .str "\x7b\x7bi\x7d\x7d")])]

/-- What is read from these parameters. -/
def rowAtIndexRead : DeleteParameters where
  context := some "a"
  list := some { deleteIndex := some (.str "\x7b\x7bi\x7d\x7d") }

/-- A store of one context of two rows. -/
def twoRowsStore : MemoryStore Context where
  slots := .ofList
    [("a", ⟨{ Context.new "a" with rows := [.ofList [("k", "1")], .ofList [("k", "2")]] }, none⟩)]
  now := .epoch

/-- The model says that the second row is to be deleted, and the first one is left. -/
theorem handleDelete_dispatches_row :
    let r := (handleDelete Template.render (.object [("i", .int 1)]) rowAtIndex).run
      MemoryStore.backend .epoch twoRowsStore
    Event.parse DeleteParameters.decode rowAtIndex = .ok rowAtIndexRead ∧
      rowAtIndexRead.WellFormed ∧ r.1 = .ok (.listEntry true) ∧
      (r.2.get? "a").map (·.rows) = some [.ofList [("k", "1")]] := by
  have hp : Event.parse DeleteParameters.decode rowAtIndex = .ok rowAtIndexRead := by cbv
  have hwell : rowAtIndexRead.WellFormed := by
    refine ⟨rfl, fun _ => rfl, fun list hlist => ?_⟩
    cases hlist
    rfl
  have hasks : rowAtIndexRead.Asks (Template.render (.object [("i", .int 1)]))
      (.row "a" (.index .one)) := by
    have hid : Template.render (.object [("i", .int 1)]) "a" = .ok "a" := by cbv
    have hindex : Template.render (.object [("i", .int 1)]) "\x7b\x7bi\x7d\x7d" = .ok "1" := by
      cbv
    exact .row rfl rfl hid (.index rfl rfl hindex (readU64_eq_ok_iff.1 (by cbv)))
  obtain ⟨-, hdone, -⟩ := handleDelete_dispatches MemoryStore.backend .epoch twoRowsStore
    Template.render (.object [("i", .int 1)]) hp
  have hrun := (hdone hwell).2.1 "a" (.index .one) hasks
  refine ⟨hp, hwell, ?_, ?_⟩
  · rw [hrun]
    rfl
  · rw [hrun]
    rfl

end ContextStore

end KeyedState

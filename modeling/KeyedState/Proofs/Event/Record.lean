import KeyedState.Event.Record
import KeyedState.Proofs.Json.Maps
import KeyedState.Proofs.Json.Record
import KeyedState.Proofs.KeyMap.InsertAll
import KeyedState.Proofs.Store.Alone
import KeyedState.Proofs.Template.Rendered

/-!
# What a record event leaves behind

A record event that succeeds leaves the context of the id that its template renders to, with every
property of its state set to what the template of the value renders to
(`ContextStore.recorded_of_handleRecord`).
-/

namespace KeyedState

namespace Event

variable {f g : String → Except StateError String} {es : List (String × Json)}
  {texts : List (String × String)}

/-- Values are rendered alike by renderings that agree on their templates. -/
theorem renderValues_congr
    (h : ∀ e ∈ es, ∀ template, e.2.scalarText? = some template → f template = g template) :
    renderValues f es = renderValues g es := by
  induction es with
  | nil => rfl
  | cons e es ih =>
    obtain ⟨name, v⟩ := e
    obtain ⟨hv, hes⟩ := List.forall_mem_cons.1 h
    rw [renderValues, renderValues, ih hes, leafText]
    cases htemplate : v.scalarText? with
    | none => rfl
    | some template => simp only [mapError_ok, ok_bind, hv template htemplate]

/-- Names are kept. -/
theorem keys_renderValues (h : renderValues f es = .ok texts) :
    texts.map (·.1) = es.map (·.1) := by
  induction es generalizing texts with
  | nil =>
    cases h
    rfl
  | cons e es ih =>
    obtain ⟨template, -, h⟩ := exists_of_bind_eq_ok h
    obtain ⟨text, -, h⟩ := exists_of_bind_eq_ok h
    obtain ⟨rest, hrest, h⟩ := exists_of_bind_eq_ok h
    cases h
    rw [List.map_cons, List.map_cons, ih hrest]

theorem ordered_renderValues (h : renderValues f es = .ok texts) (hordered : Entries.Ordered es) :
    Entries.Ordered texts := by
  rw [Entries.ordered_iff_keys, keys_renderValues h]
  exact Entries.ordered_iff_keys.1 hordered

end Event

namespace RecordParameters

theorem setsOnly_context : Decoder.SetsOnly fields "context" Decoder.string (·.context) :=
  .of_keeps rfl (Decoder.stores_requiredField fun _ _ => rfl) (by simp [fields])

theorem setsOnly_state : Decoder.SetsOnly fields "state" (Decoder.map Decoder.any) (·.state) :=
  .of_keeps rfl (Decoder.stores_field fun _ _ => rfl) (by simp [fields])

/-- The parts of a rendered request that a record event writes. -/
theorem render_eq_ok {f : String → Except StateError String} {p : RecordParameters}
    {r : RecordRequest} (h : p.render f = .ok r) :
    f p.context = .ok r.id ∧ Event.renderValues f p.state.toList = .ok r.properties ∧
      r.ttl = p.ttlSeconds.map Duration.ofSeconds := by
  obtain ⟨id, hid, h⟩ := exists_of_bind_eq_ok h
  obtain ⟨texts, htexts, h⟩ := exists_of_bind_eq_ok h
  dsimp only at h
  split at h
  · obtain ⟨row, -, h⟩ := exists_of_bind_eq_ok h
    cases h
    exact ⟨hid, htexts, rfl⟩
  · obtain ⟨row, -, h⟩ := exists_of_bind_eq_ok h
    cases h
    exact ⟨hid, htexts, rfl⟩

end RecordParameters

namespace ContextStore

/-- The time to live of what a record event writes: its own, or else that of the store. -/
def eventTtl (store : ContextStore) (parameters : Json) : Option Duration :=
  match RecordParameters.decode parameters with
  | .error _ => store.defaultTtl
  | .ok p => (p.ttlSeconds.map Duration.ofSeconds).or store.defaultTtl

/-- A write that succeeds puts a context into the slot of the id, until the end of its time to
live. -/
theorem record_eq_ok {store : ContextStore} {wall : Instant} {s s' : MemoryStore Context}
    {id : String} {properties : List (String × String)} {row : Option ListOperation}
    {ttl : Option Duration} {c : Context}
    (h : (store.record id properties row ttl).run MemoryStore.backend wall s = (.ok c, s')) :
    id ≠ "" ∧ c = Context.record id (s.get? id) ⟨properties, row, ttl.or store.defaultTtl⟩ ∧
      s' = s.setSlot id ⟨c, (ttl.or store.defaultTtl).bind s.now.add?⟩ := by
  rw [run_record] at h
  split at h
  · cases h
  · cases h
  · rename_i hid _
    have hne : id ≠ "" := by
      rintro rfl
      cases hid
    split at h
    · cases h
    · rename_i deadline hdeadline
      cases h
      exact ⟨hne, rfl, by rw [MemoryStore.deadline?_eq_ok hdeadline]⟩

/-- A record event that succeeds puts a context into the slot of the rendered id, until the end of
its time to live, with the rendered state put into its properties. -/
theorem recorded_of_handleRecord {store : ContextStore} {render : Renderer}
    {model parameters : Json} {wall : Instant} {s s' : MemoryStore Context} {c : Context}
    {template : String} {state : List (String × Json)} (hordered : parameters.Ordered)
    (hcontext : parameters.get? "context" = some (.str template))
    (hstate : parameters.get? "state" = some (.object state))
    (h : (store.handleRecord render model parameters).run MemoryStore.backend wall s = (.ok c, s')) :
    ∃ id texts, ∃ before : KeyMap String, render model template = .ok id ∧ id ≠ "" ∧
      Event.renderValues (render model) state = .ok texts ∧
      c.properties = before.insertAll texts ∧
      s' = s.setSlot id ⟨c, (store.eventTtl parameters).bind s.now.add?⟩ := by
  have hstateOrdered : Entries.Ordered state := (hordered.get? hstate).1
  cases parameters with
  | object members =>
    rw [handleRecord, Call.run_bind, Call.run_check] at h
    cases hp : Event.parse RecordParameters.decode (.object members) with
    | error e =>
      rw [hp] at h
      cases h
    | ok p =>
      have hdecode := mapError_eq_ok_iff.1 hp
      have hid := RecordParameters.setsOnly_context.record hordered.1 hcontext hdecode
      have hvalues := RecordParameters.setsOnly_state.record hordered.1 hstate hdecode
      rw [Decoder.map_any hstateOrdered] at hvalues
      simp only [hp, mapError_ok, Call.run_bind, Call.run_lift] at h
      cases hr : p.render (render model) with
      | error e =>
        rw [hr] at h
        cases h
      | ok r =>
        rw [hr] at h
        obtain ⟨hcontext', hstate', httl⟩ := RecordParameters.render_eq_ok hr
        obtain ⟨hne, hc, hs⟩ := record_eq_ok h
        have heffective : r.ttl.or store.defaultTtl = store.eventTtl (.object members) := by
          rw [eventTtl, hdecode, httl]
        rw [heffective] at hs
        rw [← Except.ok.inj hid] at hcontext'
        rw [← Except.ok.inj hvalues] at hstate'
        exact ⟨r.id, r.properties, _, hcontext', hne, hstate', congrArg Context.properties hc, hs⟩
  | _ => cases hcontext

end ContextStore

end KeyedState

import KeyedState.Proofs.KeyMap.InsertAll
import KeyedState.Proofs.Store.TimeToLive
import KeyedState.Store.History

/-!
# Writes of different properties

Writes that set different properties of one context may come in any order, and none of them is lost
(`ContextStore.property_writes_commute`). As long as the time to live is positive, each write finds
the context that the one before has left, so a run of writes is a fold over the context
(`ContextStore.run_propertyWrites`); two writes of different properties may change places in it
(`PropertyWrite.apply_comm`).
-/

namespace KeyedState

/-- A write that sets properties of a context and inserts no row. -/
structure PropertyWrite where
  /-- What the wall clock shows to the write. -/
  wall : Instant
  /-- The properties to set, in order. -/
  properties : List (String × String)
  /-- The time to live, where there is one. -/
  ttl : Option Duration

namespace PropertyWrite

/-- The names of the properties that are set. -/
def names (w : PropertyWrite) : List String := w.properties.map Prod.fst

/-- The write as a call. -/
def event (id : String) (w : PropertyWrite) : StoreEvent :=
  .call w.wall (.record id w.properties none w.ttl)

/-- The context after the write, which counts as an update. -/
def apply (ttl : Option Duration) (c : Context) (w : PropertyWrite) : Context :=
  c.bump.apply ⟨w.properties, none, ttl⟩

/-- The context after writes, the first one first. -/
def applyAll (ttl : Option Duration) (c : Context) (ws : List PropertyWrite) : Context :=
  ws.foldl (apply ttl) c

variable (ttl : Option Duration) (c : Context) {v w : PropertyWrite} {ws : List PropertyWrite}
  {name : String}

/-! ## One write -/

theorem property_apply_of_mem (h : name ∈ w.names) :
    (w.apply ttl c).property name = Entries.get? name w.properties.reverse :=
  KeyMap.get?_insertAll_of_mem_keys c.properties h

theorem property_apply_of_not_mem (h : name ∉ w.names) :
    (w.apply ttl c).property name = c.property name :=
  KeyMap.get?_insertAll_of_not_mem c.properties h

/-- Two writes of different properties may change places. -/
theorem apply_comm (h : ∀ name ∈ v.names, name ∉ w.names) :
    w.apply ttl (v.apply ttl c) = v.apply ttl (w.apply ttl c) := by
  have hproperties := c.properties.insertAll_comm h
  unfold apply Context.apply Context.bump
  rw [hproperties]

/-! ## Many writes -/

/-- A property that no write sets keeps its value. -/
theorem property_applyAll_of_not_mem (h : ∀ w ∈ ws, name ∉ w.names) :
    (applyAll ttl c ws).property name = c.property name := by
  induction ws generalizing c with
  | nil => rfl
  | cons w ws ih =>
    obtain ⟨hw, hws⟩ := List.forall_mem_cons.1 h
    exact (ih (w.apply ttl c) hws).trans (property_apply_of_not_mem ttl c hw)

/-- A property that one write sets has the value from there, since no other write sets it. -/
theorem property_applyAll_of_mem
    (hdisjoint : ws.Pairwise fun v w => ∀ name ∈ v.names, name ∉ w.names) (hw : w ∈ ws)
    (h : name ∈ w.names) :
    (applyAll ttl c ws).property name = Entries.get? name w.properties.reverse := by
  induction ws generalizing c with
  | nil => cases hw
  | cons v ws ih =>
    obtain ⟨hv, hws⟩ := List.pairwise_cons.1 hdisjoint
    rcases List.mem_cons.1 hw with rfl | hw
    · have hlater := property_applyAll_of_not_mem ttl (w.apply ttl c) fun w' hw' =>
        hv w' hw' name h
      exact hlater.trans (property_apply_of_mem ttl c h)
    · exact ih (v.apply ttl c) hws hw

theorem rows_applyAll (ws : List PropertyWrite) : (applyAll ttl c ws).rows = c.rows := by
  induction ws generalizing c with
  | nil => rfl
  | cons w ws ih => exact ih (w.apply ttl c)

/-- Every write counts, up to the largest number. -/
theorem updateCount_applyAll (ws : List PropertyWrite) :
    (applyAll ttl c ws).updateCount.val = min maxU64 (c.updateCount.val + ws.length) := by
  induction ws generalizing c with
  | nil =>
    have hcount := c.updateCount.isLt
    show c.updateCount.val = min maxU64 (c.updateCount.val + 0)
    unfold maxU64
    omega
  | cons w ws ih =>
    have hnext : (w.apply ttl c).updateCount.val = min maxU64 (c.updateCount.val + 1) :=
      U64.val_next c.updateCount
    have hrest := ih (w.apply ttl c)
    rw [hnext] at hrest
    rw [List.length_cons]
    refine Eq.trans hrest ?_
    omega

/-- Writes of different properties may come in any order. -/
theorem applyAll_perm {ws' : List PropertyWrite} (hperm : ws'.Perm ws)
    (hdisjoint : ws.Pairwise fun v w => ∀ name ∈ v.names, name ∉ w.names) :
    applyAll ttl c ws' = applyAll ttl c ws := by
  have hcomm : ∀ v ∈ ws, ∀ w ∈ ws, ∀ c, w.apply ttl (v.apply ttl c) = v.apply ttl (w.apply ttl c) :=
    List.Pairwise.forall_of_forall_of_flip (fun _ _ _ => rfl)
      (hdisjoint.imp fun h c => apply_comm ttl c h)
      (hdisjoint.imp fun h c => (apply_comm ttl c h).symm)
  exact (hperm.symm.foldl_eq' hcomm c).symm

end PropertyWrite

namespace ContextStore

open PropertyWrite

variable (store : ContextStore) {s : MemoryStore Context} {id : String} {c : Context}
  {ttl : Option Duration} {w : PropertyWrite} {ws : List PropertyWrite}

/-! ## Runs of writes -/

/-- A write that finds the context of its id. -/
theorem run_propertyWrite (hid : id ≠ "") (hc : s.get? id = some c)
    (httl : w.ttl.or store.defaultTtl = ttl) (hwall : ∀ d ∈ ttl, ¬ w.wall.Overruns d)
    (hnow : ∀ d ∈ ttl, ¬ s.now.Overruns d) :
    (w.event id).run store s =
      (some (.record id w.properties none w.ttl, .ok (.written (w.apply ttl c))),
        s.setSlot id ⟨w.apply ttl c, ttl.bind s.now.add?⟩) := by
  subst httl
  have hrun := store.run_record_of_not_overruns w.properties none hid hwall hnow
  rw [hc] at hrun
  simp only [event, StoreEvent.run, Request.call, Call.run_map, hrun]
  rfl

/-- A run of writes, each of which finds the context that the one before has left. -/
theorem run_propertyWrites (hid : id ≠ "") (hc : s.get? id = some c)
    (hpositive : ∀ d ∈ ttl, 0 < d.nanos) (hnow : ∀ d ∈ ttl, ¬ s.now.Overruns d)
    (hws : ∀ w ∈ ws, w.ttl.or store.defaultTtl = ttl ∧ ∀ d ∈ ttl, ¬ w.wall.Overruns d) :
    let r := History.run store (ws.map (·.event id)) s
    (∀ e ∈ r.1, ∃ c, e.2 = .ok (.written c)) ∧ r.2.get? id = some (applyAll ttl c ws) ∧
      (ws ≠ [] → r.2 = s.setSlot id ⟨applyAll ttl c ws, ttl.bind s.now.add?⟩) := by
  induction ws generalizing s c with
  | nil => exact ⟨List.forall_mem_nil _, hc, fun h => absurd rfl h⟩
  | cons w ws ih =>
    obtain ⟨⟨httl, hwall⟩, hrest⟩ := List.forall_mem_cons.1 hws
    have hvisible := s.get?_setSlot_of_positive id (w.apply ttl c) hpositive
    obtain ⟨hresults, hget, hstore⟩ := ih hvisible hnow hrest
    simp only [List.map_cons, History.run, store.run_propertyWrite hid hc httl hwall hnow]
    refine ⟨List.forall_mem_cons.2 ⟨⟨w.apply ttl c, rfl⟩, hresults⟩, hget, fun _ => ?_⟩
    rcases ws with _ | ⟨w', ws⟩
    · rfl
    · rw [hstore (List.cons_ne_nil _ _), MemoryStore.setSlot_setSlot]
      rfl

/-- **Writes of different properties commute, and none is lost.** Writes that find a context, set
properties of which no two writes share one, and have one time to live that is absent or else
positive and with an end: they all succeed, and in whatever order they come, they leave the same
store. Its context has the properties of all writes, the other properties and the rows that it had
before, and one update more for each write, up to the largest number. -/
theorem property_writes_commute (hid : id ≠ "") (hc : s.get? id = some c)
    (hpositive : ∀ d ∈ ttl, 0 < d.nanos) (hnow : ∀ d ∈ ttl, ¬ s.now.Overruns d)
    (hws : ∀ w ∈ ws, w.ttl.or store.defaultTtl = ttl ∧ ∀ d ∈ ttl, ¬ w.wall.Overruns d)
    (hdisjoint : ws.Pairwise fun v w => ∀ name ∈ v.names, name ∉ w.names) :
    let r := History.run store (ws.map (·.event id)) s
    (∀ ws' : List PropertyWrite, ws'.Perm ws →
      (History.run store (ws'.map (·.event id)) s).2 = r.2) ∧
    (∀ e ∈ r.1, ∃ c, e.2 = .ok (.written c)) ∧
    ∃ c', r.2.get? id = some c' ∧
      (∀ w ∈ ws, ∀ name ∈ w.names, c'.property name = Entries.get? name w.properties.reverse) ∧
      (∀ name, (∀ w ∈ ws, name ∉ w.names) → c'.property name = c.property name) ∧
      c'.rows = c.rows ∧ c'.updateCount.val = min maxU64 (c.updateCount.val + ws.length) := by
  intro r
  obtain ⟨hresults, hget, hstore⟩ := store.run_propertyWrites hid hc hpositive hnow hws
  refine ⟨fun ws' hperm => ?_, hresults, applyAll ttl c ws, hget,
    fun w hw name => property_applyAll_of_mem ttl c hdisjoint hw,
    fun name => property_applyAll_of_not_mem ttl c, rows_applyAll ttl c ws,
    updateCount_applyAll ttl c ws⟩
  by_cases hnil : ws = []
  · subst hnil
    rw [hperm.eq_nil]
  · have hnil' : ws' ≠ [] := fun h => hnil (h ▸ hperm).symm.eq_nil
    obtain ⟨-, -, hstore'⟩ := store.run_propertyWrites hid hc hpositive hnow
      fun w hw => hws w (hperm.mem_iff.1 hw)
    rw [hstore' hnil', applyAll_perm ttl c hperm hdisjoint]
    exact (hstore hnil).symm

/-- A context that can be updated once more until its count is the largest one. -/
def crowded : Context :=
  ⟨"a", .ofList [("x", "0"), ("z", "9")], [.ofList [("k", "1")]], ⟨maxU64 - 1, by decide⟩, none⟩

/-- Three writes of different properties, two of which rely on the time to live of the store. -/
def crowdedWrites (ttl : Duration) : List PropertyWrite :=
  [⟨.epoch, [("x", "1")], none⟩, ⟨.epoch, [("y", "2"), ("y", "3")], some ttl⟩,
   ⟨.epoch, [("w", "4"), ("v", "4")], none⟩]

theorem property_writes_commute_crowded :
    let store : ContextStore := ⟨some (.ofSeconds 5)⟩
    let s : MemoryStore Context := ⟨.ofList [("a", ⟨crowded, none⟩)], .epoch⟩
    let ws := crowdedWrites (.ofSeconds 5)
    let r := History.run store (ws.map (·.event "a")) s
    s.get? "a" = some crowded ∧
      (History.run store (ws.reverse.map (·.event "a")) s).2 = r.2 ∧
      ∃ c', r.2.get? "a" = some c' ∧ c'.property "y" = some "3" ∧ c'.property "z" = some "9" ∧
        c'.rows = crowded.rows ∧ c'.updateCount.val = maxU64 := by
  intro store s ws r
  have hc : s.get? "a" = some crowded := by rfl
  have hpositive : ∀ d ∈ some (Duration.ofSeconds 5), 0 < d.nanos := by
    rintro d ⟨⟩
    decide
  have hnow : ∀ d ∈ some (Duration.ofSeconds 5), ¬ s.now.Overruns d := by
    rintro d ⟨⟩
    decide
  have hfits : ∀ w ∈ ws, w.ttl.or store.defaultTtl = some (.ofSeconds 5) ∧
      ¬ w.wall.Overruns (.ofSeconds 5) := by
    decide
  have hws : ∀ w ∈ ws, w.ttl.or store.defaultTtl = some (.ofSeconds 5) ∧
      ∀ d ∈ some (Duration.ofSeconds 5), ¬ w.wall.Overruns d := by
    refine fun w hw => ⟨(hfits w hw).1, ?_⟩
    rintro d ⟨⟩
    exact (hfits w hw).2
  have hdisjoint : ws.Pairwise fun v w => ∀ name ∈ v.names, name ∉ w.names := by
    decide
  obtain ⟨hperm, -, c', hget, hset, hkept, hrows, hcount⟩ :=
    property_writes_commute store (by decide) hc hpositive hnow hws hdisjoint
  refine ⟨hc, hperm _ ws.reverse_perm, c', hget, ?_, ?_, hrows, ?_⟩
  · have hy := hset _ (List.mem_cons_of_mem _ List.mem_cons_self) "y" (by decide)
    exact hy.trans (by decide)
  · exact (hkept "z" (by decide)).trans (by decide)
  · exact hcount.trans (by decide)

end ContextStore

end KeyedState

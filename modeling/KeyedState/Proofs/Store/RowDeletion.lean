import KeyedState.Proofs.Store.TimeToLive

/-!
# The deletion of a row

A `ListDeletion` selects at most one place in a list of rows; `ListDeletion.Selects` says which one.
The deletion of a row takes out the row at that place and nothing else
(`ContextStore.deleteRow_splices`): what was before it and what was behind it moves together, the
context keeps its name, its properties and its time to live, which starts anew, and one more update
is counted. Where no row is selected nothing changes.
-/

namespace KeyedState

namespace ListDeletion

variable {rows : List Row} {d : ListDeletion} {i : Nat}

/-- The value of a property in the row at a place, if there is such a row and it has the
property. -/
def fieldAt (rows : List Row) (i : Nat) (property : String) : Option String :=
  rows[i]?.bind (·.get? property)

/-- The row at place `i` is the one that is chosen. Of several rows with the wanted field it is the
first one. -/
def Selects (rows : List Row) (i : Nat) : ListDeletion → Prop
  | .first => i < rows.length ∧ i = 0
  | .last => i + 1 = rows.length
  | .index n => i < rows.length ∧ i = n.val
  | .where_ property value =>
    fieldAt rows i property = some value ∧ ∀ j < i, fieldAt rows j property ≠ some value

theorem fieldAt_of_lt (h : i < rows.length) (property : String) :
    fieldAt rows i property = rows[i].get? property := by
  rw [fieldAt, List.getElem?_eq_getElem h, Option.bind_some]

theorem lt_of_fieldAt_eq_some {property value : String}
    (h : fieldAt rows i property = some value) : i < rows.length := by
  obtain ⟨row, hrow, -⟩ := Option.bind_eq_some_iff.1 h
  exact (List.getElem?_eq_some_iff.1 hrow).1

/-- The place that is computed is the one that is selected. -/
theorem position_eq_some_iff : d.position rows = some i ↔ d.Selects rows i := by
  cases d with
  | first =>
    rcases rows with _ | ⟨row, rows⟩
    · simp [position, Selects]
    · simp [position, Selects, eq_comm]
      omega
  | last =>
    rcases rows with _ | ⟨row, rows⟩
    · simp [position, Selects]
    · simp [position, Selects, eq_comm]
  | index n =>
    simp only [position, Selects]
    by_cases hn : n.val < rows.length
    · rw [if_pos hn, Option.some.injEq]
      omega
    · rw [if_neg hn]
      simp only [reduceCtorEq, false_iff]
      omega
  | where_ property value =>
    rw [position, List.findIdx?_eq_some_iff_getElem]
    simp only [beq_iff_eq, Selects]
    constructor
    · rintro ⟨hi, hrow, hbefore⟩
      refine ⟨by rw [fieldAt_of_lt hi, hrow], fun j hj => ?_⟩
      rw [fieldAt_of_lt (Nat.lt_trans hj hi)]
      exact hbefore j hj
    · rintro ⟨hrow, hbefore⟩
      have hi : i < rows.length := lt_of_fieldAt_eq_some hrow
      rw [fieldAt_of_lt hi] at hrow
      refine ⟨hi, hrow, fun j hj => ?_⟩
      rw [← fieldAt_of_lt (Nat.lt_trans hj hi)]
      exact hbefore j hj

/-- At most one place is selected. -/
theorem Selects.unique {j : Nat} (hi : d.Selects rows i) (hj : d.Selects rows j) : i = j := by
  rw [← position_eq_some_iff] at hi hj
  exact Option.some.inj (hi.symm.trans hj)

end ListDeletion

namespace Context

/-- One context is another one without the row at place `i`: the rows before it and those behind it
are still there, in order, and all else is as it was, but that one more update is counted. -/
structure IsWithoutRow (c : Context) (i : Nat) (c' : Context) : Prop where
  /-- The rows around the one that is gone stay. -/
  rows : ∃ before row after, c.rows = before ++ row :: after ∧ before.length = i ∧
    c'.rows = before ++ after
  /-- The name stays. -/
  id : c'.id = c.id
  /-- The properties stay. -/
  properties : c'.properties = c.properties
  /-- The time to live stays. -/
  expiry : c'.expiry = c.expiry
  /-- One more update is counted, as far as it can be. -/
  updateCount : c'.updateCount.val = min maxU64 (c.updateCount.val + 1)

theorem isWithoutRow_eraseIdx {c : Context} {i : Nat} (h : i < c.rows.length) :
    c.IsWithoutRow i { c.bump with rows := c.rows.eraseIdx i } where
  rows := by
    refine ⟨c.rows.take i, c.rows[i], c.rows.drop (i + 1), ?_, ?_, ?_⟩
    · rw [List.getElem_cons_drop, List.take_append_drop]
    · exact List.length_take_of_le (Nat.le_of_lt h)
    · exact List.eraseIdx_eq_take_drop_succ ..
  id := rfl
  properties := rfl
  expiry := rfl
  updateCount := U64.val_next c.updateCount

end Context

namespace ContextStore

variable (wall : Instant) {s : MemoryStore Context} {id : String} {choice : ListDeletion}

/-- Where a row is selected, the context is put without it. -/
theorem run_deleteRow_of_selects (hid : id ≠ "") {c : Context} {i : Nat}
    (hc : s.get? id = some c) (hi : choice.Selects c.rows i) :
    ∃ c', c.IsWithoutRow i c' ∧
      (deleteRow id choice).run MemoryStore.backend wall s =
        match MemoryStore.deadline? s.now c.expiry with
        | .error e => (.error (.storage e), s)
        | .ok deadline => (.ok true, s.setSlot id ⟨c', deadline⟩) := by
  have hposition := ListDeletion.position_eq_some_iff.2 hi
  have hrow : c.deleteRow? choice = some { c.bump with rows := c.rows.eraseIdx i } := by
    rw [Context.deleteRow?, hposition, Option.map_some]
  have hwithout := Context.isWithoutRow_eraseIdx (ListDeletion.position_lt hposition)
  refine ⟨_, hwithout, ?_⟩
  rw [run_deleteRow, validateId_of_ne hid, hc, Option.bind_some, hrow]
  rfl

/-- A row is deleted if the time to live of its context, counted from now, has an end. -/
theorem run_deleteRow_of_not_overruns (hid : id ≠ "") {c : Context} {i : Nat}
    (hc : s.get? id = some c) (hi : choice.Selects c.rows i)
    (hnow : ∀ d ∈ c.expiry, ¬ s.now.Overruns d) :
    ∃ c', c.IsWithoutRow i c' ∧
      (deleteRow id choice).run MemoryStore.backend wall s =
        (.ok true, s.setSlot id ⟨c', c.expiry.bind s.now.add?⟩) := by
  obtain ⟨c', hwithout, hrun⟩ := run_deleteRow_of_selects wall hid hc hi
  rw [MemoryStore.deadline?_eq hnow] at hrun
  exact ⟨c', hwithout, hrun⟩

theorem run_deleteRow_of_overruns (hid : id ≠ "") {c : Context} {i : Nat}
    (hc : s.get? id = some c) (hi : choice.Selects c.rows i) {d : Duration}
    (hd : c.expiry = some d) (hnow : s.now.Overruns d) :
    (deleteRow id choice).run MemoryStore.backend wall s =
      (.error (.storage (.backend s!"ttl out of range: {d.text}")), s) := by
  obtain ⟨c', -, hrun⟩ := run_deleteRow_of_selects wall hid hc hi
  rw [hd, MemoryStore.deadline?_of_overruns hnow] at hrun
  exact hrun

/-- Where no row is selected, there is nothing to delete. -/
theorem run_deleteRow_of_not_selects (hid : id ≠ "")
    (h : ∀ c i, s.get? id = some c → ¬ choice.Selects c.rows i) :
    (deleteRow id choice).run MemoryStore.backend wall s = (.ok false, s) := by
  have hnone : (s.get? id).bind (·.deleteRow? choice) = none := by
    rw [Option.bind_eq_none_iff]
    intro c hc
    rw [Context.deleteRow?, Option.map_eq_none_iff, Option.eq_none_iff_forall_ne_some]
    intro i hi
    exact h c i hc (ListDeletion.position_eq_some_iff.1 hi)
  rw [run_deleteRow, validateId_of_ne hid, hnone]

/-- All that the deletion of a row can do. -/
theorem deleteRow_cases (hid : id ≠ "") (choice : ListDeletion) (wall : Instant)
    (s : MemoryStore Context) :
    let r := (deleteRow id choice).run MemoryStore.backend wall s
    ((∀ c i, s.get? id = some c → ¬ choice.Selects c.rows i) ∧ r = (.ok false, s)) ∨
    ∃ c i, s.get? id = some c ∧ choice.Selects c.rows i ∧
      ((∃ d, c.expiry = some d ∧ s.now.Overruns d ∧
          r = (.error (.storage (.backend s!"ttl out of range: {d.text}")), s)) ∨
        ((∀ d ∈ c.expiry, ¬ s.now.Overruns d) ∧ ∃ c', c.IsWithoutRow i c' ∧
          r = (.ok true, s.setSlot id ⟨c', c.expiry.bind s.now.add?⟩))) := by
  intro r
  by_cases hselects : ∃ c i, s.get? id = some c ∧ choice.Selects c.rows i
  · obtain ⟨c, i, hc, hi⟩ := hselects
    refine .inr ⟨c, i, hc, hi, ?_⟩
    by_cases hover : ∃ d, c.expiry = some d ∧ s.now.Overruns d
    · obtain ⟨d, hd, hnow⟩ := hover
      exact .inl ⟨d, hd, hnow, run_deleteRow_of_overruns wall hid hc hi hd hnow⟩
    · have hnow : ∀ d ∈ c.expiry, ¬ s.now.Overruns d := fun d hd h => hover ⟨d, hd, h⟩
      exact .inr ⟨hnow, run_deleteRow_of_not_overruns wall hid hc hi hnow⟩
  · have hnone : ∀ c i, s.get? id = some c → ¬ choice.Selects c.rows i :=
      fun c i hc hi => hselects ⟨c, i, hc, hi⟩
    exact .inl ⟨hnone, run_deleteRow_of_not_selects wall hid hnone⟩

/-- **The deletion of a row splices exactly one row.** It fails only where a row is selected and the
time to live of its context, counted from now, has no end. Otherwise, if a row of the visible
context is selected, the context is put without that row, until its time to live has passed from
now on; and if none is, nothing changes. No other context changes, visible or not. -/
theorem deleteRow_splices (hid : id ≠ "") (choice : ListDeletion) (wall : Instant)
    (s : MemoryStore Context) :
    let r := (deleteRow id choice).run MemoryStore.backend wall s
    ((∃ e, r.1 = .error e) ↔ ∃ c i d, s.get? id = some c ∧ choice.Selects c.rows i ∧
      c.expiry = some d ∧ s.now.Overruns d) ∧
    ∀ deleted, r.1 = .ok deleted →
      (∀ c i, s.get? id = some c → choice.Selects c.rows i →
        deleted = true ∧ ∃ c', c.IsWithoutRow i c' ∧
          r.2.slots.get? id = some ⟨c', c.expiry.bind s.now.add?⟩ ∧
          ∀ d, c.expiry = some d → ∃ deadline, s.now.add? d = some deadline) ∧
      ((∀ c i, s.get? id = some c → ¬ choice.Selects c.rows i) → deleted = false ∧ r.2 = s) ∧
      r.2.now = s.now ∧ ∀ other, other ≠ id → r.2.slots.get? other = s.slots.get? other := by
  intro r
  -- the visible context and the selected place are the only ones
  have hunique : ∀ {c c₁ : Context} {i i₁ : Nat}, s.get? id = some c → choice.Selects c.rows i →
      s.get? id = some c₁ → choice.Selects c₁.rows i₁ → c₁ = c ∧ i₁ = i := by
    intro c c₁ i i₁ hc hi hc₁ hi₁
    obtain rfl : c = c₁ := Option.some.inj (hc.symm.trans hc₁)
    exact ⟨rfl, hi₁.unique hi⟩
  have hr : r = (deleteRow id choice).run MemoryStore.backend wall s := rfl
  rcases deleteRow_cases hid choice wall s with ⟨hnone, hrun⟩ | ⟨c, i, hc, hi, hcase⟩
  · rw [hr, hrun]
    refine ⟨⟨?_, ?_⟩, ?_⟩
    · rintro ⟨e, he⟩
      cases he
    · rintro ⟨c, i, d, hc, hi, -⟩
      exact absurd hi (hnone c i hc)
    · intro deleted hdeleted
      cases hdeleted
      exact ⟨fun c i hc hi => absurd hi (hnone c i hc), fun _ => ⟨rfl, rfl⟩, rfl, fun _ _ => rfl⟩
  -- a row is selected; whether the context can be put again depends on its time to live alone
  rcases hcase with ⟨d, hd, hnow, hrun⟩ | ⟨hnow, c', hwithout, hrun⟩
  · rw [hr, hrun]
    refine ⟨iff_of_true ⟨_, rfl⟩ ⟨c, i, d, hc, hi, hd, hnow⟩, ?_⟩
    intro deleted hdeleted
    cases hdeleted
  · rw [hr, hrun]
    refine ⟨⟨?_, ?_⟩, ?_⟩
    · rintro ⟨e, he⟩
      cases he
    · rintro ⟨c₁, i₁, d, hc₁, hi₁, hd, hover⟩
      obtain ⟨rfl, -⟩ := hunique hc hi hc₁ hi₁
      exact absurd hover (hnow d hd)
    · intro deleted hdeleted
      cases hdeleted
      refine ⟨fun c₁ i₁ hc₁ hi₁ => ?_, fun hnone => absurd hi (hnone c i hc), rfl,
        fun other ho => ?_⟩
      · obtain ⟨rfl, rfl⟩ := hunique hc hi hc₁ hi₁
        refine ⟨rfl, c', hwithout, ?_, fun d hd => Instant.exists_of_not_overruns (hnow d hd)⟩
        rw [MemoryStore.slots_get?_setSlot, if_pos rfl]
      · rw [MemoryStore.slots_get?_setSlot, if_neg ho]

/-- A context of three rows, of which two have the same field. -/
def threeRows : Context where
  id := "a"
  properties := .ofList [("x", "1")]
  rows := [.ofList [("k", "1")], .ofList [("k", "2")], .ofList [("k", "2")]]
  updateCount := .zero
  expiry := some (.ofSeconds .one)

/-- A store of that context, which has lasted for some time. -/
def threeRowsStore : MemoryStore Context where
  slots := .ofList [("a", ⟨threeRows, some ⟨20, 500000000, by decide, by decide, by decide⟩⟩)]
  now := ⟨20, 0, by decide, by decide, by decide⟩

/-- Of two rows with the wanted field the first one is taken out from between its neighbours. -/
theorem deleteRow_splices_middle :
    let r := (deleteRow "a" (.where_ "k" "2")).run MemoryStore.backend .epoch threeRowsStore
    "a" ≠ "" ∧ r.1 = .ok true ∧ ∃ c', threeRows.IsWithoutRow 1 c' ∧
      c'.rows = [.ofList [("k", "1")], .ofList [("k", "2")]] ∧
      r.2.slots.get? "a" = some ⟨c', some ⟨21, 0, by decide, by decide, by decide⟩⟩ := by
  have hid : "a" ≠ "" := by decide
  have hok : ((deleteRow "a" (.where_ "k" "2")).run MemoryStore.backend .epoch threeRowsStore).1 =
      .ok true := by rfl
  have hi : (ListDeletion.where_ "k" "2").Selects threeRows.rows 1 :=
    ListDeletion.position_eq_some_iff.1 (by rfl)
  obtain ⟨-, hends⟩ := deleteRow_splices hid (.where_ "k" "2") .epoch threeRowsStore
  obtain ⟨hselects, -⟩ := hends true hok
  obtain ⟨-, c', hwithout, hslot, -⟩ := hselects threeRows 1 (by rfl) hi
  refine ⟨hid, hok, c', hwithout, ?_, hslot⟩
  obtain ⟨before, gone, after, hrows, hlength, hrest⟩ := hwithout.rows
  obtain ⟨first, rfl⟩ := List.length_eq_one_iff.1 hlength
  cases hrows
  exact hrest

end ContextStore

end KeyedState

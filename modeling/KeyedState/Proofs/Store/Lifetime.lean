import KeyedState.Proofs.Store.Alone
import KeyedState.Proofs.Store.Life

/-!
# What a store shows of a life

A store in memory that starts empty, and whose clock never moves back, has a live slot for an id
exactly while the life of that id lasts, and the slot is the one that the changes of the life make.
`Follows` says so of one id; every call, every move of the clock and every purge keeps it, so it
holds after every history.
-/

namespace KeyedState

open ContextStore

/-- The live slot of context `id`, if there is one, is that of its life. -/
def Follows (store : ContextStore) (id : String) (life : Option Life) (s : MemoryStore Context) :
    Prop :=
  s.live.get? id = (life.filter (Life.lasts store s.now)).map (Life.slot store id)

namespace Follows

variable {store : ContextStore} {id : String} {life : Option Life} {s : MemoryStore Context}

/-- The visible context is that of the life, as long as it lasts. -/
theorem get?_eq (h : Follows store id life s) :
    s.get? id = (life.filter (Life.lasts store s.now)).map (Life.context store id) := by
  rw [MemoryStore.get?_eq_live, h, Option.map_map]
  rfl

/-- The slot of a life that has just changed follows it. -/
theorem setSlot (store : ContextStore) (id : String) (l : Life) (s : MemoryStore Context) :
    Follows store id (some l) (s.setSlot id (l.slot store id)) := by
  unfold Follows
  rw [MemoryStore.live_get?_setSlot, if_pos rfl, MemoryStore.now_setSlot]
  rw [Option.filter_some, Option.filter_some, Life.isLive_slot]
  split
  · rfl
  · rfl

theorem setSlot_of_ne (h : Follows store id life s) {id' : String} (hid : id' ≠ id)
    (slot : Slot Context) : Follows store id life (s.setSlot id' slot) := by
  unfold Follows
  rw [MemoryStore.live_get?_setSlot, if_neg (Ne.symm hid)]
  exact h

/-- Where the slot is gone, nothing is left of the life. -/
theorem of_removed {ids : List String} (h : id ∈ ids) : Follows store id none (s.removeAll ids) := by
  unfold Follows
  rw [MemoryStore.live_get?_removeAll, if_pos h]
  rfl

theorem removeAll_of_not_mem (h : Follows store id life s) {ids : List String} (hid : id ∉ ids) :
    Follows store id life (s.removeAll ids) := by
  unfold Follows
  rw [MemoryStore.live_get?_removeAll, if_neg hid, MemoryStore.now_removeAll]
  exact h

/-! ## Calls -/

theorem record (h : Follows store id life s) (wall : Instant) (id' : String)
    (properties : List (String × String)) (row : Option ListOperation) (ttl : Option Duration) :
    let r := ((Request.record id' properties row ttl).call store).run MemoryStore.backend wall s
    Follows store id (Life.after store id life ⟨s.now, .record id' properties row ttl, r.1⟩) r.2 := by
  simp only [Request.call, Call.run_map, run_record]
  rcases validateId id' with e | ⟨⟩
  · exact h
  rcases ttlFits wall (ttl.or store.defaultTtl) with e | ⟨⟩
  · exact h
  rcases hd : MemoryStore.deadline? s.now (ttl.or store.defaultTtl) with e | deadline
  · exact h
  simp only [Life.after, Except.map]
  by_cases hid : id' = id
  · subst hid
    rw [if_pos rfl, h.get?_eq, MemoryStore.deadline?_eq_ok hd]
    have hs := setSlot store id' (Life.write store life ⟨properties, row, ttl⟩ s.now) s
    rw [Life.slot_write] at hs
    exact hs
  · rw [if_neg hid]
    exact h.setSlot_of_ne hid _

theorem delete (h : Follows store id life s) (wall : Instant) (id' : String) :
    let r := ((Request.delete id').call store).run MemoryStore.backend wall s
    Follows store id (Life.after store id life ⟨s.now, .delete id', r.1⟩) r.2 := by
  simp only [Request.call, Call.run_map, run_delete]
  rcases validateId id' with e | ⟨⟩
  · exact h
  simp only [Life.after, Except.map]
  by_cases hid : id' = id
  · rw [if_pos hid]
    rw [← MemoryStore.removeAll_singleton]
    exact of_removed (List.mem_singleton.2 hid.symm)
  · rw [if_neg hid, ← MemoryStore.removeAll_singleton]
    exact h.removeAll_of_not_mem fun hm => hid (List.mem_singleton.1 hm).symm

theorem deleteAll (h : Follows store id life s) (wall : Instant) (ids : List String) :
    let r := ((Request.deleteAll ids).call store).run MemoryStore.backend wall s
    Follows store id (Life.after store id life ⟨s.now, .deleteAll ids, r.1⟩) r.2 := by
  simp only [Request.call, Call.run_map, run_deleteAll]
  rcases ids.forM validateId with e | ⟨⟩
  · exact h
  simp only [Life.after, Except.map]
  by_cases hid : id ∈ ids
  · rw [if_pos hid]
    exact of_removed hid
  · rw [if_neg hid]
    exact h.removeAll_of_not_mem hid

theorem deleteMatching (h : Follows store id life s) (wall : Instant) (pattern : String) :
    let r := ((Request.deleteMatching pattern).call store).run MemoryStore.backend wall s
    Follows store id (Life.after store id life ⟨s.now, .deleteMatching pattern, r.1⟩) r.2 := by
  simp only [Request.call, Call.run_map, run_deleteMatching]
  rcases hp : WholePattern.compile pattern with e | p
  · exact h
  simp only [Life.after, Except.map, Life.isMatched_eq hp]
  by_cases hid : p.accepts id = true
  · rw [if_pos hid]
    unfold Follows
    rw [MemoryStore.live_get?_removeAll_filter]
    exact if_pos hid
  · rw [if_neg hid]
    exact h.removeAll_of_not_mem fun hm => hid (List.mem_filter.1 hm).2

theorem deleteRow (h : Follows store id life s) (wall : Instant) (id' : String)
    (choice : ListDeletion) :
    let r := ((Request.deleteRow id' choice).call store).run MemoryStore.backend wall s
    Follows store id (Life.after store id life ⟨s.now, .deleteRow id' choice, r.1⟩) r.2 := by
  simp only [Request.call, Call.run_map, run_deleteRow]
  rcases validateId id' with e | ⟨⟩
  · exact h
  rcases hc : (s.get? id').bind (·.deleteRow? choice) with _ | c
  · exact h
  simp only
  rcases hd : MemoryStore.deadline? s.now c.expiry with e | deadline
  · exact h
  simp only [Life.after, Except.map]
  by_cases hid : id' = id
  · subst hid
    rw [if_pos rfl]
    obtain ⟨c', hc', hrow⟩ := Option.bind_eq_some_iff.1 hc
    rw [h.get?_eq] at hc'
    obtain ⟨l, hl, rfl⟩ := Option.map_eq_some_iff.1 hc'
    obtain ⟨rfl, -⟩ := Option.filter_eq_some_iff.1 hl
    have hs := setSlot store id' (l.extend (.deleteRow choice) s.now) s
    have hctx := Life.context_extend_deleteRow s.now hrow
    have hslot : (l.extend (.deleteRow choice) s.now).slot store id' = ⟨c, deadline⟩ := by
      rw [MemoryStore.deadline?_eq_ok hd, ← hctx]
      rfl
    rw [hslot] at hs
    exact hs
  · rw [if_neg hid]
    exact h.setSlot_of_ne hid _

/-- A call that leaves the store as it is, and tells nothing of a change, changes no life. -/
theorem get (h : Follows store id life s) (wall : Instant) (id' : String) :
    let r := ((Request.get id').call store).run MemoryStore.backend wall s
    Follows store id (Life.after store id life ⟨s.now, .get id', r.1⟩) r.2 := by
  simp only [Request.call, Call.run_map, run_get]
  rcases validateId id' with e | ⟨⟩
  · exact h
  · exact h

theorem has (h : Follows store id life s) (wall : Instant) (id' : String) :
    let r := ((Request.has id').call store).run MemoryStore.backend wall s
    Follows store id (Life.after store id life ⟨s.now, .has id', r.1⟩) r.2 := by
  simp only [Request.call, Call.run_map, run_has]
  rcases validateId id' with e | ⟨⟩
  · exact h
  · exact h

/-- Every call keeps the slot and the life of every id together. -/
theorem call (h : Follows store id life s) (wall : Instant) (r : Request) :
    let result := (r.call store).run MemoryStore.backend wall s
    Follows store id (Life.after store id life ⟨s.now, r, result.1⟩) result.2 := by
  cases r with
  | record id' properties row ttl => exact h.record wall id' properties row ttl
  | delete id' => exact h.delete wall id'
  | deleteAll ids => exact h.deleteAll wall ids
  | deleteMatching pattern => exact h.deleteMatching wall pattern
  | deleteRow id' choice => exact h.deleteRow wall id' choice
  | get id' => exact h.get wall id'
  | has id' => exact h.has wall id'
  | snapshot =>
    simp only [Request.call, Call.run_map]
    rw [show snapshot.run MemoryStore.backend wall s = _ from run_snapshot wall s .increasing]
    exact h

/-! ## Histories -/

theorem move (h : Follows store id life s) {m : ClockMove}
    (hm : (m.apply s.now).before s.now = false) : Follows store id life (s.move m) := by
  unfold Follows
  rw [MemoryStore.live_get?_move s hm, h]
  show _ = (life.filter (Life.lasts store (m.apply s.now))).map (Life.slot store id)
  cases life with
  | none => rfl
  | some l =>
    have hl : l.lasts store (m.apply s.now) = true → l.lasts store s.now = true :=
      fun hlater =>
      Slot.isLive_of_le hm (show (l.slot store id).isLive (m.apply s.now) = true from hlater)
    rw [Option.filter_some, Option.filter_some]
    by_cases hlater : l.lasts store (m.apply s.now) = true
    · rw [if_pos hlater, if_pos (hl hlater), Option.map_some, Option.filter_some]
      exact if_pos hlater
    · rw [if_neg hlater, Option.map_none]
      split
      · rw [Option.map_some, Option.filter_some]
        exact if_neg hlater
      · rfl

theorem purge (h : Follows store id life s) : Follows store id life s.purge.1 := by
  unfold Follows
  rw [MemoryStore.live_get?_purge]
  exact h

/-- Every history that does not move the clock back keeps the slot and the life together. -/
theorem history {h : History} (hs : Follows store id life s) (hf : h.IsForward store s) :
    Follows store id ((h.observe store s).foldl (Life.after store id) life) (h.run store s).2 := by
  induction h generalizing life s with
  | nil => exact hs
  | cons e es ih =>
    obtain ⟨he, hes⟩ := hf
    rw [History.observe, List.foldl_append]
    refine ih ?_ hes
    cases e with
    | call wall r => exact hs.call wall r
    | move m => exact hs.move he.1
    | purge => exact hs.purge

/-- A store that starts empty follows the lives that an observer knows. -/
theorem of_new {h : History} {start : Instant} (hf : h.IsForward store (.new start)) (id : String) :
    Follows store id (Life.ofCalls store id (h.observe store (.new start)))
      (h.run store (.new start)).2 :=
  history (show Follows store id none (.new start) from rfl) hf

end Follows

/-- **What a store shows of a life.** A context that can be read after a history has a life that is
not over, since the write that last found no context: its properties are the last values of those
that were set in that life, its rows are what the insertions and deletions of rows leave in order,
its count is the number of changes but the first, and its time to live is that of the last write. -/
theorem visible_context_of_life (store : ContextStore) (start : Instant) {h : History}
    (hf : h.IsForward store (.new start)) (id : String) (wall : Instant) {c : Context}
    (hc : ((ContextStore.get id).run MemoryStore.backend wall (h.run store (.new start)).2).1 =
      .ok (some c)) :
    ∃ l, Life.ofCalls store id (h.observe store (.new start)) = some l ∧
      l.lasts store (h.run store (.new start)).2.now = true ∧
      c.id = id ∧
      (∀ name, c.property name = Entries.get? name l.properties.reverse) ∧
      c.rows = l.rows ∧
      c.updateCount.val = min maxU64 (l.changes.length - 1) ∧
      c.expiry = l.ttl store := by
  have hget := get?_of_run_get hc
  rw [(Follows.of_new hf id).get?_eq] at hget
  obtain ⟨l, hl, rfl⟩ := Option.map_eq_some_iff.1 hget
  obtain ⟨hlife, hlasts⟩ := Option.filter_eq_some_iff.1 hl
  exact ⟨l, hlife, hlasts, rfl, fun name => KeyMap.get?_ofList l.properties name, rfl, rfl, rfl⟩

/-- A history in which context `a` expires and is written again, and in which one of two deletions
of rows finds no row. -/
def twoLives : History :=
  [.call .epoch (.record "a" [("x", "1")] none (some (.ofSeconds 10))),
   .move (.advance (.ofSeconds 20)),
   .call .epoch (.record "a" [("y", "1")] (some (.addLast (.ofList [("k", "1")]))) none),
   .call .epoch (.record "a" [("y", "2")] none (some (.ofSeconds 5))),
   .call .epoch (.deleteRow "a" .last),
   .call .epoch (.deleteRow "a" .first)]

/-- Of two lives the second one is visible: nothing is left of the first. -/
theorem visible_context_of_second_life :
    let s := (twoLives.run {} (.new .epoch)).2
    let c : Context := ⟨"a", .ofList [("y", "2")], [], ⟨2, by decide⟩, some (.ofSeconds 5)⟩
    twoLives.IsForward {} (.new .epoch) ∧
      ((ContextStore.get "a").run MemoryStore.backend .epoch s).1 = .ok (some c) ∧
      ∃ l, Life.ofCalls {} "a" (twoLives.observe {} (.new .epoch)) = some l ∧
        l.lasts {} s.now = true ∧
        c.id = "a" ∧
        (∀ name, c.property name = Entries.get? name l.properties.reverse) ∧
        c.rows = l.rows ∧
        c.updateCount.val = min maxU64 (l.changes.length - 1) ∧
        c.expiry = l.ttl {} := by
  have hm : ((ClockMove.advance (.ofSeconds 20)).apply .epoch).before .epoch = false := by
    decide +kernel
  have hf : twoLives.IsForward {} (.new .epoch) :=
    ⟨trivial, ⟨hm, trivial⟩, trivial, trivial, trivial, trivial, trivial⟩
  have hc : ((ContextStore.get "a").run MemoryStore.backend .epoch
      (twoLives.run {} (.new .epoch)).2).1 =
      .ok (some ⟨"a", .ofList [("y", "2")], [], ⟨2, by decide⟩, some (.ofSeconds 5)⟩) := by
    rfl
  exact ⟨hf, hc, visible_context_of_life {} .epoch hf "a" .epoch hc⟩

end KeyedState

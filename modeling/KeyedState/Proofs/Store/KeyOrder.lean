import KeyedState.Proofs.Store.TimeToLive

/-!
# The order in which keys are listed

A store in memory may list its keys in any order (`KeyOrder`). A deletion by pattern removes what it
finds listed, one key after the other, and neither what it leaves nor what it counts depends on the
order: it removes the visible ids that the pattern accepts, and nothing else
(`ContextStore.deleteMatching_removes_accepted`).
-/

namespace KeyedState

namespace MemoryStore

variable {α : Type} (s : MemoryStore α)

/-- It does not matter in which order keys are removed, or how often. -/
theorem removeAll_congr {keys keys' : List String} (h : ∀ key, key ∈ keys ↔ key ∈ keys') :
    s.removeAll keys = s.removeAll keys' := by
  refine ext_slots ?_ fun key => ?_
  · rw [now_removeAll, now_removeAll]
  · simp only [slots_get?_removeAll, h]

end MemoryStore

namespace ContextStore

open Call

variable (order : KeyOrder) (wall : Instant) (s : MemoryStore Context)

/-! ## Deletion by pattern -/

/-- The visible ids that a pattern accepts. -/
def acceptedIds (p : WholePattern) : List String := s.keys.filter p.accepts

theorem mem_acceptedIds {p : WholePattern} {id : String} :
    id ∈ acceptedIds s p ↔ (s.get? id).isSome ∧ p.accepts id = true := by
  rw [acceptedIds, List.mem_filter, MemoryStore.mem_keys_iff]

/-- In whatever order the keys are listed, the same ones are removed and counted. -/
theorem run_deleteMatching_eq {pattern : String} {p : WholePattern}
    (hp : WholePattern.compile pattern = .ok p) :
    (deleteMatching pattern).run order.backend wall s =
      (.ok (acceptedIds s p).length, s.removeAll (acceptedIds s p)) := by
  have hperm : ((order.list s).filter p.accepts).Perm (acceptedIds s p) :=
    (order.perm s).filter p.accepts
  refine ((MemoryHost.still order).run_deleteMatching wall s pattern).trans ?_
  rw [hp]
  show (Except.ok ((order.list s).filter p.accepts).length,
    s.removeAll ((order.list s).filter p.accepts)) = _
  rw [hperm.length_eq, s.removeAll_congr fun key => hperm.mem_iff]

/-- The deletion of the accepted ids of a snapshot, in any order, removes the same contexts, unless
one has no characters. -/
theorem run_deleteAll_of_snapshot {p : WholePattern} (hempty : s.get? "" = none)
    (other : KeyOrder) {ids : List String}
    (hids : ids.Perm
      (((MemoryHost.still other).gather ∅ s (other.list s)).keys.filter p.accepts)) :
    (deleteAll ids).run order.backend wall s = (.ok (), s.removeAll (acceptedIds s p)) := by
  have hmem : ∀ id, id ∈ ids ↔ id ∈ acceptedIds s p := by
    intro id
    rw [hids.mem_iff, mem_acceptedIds, List.mem_filter,
      mem_keys_gather s other ((other.perm s).nodup_iff.2 (KeyMap.nodup_keys s.live)),
      (other.perm s).mem_iff, MemoryStore.mem_keys_iff, and_self_iff]
  have hvalid : ids.forM validateId = .ok () := by
    refine forM_validateId.2 fun id hid => validateId_of_ne ?_
    rintro rfl
    have hvisible := ((mem_acceptedIds s).1 ((hmem "").1 hid)).1
    rw [hempty] at hvisible
    cases hvisible
  refine ((MemoryHost.still order).run_deleteAll wall s ids).trans ?_
  rw [hvalid]
  exact congrArg (Prod.mk _) (s.removeAll_congr hmem)

/-- **A deletion by pattern removes the visible ids that the pattern accepts.** It returns their
number, no slot is left for any of them, and all other slots are as they were, also those that are
not visible any more. In whatever order the keys are listed, the outcome is the same; and it leaves
what the deletion of the accepted ids of a snapshot leaves, in any order, if all visible ids have
characters.
Where the pattern is no regular expression, that is the failure and nothing changes. -/
theorem deleteMatching_removes_accepted (order : KeyOrder) (wall : Instant)
    (s : MemoryStore Context) (pattern : String) :
    let r := (deleteMatching pattern).run order.backend wall s
    (∀ p, WholePattern.compile pattern = .ok p →
      ∃ ids : List String, ids.Nodup ∧
        (∀ id, id ∈ ids ↔ (s.get? id).isSome ∧ p.accepts id = true) ∧
        r.1 = .ok ids.length ∧ r.2.now = s.now ∧
        (∀ id, r.2.slots.get? id = if id ∈ ids then none else s.slots.get? id) ∧
        (∀ other : KeyOrder, (deleteMatching pattern).run other.backend wall s = r) ∧
        (s.get? "" = none → ∀ other : KeyOrder, ∃ found,
          snapshot.run other.backend wall s = (.ok found, s) ∧
          ∀ listed : List String, listed.Perm (found.keys.filter p.accepts) →
            (deleteAll listed).run order.backend wall s = (.ok (), r.2))) ∧
    (∀ e, WholePattern.compile pattern = .error e →
      (∃ reason, e = .invalidRegex pattern reason) ∧ r = (.error (.configuration e), s)) := by
  intro r
  refine ⟨fun p hp => ?_, fun e he => ⟨?_, ?_⟩⟩
  · have hr : r = (.ok (acceptedIds s p).length, s.removeAll (acceptedIds s p)) :=
      run_deleteMatching_eq order wall s hp
    refine ⟨acceptedIds s p, (KeyMap.nodup_keys s.live).filter _, fun id => mem_acceptedIds s,
      ?_, ?_, fun id => ?_, fun other => ?_, fun hempty other => ?_⟩
    · rw [hr]
    · rw [hr, MemoryStore.now_removeAll]
    · rw [hr, MemoryStore.slots_get?_removeAll]
    · rw [hr]
      exact run_deleteMatching_eq other wall s hp
    · refine ⟨_, run_snapshot wall s other, fun listed hlisted => ?_⟩
      rw [hr]
      exact run_deleteAll_of_snapshot order wall s hempty other hlisted
  · unfold WholePattern.compile at he
    split at he
    · cases he
    · cases he
      exact ⟨_, rfl⟩
  · refine ((MemoryHost.still order).run_deleteMatching wall s pattern).trans ?_
    rw [he]

/-- Two visible contexts and one that has expired. -/
def mixedStore : MemoryStore Context where
  slots := .ofList
    [("a1", ⟨.new "a1", none⟩),
     ("a2", ⟨.new "a2", some ⟨3, 0, by decide, by decide, by decide⟩⟩),
     ("b", ⟨.new "b", none⟩)]
  now := ⟨4, 0, by decide, by decide, by decide⟩

/-- Of the two ids that are accepted the visible one is removed; the other keeps its slot. -/
theorem deleteMatching_removes_accepted_mixed :
    ∃ p, WholePattern.compile "a." = .ok p ∧ p.accepts "a2" = true ∧ mixedStore.get? "" = none ∧
      let r := (deleteMatching "a.").run KeyOrder.decreasing.backend .epoch mixedStore
      r.1 = .ok 1 ∧ r.2.slots.get? "a1" = none ∧
        r.2.slots.get? "a2" = mixedStore.slots.get? "a2" ∧
        (deleteMatching "a.").run KeyOrder.increasing.backend .epoch mixedStore = r ∧
        (deleteAll ["a1"]).run KeyOrder.decreasing.backend .epoch mixedStore = (.ok (), r.2) := by
  have hw : (WholePattern.compile "a.").toOption.map
      (fun p => (p.accepts "a1", p.accepts "a2", p.accepts "b")) = some (true, true, false) := by
    decide +kernel
  obtain ⟨p, hp, haccepts⟩ := Option.map_eq_some_iff.1 hw
  have hp := eq_ok_of_toOption hp
  simp only [Prod.mk.injEq] at haccepts
  obtain ⟨ha1, ha2, hb⟩ := haccepts
  obtain ⟨ids, hnodup, hmem, hcount, -, hslots, hother, hlisted⟩ :=
    (deleteMatching_removes_accepted .decreasing .epoch mixedStore "a.").1 p hp
  have hids : ids.Perm ["a1"] := by
    refine (List.perm_ext_iff_of_nodup hnodup (by decide)).2 fun id => ?_
    have hkeys : mixedStore.keys = ["a1", "b"] := by rfl
    rw [hmem, ← MemoryStore.mem_keys_iff, hkeys, List.mem_singleton]
    constructor
    · rintro ⟨hid, haccepts⟩
      simp only [List.mem_cons, List.not_mem_nil, or_false] at hid
      rcases hid with rfl | rfl
      · rfl
      · rw [hb] at haccepts
        cases haccepts
    · rintro rfl
      exact ⟨by decide, ha1⟩
  obtain ⟨found, hfound, hdelete⟩ := hlisted rfl .increasing
  have hfound : found.keys = ["a1", "b"] := by
    have hkeys : ((snapshot.run KeyOrder.increasing.backend .epoch mixedStore).1.map (·.keys)) =
        .ok ["a1", "b"] := by rfl
    rw [hfound] at hkeys
    exact Except.ok.inj hkeys
  have haccepted : found.keys.filter p.accepts = ["a1"] := by
    simp [hfound, ha1, hb]
  refine ⟨p, hp, ha2, rfl, ?_, ?_, ?_, hother .increasing, hdelete _ (by rw [haccepted])⟩
  · rw [hcount, hids.length_eq]
    rfl
  · rw [hslots, if_pos (hids.mem_iff.2 (by decide))]
  · rw [hslots, if_neg fun h => absurd (hids.mem_iff.1 h) (by decide)]

end ContextStore

end KeyedState

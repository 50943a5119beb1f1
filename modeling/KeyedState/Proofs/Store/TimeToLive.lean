import KeyedState.Proofs.Store.Alone

/-!
# Times to live that end too late

A time to live that leads beyond the last instant (`Instant.Overruns`) has no end. A write looks for
this twice, by two clocks: by the wall clock among its other checks, and by the clock of the store
when the context is put. What the write returns depends on both (`ContextStore.record_ends`): an end
that only the clock of the store cannot reach is told as a failure of the storage.
-/

namespace KeyedState

namespace MemoryStore

/-- A time to live that does not overrun the last instant has a deadline, and without one there is
none. -/
theorem deadline?_eq {now : Instant} {ttl : Option Duration}
    (h : ∀ d ∈ ttl, ¬ now.Overruns d) : deadline? now ttl = .ok (ttl.bind now.add?) := by
  rcases ttl with _ | d
  · rfl
  · obtain ⟨i, hadd⟩ := Instant.exists_of_not_overruns (h d rfl)
    rw [Option.bind_some, hadd, deadline?, hadd]

theorem deadline?_of_overruns {now : Instant} {d : Duration} (h : now.Overruns d) :
    deadline? now (some d) = .error (.backend s!"ttl out of range: {d.text}") := by
  rw [deadline?, Instant.add?_eq_none_iff_overruns.2 h]

end MemoryStore

namespace ContextStore

variable (store : ContextStore) {wall : Instant} {s : MemoryStore Context} {id : String}
  (properties : List (String × String)) (row : Option ListOperation) {ttl : Option Duration}

theorem validateId_of_ne (hid : id ≠ "") : validateId id = .ok () :=
  if_neg fun h => hid (String.isEmpty_iff.1 h)

theorem ttlFits_eq (h : ∀ d ∈ ttl, ¬ wall.Overruns d) : ttlFits wall ttl = .ok () := by
  rcases ttl with _ | d
  · rfl
  · obtain ⟨i, hadd⟩ := Instant.exists_of_not_overruns (h d rfl)
    rw [ttlFits, validateTtlAt, hadd]

theorem ttlFits_of_overruns {d : Duration} (h : wall.Overruns d) :
    ttlFits wall (some d) = .error (.invalidTtl d "expiry is out of range") := by
  rw [ttlFits, validateTtlAt, Instant.add?_eq_none_iff_overruns.2 h]

/-- A write whose time to live has an end by both clocks succeeds. -/
theorem run_record_of_not_overruns (hid : id ≠ "")
    (hwall : ∀ d ∈ ttl.or store.defaultTtl, ¬ wall.Overruns d)
    (hnow : ∀ d ∈ ttl.or store.defaultTtl, ¬ s.now.Overruns d) :
    let c := Context.record id (s.get? id) ⟨properties, row, ttl.or store.defaultTtl⟩
    (store.record id properties row ttl).run MemoryStore.backend wall s =
      (.ok c, s.setSlot id ⟨c, (ttl.or store.defaultTtl).bind s.now.add?⟩) := by
  rw [run_record, validateId_of_ne hid, ttlFits_eq hwall, MemoryStore.deadline?_eq hnow]

theorem run_record_of_wall_overruns (hid : id ≠ "") {d : Duration}
    (httl : ttl.or store.defaultTtl = some d) (hwall : wall.Overruns d) :
    (store.record id properties row ttl).run MemoryStore.backend wall s =
      (.error (.configuration (.invalidTtl d "expiry is out of range")), s) := by
  rw [run_record, validateId_of_ne hid, httl, ttlFits_of_overruns hwall]

theorem run_record_of_now_overruns (hid : id ≠ "") {d : Duration}
    (httl : ttl.or store.defaultTtl = some d) (hwall : ¬ wall.Overruns d)
    (hnow : s.now.Overruns d) :
    (store.record id properties row ttl).run MemoryStore.backend wall s =
      (.error (.storage (.backend s!"ttl out of range: {d.text}")), s) := by
  have hfits : ttlFits wall (some d) = .ok () := ttlFits_eq fun d' hd' => by cases hd'; exact hwall
  rw [run_record, validateId_of_ne hid, httl, hfits, MemoryStore.deadline?_of_overruns hnow]

/-- **How a write ends.** A write of a context is refused for its time to live exactly when that
overruns the last instant by the wall clock. Otherwise the storage fails exactly when it overruns
the last instant by the clock of the store, and the write succeeds if it does so by neither; so it
is the storage that fails only where the clocks disagree on the end. The time to live is that of the
write or else that of the store, and without one the write succeeds. -/
theorem record_ends (hid : id ≠ "") (wall : Instant) (s : MemoryStore Context)
    (ttl : Option Duration) :
    let result := ((store.record id properties row ttl).run MemoryStore.backend wall s).1
    (∀ d, (∃ reason, result = .error (.configuration (.invalidTtl d reason))) ↔
      ttl.or store.defaultTtl = some d ∧ wall.Overruns d) ∧
    ((∃ cause, result = .error (.storage cause)) ↔
      ∃ d, ttl.or store.defaultTtl = some d ∧ ¬ wall.Overruns d ∧ s.now.Overruns d) ∧
    ((∃ c, result = .ok c) ↔
      ∀ d, ttl.or store.defaultTtl = some d → ¬ wall.Overruns d ∧ ¬ s.now.Overruns d) := by
  intro result
  rcases httl : ttl.or store.defaultTtl with _ | d
  · have hend (now : Instant) : ∀ d ∈ ttl.or store.defaultTtl, ¬ now.Overruns d := by simp [httl]
    have hresult := store.run_record_of_not_overruns properties row hid (hend wall) (hend s.now)
    simp [result, hresult]
  · by_cases hwall : wall.Overruns d
    · have hresult := store.run_record_of_wall_overruns (s := s) properties row hid httl hwall
      simp [result, hresult, hwall]
    · by_cases hnow : s.now.Overruns d
      · have hresult := store.run_record_of_now_overruns properties row hid httl hwall hnow
        simp [result, hresult, hwall, hnow]
      · have hend {now : Instant} (h : ¬ now.Overruns d) :
            ∀ d ∈ ttl.or store.defaultTtl, ¬ now.Overruns d := by
          simpa [httl] using h
        have hresult := store.run_record_of_not_overruns properties row hid (hend hwall) (hend hnow)
        simp [result, hresult, hwall, hnow]

/-- A context with a time to live is written near the last instant. -/
theorem record_ends_of_default :
    let store : ContextStore := ⟨some (.ofSeconds 99)⟩
    let wall : Instant := ⟨1700000000, 0, by decide, by decide, by decide⟩
    let now : Instant := ⟨8210266876700, 0, by decide, by decide, by decide⟩
    "a" ≠ "" ∧ ¬ now.Overruns (.ofSeconds 99) ∧
      ∃ c, ((store.record "a" [] none none).run MemoryStore.backend wall (.new now)).1 = .ok c := by
  intro store wall now
  have hid : "a" ≠ "" := by decide
  have hwall : ¬ wall.Overruns (.ofSeconds 99) := by decide
  have hnow : ¬ now.Overruns (.ofSeconds 99) := by decide
  obtain ⟨-, -, hok⟩ := record_ends store [] none hid wall (.new now) none
  exact ⟨hid, hnow, hok.2 fun d hd => by cases hd; exact ⟨hwall, hnow⟩⟩

/-- Where the clocks disagree on the end of a time to live, a write is told that the storage fails
although the end is no instant, or that its time to live has no end although the end is an
instant. -/
theorem record_judged_by_other_clock :
    let wall : Instant := ⟨1700000000, 0, by decide, by decide, by decide⟩
    let late : Instant := ⟨8210266876700, 5, by decide, by decide, by decide⟩
    let write (ttl : Duration) := ({} : ContextStore).record "a" [] none (some ttl)
    (late.Overruns (.ofSeconds 100) ∧
      ((write (.ofSeconds 100)).run MemoryStore.backend wall (.new late)).1 =
        .error (.storage (.backend "ttl out of range: 100s"))) ∧
    (¬ Instant.epoch.Overruns (.ofSeconds 8210000000000) ∧
      ((write (.ofSeconds 8210000000000)).run MemoryStore.backend wall (.new .epoch)).1 =
        .error (.configuration (.invalidTtl (.ofSeconds 8210000000000) "expiry is out of range"))) :=
  ⟨⟨by decide, by rfl⟩, by decide, by rfl⟩

end ContextStore

end KeyedState

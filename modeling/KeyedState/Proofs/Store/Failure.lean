import KeyedState.Event.Delete
import KeyedState.Event.Record
import KeyedState.Matching.Match
import KeyedState.Proofs.Store.Alone

/-!
# Calls that fail

A call that fails changes nothing, unless the storage itself fails in the midst of it: all that can
be wrong with the arguments, the templates and the parameters is noticed before the storage is
asked to put or remove anything (`Call.FailsCleanly`).

`Procedure.asked` lists what a storage is asked in a run. The shape of a procedure alone shows that
it fails cleanly (`Procedure.Clean`), for whatever the storage answers; the shapes of calls are put
together from those of their parts.
-/

namespace KeyedState

/-- What a storage is asked. -/
inductive StorageQuestion where
  /-- For the value under a key. -/
  | get (key : String)
  /-- To put a value under a key. -/
  | put (key : String) (value : Context) (ttl : Option Duration)
  /-- To remove the value under a key. -/
  | remove (key : String)
  /-- For the keys. -/
  | keys
deriving DecidableEq

/-- Whether the storage is asked to change something. -/
def StorageQuestion.isWrite : StorageQuestion → Bool
  | .get _ => false
  | .put _ _ _ => true
  | .remove _ => true
  | .keys => false

/-- A question and how the storage fails at it, if it does. -/
structure StorageStep where
  /-- The question. -/
  question : StorageQuestion
  /-- The failure. -/
  failure : Option StorageError
deriving DecidableEq

/-- The step of a question that gets an answer. -/
def StorageStep.of {α : Type} (question : StorageQuestion) : Except StorageError α → StorageStep
  | .ok _ => ⟨question, none⟩
  | .error cause => ⟨question, some cause⟩

namespace Procedure

variable {σ α β : Type} (b : Backend σ) (wall : Instant)

/-- What a storage is asked when a procedure runs alone. -/
def asked : Procedure α → σ → List StorageStep
  | .done _, _ => []
  | .wallClock next, s => (next wall).asked s
  | .lock _ next, s => next.asked s
  | .unlock _ next, s => next.asked s
  | .get key next, s => .of (.get key) (b.get key s).1 :: (next (b.get key s).1).asked (b.get key s).2
  | .put key value ttl next, s =>
    .of (.put key value ttl) (b.put key value ttl s).1 ::
      (next (b.put key value ttl s).1).asked (b.put key value ttl s).2
  | .remove key next, s =>
    .of (.remove key) (b.remove key s).1 :: (next (b.remove key s).1).asked (b.remove key s).2
  | .keys next, s => .of .keys (b.keys s).1 :: (next (b.keys s).1).asked (b.keys s).2

end Procedure

/-- A call that fails does so in one of two ways. Either the storage failed at something, and the
call ends with that failure; or the storage has not been asked to change anything. In memory, a
call that fails leaves everything as it was. -/
structure Call.FailsCleanly {α : Type} (c : Call α) : Prop where
  /-- Where the storage fails at a step, the call fails with what the storage answered. -/
  storage : ∀ {σ : Type} (b : Backend σ) (wall : Instant) (s : σ),
    ∀ step ∈ c.steps.asked b wall s, ∀ cause, step.failure = some cause →
      (c.run b wall s).1 = .error (.storage cause)
  /-- Where the configuration is at fault, nothing was to be changed. -/
  configuration : ∀ {σ : Type} (b : Backend σ) (wall : Instant) (s : σ) (cause : ConfigurationError),
    (c.run b wall s).1 = .error (.configuration cause) →
      ∀ step ∈ c.steps.asked b wall s, step.question.isWrite = false
  /-- Where the call fails although the storage answers, nothing was to be changed. -/
  answered : ∀ {σ : Type} (b : Backend σ) (wall : Instant) (s : σ) (e : StateError),
    (c.run b wall s).1 = .error e → (∀ step ∈ c.steps.asked b wall s, step.failure = none) →
      ∀ step ∈ c.steps.asked b wall s, step.question.isWrite = false
  /-- In memory, a failure leaves the slots and the clock as they were. -/
  memory : ∀ (wall : Instant) (s : MemoryStore Context) (e : StateError),
    (c.run MemoryStore.backend wall s).1 = .error e → (c.run MemoryStore.backend wall s).2 = s

namespace Procedure

variable {σ α β : Type}

/-- A procedure that asks the storage nothing more and ends with its failure. -/
inductive Ends (cause : StorageError) : Procedure (Except StateError α) → Prop where
  | done : Ends cause (.done (.error (.storage cause)))
  | unlock {key : String} {p : Procedure (Except StateError α)} (h : Ends cause p) :
    Ends cause (.unlock key p)

/-- A procedure that ends with any failure of the storage. Once the storage has changed something,
as it may have before, there is no other failure and nothing is put. -/
inductive Clean : (written : Bool) → Procedure (Except StateError α) → Prop where
  | ok {written : Bool} (a : α) : Clean written (.done (.ok a))
  | error (e : StateError) : Clean false (.done (.error e))
  | wallClock {written : Bool} {next : Instant → Procedure (Except StateError α)}
    (h : ∀ now, Clean written (next now)) : Clean written (.wallClock next)
  | lock {written : Bool} {key : String} {p : Procedure (Except StateError α)}
    (h : Clean written p) : Clean written (.lock key p)
  | unlock {written : Bool} {key : String} {p : Procedure (Except StateError α)}
    (h : Clean written p) : Clean written (.unlock key p)
  | get {written : Bool} {key : String}
    {next : Except StorageError (Option Context) → Procedure (Except StateError α)}
    (he : ∀ cause, Ends cause (next (.error cause))) (h : ∀ c, Clean written (next (.ok c))) :
    Clean written (.get key next)
  | put {key : String} {value : Context} {ttl : Option Duration}
    {next : Except StorageError Unit → Procedure (Except StateError α)}
    (he : ∀ cause, Ends cause (next (.error cause))) (h : Clean true (next (.ok ()))) :
    Clean false (.put key value ttl next)
  | remove {written : Bool} {key : String}
    {next : Except StorageError Unit → Procedure (Except StateError α)}
    (he : ∀ cause, Ends cause (next (.error cause))) (h : Clean true (next (.ok ()))) :
    Clean written (.remove key next)
  | keys {written : Bool}
    {next : Except StorageError (List String) → Procedure (Except StateError α)}
    (he : ∀ cause, Ends cause (next (.error cause))) (h : ∀ ks, Clean written (next (.ok ks))) :
    Clean written (.keys next)

/-! ## What the shape of a procedure shows -/

theorem Ends.asked_eq_nil {cause : StorageError} {p : Procedure (Except StateError α)}
    (h : Ends cause p) (b : Backend σ) (wall : Instant) (s : σ) : p.asked b wall s = [] := by
  induction h with
  | done => rfl
  | unlock _ ih => exact ih

theorem Ends.run_eq {cause : StorageError} {p : Procedure (Except StateError α)}
    (h : Ends cause p) (b : Backend σ) (wall : Instant) (s : σ) :
    p.run b wall s = (.error (.storage cause), s) := by
  induction h with
  | done => rfl
  | unlock _ ih => exact ih

/-- What the shape of a procedure says of the steps and the result of a run. -/
def Sound (written : Bool) (steps : List StorageStep) (result : Except StateError α) : Prop :=
  (∀ step ∈ steps, ∀ cause, step.failure = some cause → result = .error (.storage cause)) ∧
    ∀ e, result = .error e → (∀ step ∈ steps, step.failure = none) →
      written = false ∧ ∀ step ∈ steps, step.question.isWrite = false

/-- A step at which the storage fails is the last one. -/
theorem Ends.sound {γ : Type} {cause : StorageError} {p : Procedure (Except StateError α)}
    (h : Ends cause p) (b : Backend σ) (wall : Instant) (s : σ) (written : Bool)
    (question : StorageQuestion) :
    Sound written (.of question (.error cause : Except StorageError γ) :: p.asked b wall s)
      (p.run b wall s).1 := by
  rw [h.asked_eq_nil, h.run_eq]
  refine ⟨fun step hstep c hc => ?_, fun e _ hnone => ?_⟩
  · rw [List.mem_singleton.1 hstep] at hc
    rw [Option.some.inj hc]
  · have := hnone _ List.mem_cons_self
    cases this

/-- A step at which the storage answers says nothing of the result. -/
theorem Sound.cons {γ : Type} {written : Bool} {question : StorageQuestion} (a : γ)
    {steps : List StorageStep} {result : Except StateError α}
    (h : Sound (written || question.isWrite) steps result) :
    Sound written (.of question (.ok a : Except StorageError γ) :: steps) result := by
  obtain ⟨hcause, hclean⟩ := h
  refine ⟨fun step hstep cause hc => ?_, fun e he hnone => ?_⟩
  · rcases List.mem_cons.1 hstep with rfl | hstep
    · cases hc
    · exact hcause step hstep cause hc
  · obtain ⟨hw, hsteps⟩ := hclean e he (List.forall_mem_cons.1 hnone).2
    rw [Bool.or_eq_false_iff] at hw
    exact ⟨hw.1, List.forall_mem_cons.2 ⟨hw.2, hsteps⟩⟩

theorem Clean.sound {written : Bool} {p : Procedure (Except StateError α)} (h : Clean written p)
    (b : Backend σ) (wall : Instant) (s : σ) :
    Sound written (p.asked b wall s) (p.run b wall s).1 := by
  induction h generalizing s with
  | ok a => exact ⟨List.forall_mem_nil _, fun e he => by cases he⟩
  | error e => exact ⟨List.forall_mem_nil _, fun _ _ _ => ⟨rfl, List.forall_mem_nil _⟩⟩
  | wallClock _ ih => exact ih wall s
  | lock _ ih => exact ih s
  | unlock _ ih => exact ih s
  | @get written key next he _ ih =>
    rw [asked, run]
    rcases b.get key s with ⟨cause | c, s'⟩
    · exact (he cause).sound b wall s' written (.get key)
    · exact Sound.cons c ((Bool.or_false written).symm ▸ ih c s')
  | @put key value ttl next he _ ih =>
    rw [asked, run]
    rcases b.put key value ttl s with ⟨cause | a, s'⟩
    · exact (he cause).sound b wall s' false (.put key value ttl)
    · exact Sound.cons a (ih s')
  | @remove written key next he _ ih =>
    rw [asked, run]
    rcases b.remove key s with ⟨cause | a, s'⟩
    · exact (he cause).sound b wall s' written (.remove key)
    · exact Sound.cons a ((Bool.or_true written).symm ▸ ih s')
  | @keys written next he _ ih =>
    rw [asked, run]
    rcases b.keys s with ⟨cause | ks, s'⟩
    · exact (he cause).sound b wall s' written .keys
    · exact Sound.cons ks ((Bool.or_false written).symm ▸ ih ks s')

/-- A store in memory fails at nothing but a put, and does not change then. -/
theorem Clean.run_memory {written : Bool} {p : Procedure (Except StateError α)}
    (h : Clean written p) (wall : Instant) (s : MemoryStore Context) (e : StateError)
    (hrun : (p.run MemoryStore.backend wall s).1 = .error e) :
    written = false ∧ (p.run MemoryStore.backend wall s).2 = s := by
  induction h generalizing s with
  | ok a => cases hrun
  | error e => exact ⟨rfl, rfl⟩
  | wallClock _ ih => exact ih wall s hrun
  | lock _ ih => exact ih s hrun
  | unlock _ ih => exact ih s hrun
  | @get written key next _ _ ih => exact ih (s.get? key) s hrun
  | @put key value ttl next he _ ih =>
    refine ⟨rfl, ?_⟩
    simp only [run, MemoryStore.backend] at hrun ⊢
    rcases hput : s.put key value ttl with cause | s'
    · rw [(he cause).run_eq]
    · rw [hput] at hrun
      cases (ih s' hrun).1
  | @remove written key next _ _ ih => cases (ih (s.remove key) hrun).1
  | @keys written next _ _ ih => exact ih s.keys s hrun

end Procedure

/-- A call with a clean shape fails cleanly. -/
theorem Call.FailsCleanly.of_clean {α : Type} {c : Call α} (h : Procedure.Clean false c.steps) :
    c.FailsCleanly where
  storage b wall s := (h.sound b wall s).1
  configuration b wall s cause hc := by
    refine ((h.sound b wall s).2 _ hc fun step hstep => ?_).2
    rcases hf : step.failure with _ | f
    · rfl
    · -- a failure of the storage would have been the result
      have := hc.symm.trans ((h.sound b wall s).1 step hstep f hf)
      cases this
  answered b wall s e he hnone := ((h.sound b wall s).2 e he hnone).2
  memory wall s e he := (h.run_memory wall s e he).2

namespace Procedure

variable {α β : Type}

/-! ## Shapes of constructions -/

/-- A procedure that is clean after a change is clean where nothing has changed. -/
theorem Clean.of_written {p : Procedure (Except StateError α)} (h : Clean true p) :
    ∀ written, Clean written p := by
  intro written
  generalize hw : true = w at h
  induction h with
  | ok a => exact .ok a
  | error e => cases hw
  | wallClock _ ih => exact .wallClock fun now => ih now hw
  | lock _ ih => exact .lock (ih hw)
  | unlock _ ih => exact .unlock (ih hw)
  | get he _ ih => exact .get he fun c => ih c hw
  | put he h => cases hw
  | remove he h => exact .remove he h
  | keys he _ ih => exact .keys he fun ks => ih ks hw

theorem Ends.andThen {cause : StorageError} {p : Procedure (Except StateError α)}
    (h : Ends cause p) {f : Except StateError α → Procedure (Except StateError β)}
    (hf : Ends cause (f (.error (.storage cause)))) : Ends cause (p.andThen f) := by
  induction h with
  | done => exact hf
  | unlock _ ih => exact .unlock ih

/-- What follows a clean procedure must pass failures on, and not fail by itself. -/
theorem Clean.andThen {written : Bool} {p : Procedure (Except StateError α)}
    (h : Clean written p) {f : Except StateError α → Procedure (Except StateError β)}
    (hends : ∀ cause, Ends cause (f (.error (.storage cause))))
    (herror : ∀ e, Clean false (f (.error e))) (hok : ∀ a, Clean true (f (.ok a))) :
    Clean written (p.andThen f) := by
  induction h with
  | ok a => exact (hok a).of_written _
  | error e => exact herror e
  | wallClock _ ih => exact .wallClock ih
  | lock _ ih => exact .lock ih
  | unlock _ ih => exact .unlock ih
  | get he _ ih => exact .get (fun cause => (he cause).andThen (hends cause)) ih
  | put he _ ih => exact .put (fun cause => (he cause).andThen (hends cause)) ih
  | remove he _ ih => exact .remove (fun cause => (he cause).andThen (hends cause)) ih
  | keys he _ ih => exact .keys (fun cause => (he cause).andThen (hends cause)) ih

end Procedure

namespace Call

open Procedure

variable {α β : Type} {written : Bool} {f : α → Call β}

/-- A clean call may be followed by one that is clean after changes. -/
theorem clean_bind {c : Call α} (h : Clean written c.steps) (hf : ∀ a, Clean true (f a).steps) :
    Clean written (c >>= f).steps :=
  h.andThen (fun _ => .done) .error hf

/-- Whatever is found wrong before anything changes may end a call. -/
theorem clean_lift_bind {r : Except StateError α}
    (h : ∀ a, r = .ok a → Clean false (f a).steps) : Clean false (lift r >>= f).steps := by
  rcases r with e | a
  · exact .error e
  · exact h a rfl

theorem clean_check_bind {r : Except ConfigurationError α}
    (h : ∀ a, r = .ok a → Clean false (f a).steps) : Clean false (check r >>= f).steps := by
  rcases r with e | a
  · exact .error (.configuration e)
  · exact h a rfl

theorem clean_get_bind {key : String} {f : Option Context → Call β}
    (h : ∀ c, Clean written (f c).steps) : Clean written (get key >>= f).steps :=
  .get (fun _ => .done) h

theorem clean_keys_bind {f : List String → Call β} (h : ∀ ks, Clean written (f ks).steps) :
    Clean written (keys >>= f).steps :=
  .keys (fun _ => .done) h

theorem clean_put_bind {key : String} {value : Context} {ttl : Option Duration}
    {f : Unit → Call β} (h : Clean true (f ()).steps) :
    Clean false (put key value ttl >>= f).steps :=
  .put (fun _ => .done) h

theorem clean_withLock {c : Call α} (h : Clean written c.steps) (key : String) :
    Clean written (withLock key c).steps :=
  .lock (h.andThen (fun _ => .unlock .done) (fun e => .unlock (.error e)) fun a => .unlock (.ok a))

end Call

namespace ContextStore

open Procedure Call

/-! ## Shapes of the calls of the store -/

theorem clean_validateTtl_bind {β : Type} {ttl : Option Duration} {f : Unit → Call β}
    (h : Clean false (f ()).steps) : Clean false (validateTtl ttl >>= f).steps := by
  rcases ttl with _ | ttl
  · exact h
  · refine .wallClock fun now => ?_
    show Clean false (check (validateTtlAt now ttl) >>= f).steps
    exact clean_check_bind fun _ _ => h

theorem clean_record (store : ContextStore) (id : String) (properties : List (String × String))
    (row : Option ListOperation) (ttl : Option Duration) :
    Clean false (store.record id properties row ttl).steps := by
  refine clean_check_bind fun _ _ => clean_validateTtl_bind ?_
  exact clean_withLock (clean_get_bind fun _ => clean_put_bind (.ok _)) id

/-- The removal under a lock, which both kinds of deletion are made of. -/
theorem clean_remove (written : Bool) (id : String) :
    Clean written (Call.withLock id (Call.remove id)).steps :=
  clean_withLock (.remove (fun _ => .done) (.ok ())) id

theorem clean_delete (id : String) : Clean false (delete id).steps :=
  clean_check_bind fun _ _ => clean_remove false id

/-- Deleting ids that are in order has no failure but one of the storage, so none comes after the
first deletion. -/
theorem clean_deleteEach {ids : List String} (h : ∀ id ∈ ids, validateId id = .ok ())
    (written : Bool) : Clean written (deleteEach ids).steps := by
  induction ids generalizing written with
  | nil => exact .ok ()
  | cons id ids ih =>
    obtain ⟨hid, hids⟩ := List.forall_mem_cons.1 h
    have hdelete : delete id = Call.withLock id (Call.remove id) := by
      unfold delete
      rw [hid]
      rfl
    unfold deleteEach
    rw [hdelete]
    exact clean_bind (clean_remove written id) fun _ => ih hids true

theorem clean_deleteAll (ids : List String) : Clean false (deleteAll ids).steps := by
  refine clean_check_bind fun _ h => ?_
  exact clean_deleteEach (forM_validateId.1 h) false

theorem clean_removeAccepted (p : WholePattern) (ids : List String) (count : Nat)
    (written : Bool) : Clean written (removeAccepted p count ids).steps := by
  induction ids generalizing count written with
  | nil => exact .ok count
  | cons id ids ih =>
    unfold removeAccepted
    split
    · exact clean_bind (clean_remove written id) fun _ => ih (count + 1) true
    · exact ih count written

theorem clean_deleteMatching (pattern : String) : Clean false (deleteMatching pattern).steps := by
  refine clean_check_bind fun p _ => ?_
  exact clean_keys_bind fun ids => clean_removeAccepted p ids 0 false

theorem clean_deleteRow (id : String) (choice : ListDeletion) :
    Clean false (deleteRow id choice).steps := by
  refine clean_check_bind fun _ _ => clean_withLock (clean_get_bind fun stored => ?_) id
  rcases stored.bind (·.deleteRow? choice) with _ | c
  · exact .ok false
  · exact clean_put_bind (.ok true)

theorem clean_read_bind {β : Type} {id : String} {f : Option Context → Call β}
    (h : ∀ c, Clean false (f c).steps) : Clean false (ContextStore.get id >>= f).steps := by
  unfold ContextStore.get
  rcases validateId id with e | ⟨⟩
  · exact .error (.configuration e)
  · exact clean_get_bind h

/-! ## Shapes of events and matches -/

theorem clean_handleRecord (store : ContextStore) (render : Renderer) (model parameters : Json) :
    Clean false (store.handleRecord render model parameters).steps := by
  refine clean_check_bind fun p _ => clean_lift_bind fun r _ => ?_
  exact clean_record store r.id r.properties r.row r.ttl

theorem clean_perform (r : DeleteRequest) : Clean false (perform r).steps := by
  cases r with
  | context id => exact clean_bind (clean_delete id) fun _ => .ok _
  | row id choice => exact clean_bind (clean_deleteRow id choice) fun _ => .ok _
  | contexts ids => exact clean_bind (clean_deleteAll ids) fun _ => .ok _
  | matching pattern => exact clean_bind (clean_deleteMatching pattern) fun _ => .ok _

theorem clean_handleDelete (render : Renderer) (model parameters : Json) :
    Clean false (handleDelete render model parameters).steps :=
  clean_check_bind fun _ _ => clean_lift_bind fun r _ => clean_perform r

end ContextStore

theorem StateMatcher.clean_matchRequest (m : StateMatcher) (request parameters : Json) :
    Procedure.Clean false (m.matchRequest request parameters).steps := by
  refine Call.clean_check_bind fun question _ => ?_
  cases question with
  | hasNotContext template =>
    refine Call.clean_lift_bind fun id _ => Call.clean_bind ?_ fun _ => .ok _
    exact ContextStore.clean_read_bind fun c => .ok c.isSome
  | hasContext template =>
    refine Call.clean_lift_bind fun id _ => ContextStore.clean_read_bind fun c => ?_
    rcases c with _ | c
    · exact .ok false
    · -- what was read is evaluated, and nothing more is asked
      show Procedure.Clean false (.done (m.conditionsHold request parameters c))
      rcases m.conditionsHold request parameters c with e | matched
      · exact .error e
      · exact .ok matched

/-- **A call that fails changes nothing.** Each call of the store, each event and each match fails
cleanly, for every renderer and over every storage. -/
theorem failing_calls_change_nothing (store : ContextStore) (render : Renderer)
    (m : StateMatcher) :
    (∀ id properties row ttl, (store.record id properties row ttl).FailsCleanly) ∧
    (∀ id, (ContextStore.delete id).FailsCleanly) ∧
    (∀ ids, (ContextStore.deleteAll ids).FailsCleanly) ∧
    (∀ pattern, (ContextStore.deleteMatching pattern).FailsCleanly) ∧
    (∀ id choice, (ContextStore.deleteRow id choice).FailsCleanly) ∧
    (∀ model parameters, (store.handleRecord render model parameters).FailsCleanly) ∧
    (∀ model parameters, (ContextStore.handleDelete render model parameters).FailsCleanly) ∧
    ∀ request parameters, (m.matchRequest request parameters).FailsCleanly :=
  ⟨fun id properties row ttl => .of_clean (store.clean_record id properties row ttl),
    fun id => .of_clean (ContextStore.clean_delete id),
    fun ids => .of_clean (ContextStore.clean_deleteAll ids),
    fun pattern => .of_clean (ContextStore.clean_deleteMatching pattern),
    fun id choice => .of_clean (ContextStore.clean_deleteRow id choice),
    fun model parameters => .of_clean (store.clean_handleRecord render model parameters),
    fun model parameters => .of_clean (ContextStore.clean_handleDelete render model parameters),
    fun request parameters => .of_clean (m.clean_matchRequest request parameters)⟩

/-- An id that is wrong at the end of a list saves the first one. -/
example (wall : Instant) (s : MemoryStore Context) :
    (ContextStore.deleteAll ["a", ""]).run MemoryStore.backend wall s =
      (.error (.configuration .emptyContextId), s) := by
  rfl

end KeyedState

import KeyedState.Proofs.KeyMap.InsertAll
import KeyedState.Store.History

/-!
# Lives of contexts

The life of a context as somebody knows it who sees the calls of a store, when they are made and
how they end, but not the slots of the store. A life begins with a write that finds no context, or
one whose life is over, and goes on with the writes and the deletions of rows that succeed. It ends
with a deletion, or when its time to live has passed since the last change.

`Life.ofCalls` is the life that a list of calls leaves, and `Life.context` is the context that the
changes of a life make.
-/

namespace KeyedState

/-- A call as an observer sees it. -/
structure Observation where
  /-- What the clock of the store shows. -/
  time : Instant
  /-- The request. -/
  request : Request
  /-- How the call ends. -/
  result : Except StateError Reply

/-- The calls of a history as an observer sees them, the first one first. -/
def History.observe (store : ContextStore) : History → MemoryStore Context → List Observation
  | [], _ => []
  | e :: es, s =>
    ((e.run store s).1.map fun (r, result) => ⟨s.now, r, result⟩).toList ++
      observe store es (e.run store s).2

/-- What a write is given. -/
structure Write where
  /-- The properties to set, in order. -/
  properties : List (String × String)
  /-- The row to insert. -/
  row : Option ListOperation
  /-- The time to live, where there is one. -/
  ttl : Option Duration
deriving DecidableEq

/-- A successful change of a context. -/
inductive Mutation where
  /-- A write. -/
  | record (w : Write)
  /-- The deletion of a row that is there. -/
  | deleteRow (choice : ListDeletion)
deriving DecidableEq

namespace Mutation

/-- The properties that are set. -/
def properties : Mutation → List (String × String)
  | .record w => w.properties
  | .deleteRow _ => []

/-- The rows after the change. -/
def applyRow (rows : List Row) : Mutation → List Row
  | .record w => (w.row.map (·.apply rows)).getD rows
  | .deleteRow choice => ((choice.position rows).map rows.eraseIdx).getD rows

/-- The time to live after the change: that of a write or else the one of the store, and the
present one after the deletion of a row. -/
def applyTtl (store : ContextStore) (ttl : Option Duration) : Mutation → Option Duration
  | .record w => w.ttl.or store.defaultTtl
  | .deleteRow _ => ttl

end Mutation

/-- The life of a context. -/
structure Life where
  /-- The write that found no context. -/
  birth : Write
  /-- The changes since then, the first one first. -/
  later : List Mutation
  /-- When the last change was made. -/
  changedAt : Instant
deriving DecidableEq

namespace Life

/-- All changes, the first one first. -/
def changes (l : Life) : List Mutation := .record l.birth :: l.later

/-- The properties that were set, in order. -/
def properties (l : Life) : List (String × String) := l.changes.flatMap Mutation.properties

/-- The rows that the changes leave. -/
def rows (l : Life) : List Row := l.changes.foldl Mutation.applyRow []

/-- The time to live of the last write. -/
def ttl (store : ContextStore) (l : Life) : Option Duration :=
  l.changes.foldl (Mutation.applyTtl store) none

/-- When the life is over. -/
def deadline (store : ContextStore) (l : Life) : Option Instant :=
  (l.ttl store).bind l.changedAt.add?

/-- Whether the life is not over yet. -/
def lasts (store : ContextStore) (now : Instant) (l : Life) : Bool :=
  (l.deadline store).all (now.before ·)

/-- The life that begins with a write. -/
def start (w : Write) (now : Instant) : Life := ⟨w, [], now⟩

/-- The life with one more change. -/
def extend (l : Life) (m : Mutation) (now : Instant) : Life := ⟨l.birth, l.later ++ [m], now⟩

/-- The life that a write begins or, where the present one is not over, goes on with. -/
def write (store : ContextStore) (life : Option Life) (w : Write) (now : Instant) : Life :=
  match life.filter (lasts store now) with
  | none => start w now
  | some l => l.extend (.record w) now

/-- Whether a regular expression matches a whole id. -/
def isMatched (pattern id : String) : Bool :=
  match WholePattern.compile pattern with
  | .ok p => p.accepts id
  | .error _ => false

/-- The life of context `id` after a call, from the life before. Only calls that succeed count. -/
def after (store : ContextStore) (id : String) (life : Option Life) (o : Observation) :
    Option Life :=
  match o.request, o.result with
  | .record id' properties row ttl, .ok _ =>
    if id' = id then some (write store life ⟨properties, row, ttl⟩ o.time) else life
  | .deleteRow id' choice, .ok (.flag true) =>
    if id' = id then life.map (·.extend (.deleteRow choice) o.time) else life
  | .delete id', .ok _ => if id' = id then none else life
  | .deleteAll ids, .ok _ => if id ∈ ids then none else life
  | .deleteMatching pattern, .ok _ => if isMatched pattern id then none else life
  | _, _ => life

/-- The life of context `id` that calls leave. It may be over. -/
def ofCalls (store : ContextStore) (id : String) (calls : List Observation) : Option Life :=
  calls.foldl (after store id) none

theorem isMatched_eq {pattern : String} {p : WholePattern}
    (h : WholePattern.compile pattern = .ok p) (id : String) :
    isMatched pattern id = p.accepts id := by
  unfold isMatched
  rw [h]

/-! ## The context of a life -/

/-- The number of changes after the first, as far as it can be counted. -/
def updateCount (l : Life) : U64 :=
  ⟨min maxU64 (l.changes.length - 1), Nat.lt_succ_of_le (Nat.min_le_left ..)⟩

/-- The context that the changes make. -/
def context (store : ContextStore) (id : String) (l : Life) : Context :=
  ⟨id, .ofList l.properties, l.rows, l.updateCount, l.ttl store⟩

/-- The slot of that context. -/
def slot (store : ContextStore) (id : String) (l : Life) : Slot Context :=
  ⟨l.context store id, l.deadline store⟩

@[simp] theorem changes_extend (l : Life) (m : Mutation) (now : Instant) :
    (l.extend m now).changes = l.changes ++ [m] :=
  rfl

theorem isLive_slot (store : ContextStore) (id : String) (now : Instant) (l : Life) :
    (l.slot store id).isLive now = l.lasts store now :=
  rfl

@[simp] theorem properties_extend (l : Life) (m : Mutation) (now : Instant) :
    (l.extend m now).properties = l.properties ++ m.properties := by
  unfold properties
  rw [changes_extend, List.flatMap_append, List.flatMap_singleton]

@[simp] theorem rows_extend (l : Life) (m : Mutation) (now : Instant) :
    (l.extend m now).rows = m.applyRow l.rows := by
  unfold rows
  rw [changes_extend, List.foldl_append]
  rfl

@[simp] theorem ttl_extend (store : ContextStore) (l : Life) (m : Mutation) (now : Instant) :
    (l.extend m now).ttl store = m.applyTtl store (l.ttl store) := by
  unfold ttl
  rw [changes_extend, List.foldl_append]
  rfl

/-- Each change after the first counts as one update. -/
@[simp] theorem updateCount_extend (l : Life) (m : Mutation) (now : Instant) :
    (l.extend m now).updateCount = l.updateCount.next := by
  have hl : l.changes.length = l.later.length + 1 := rfl
  refine Fin.ext ?_
  rw [U64.val_next]
  show min maxU64 ((l.changes ++ [m]).length - 1) =
    min maxU64 (min maxU64 (l.changes.length - 1) + 1)
  rw [List.length_append, List.length_singleton, hl]
  omega

/-- A write that finds no context makes the first context of a life. -/
theorem context_start (store : ContextStore) (id : String) (w : Write) (now : Instant) :
    (start w now).context store id =
      Context.record id none ⟨w.properties, w.row, w.ttl.or store.defaultTtl⟩ := by
  have hp : (start w now).properties = w.properties := List.append_nil _
  unfold context
  rw [hp]
  rcases w with ⟨properties, _ | op, ttl⟩
  · rfl
  · rfl

/-- A write that finds the context of a life makes the context of the longer life. -/
theorem context_extend_record (store : ContextStore) (id : String) (l : Life) (w : Write)
    (now : Instant) :
    (l.extend (.record w) now).context store id =
      Context.record id (some (l.context store id))
        ⟨w.properties, w.row, w.ttl.or store.defaultTtl⟩ := by
  unfold context
  rw [properties_extend, rows_extend, updateCount_extend, ttl_extend, Mutation.properties,
    KeyMap.ofList_append]
  rcases w with ⟨properties, _ | op, ttl⟩
  · rfl
  · rfl

/-- A write leaves the slot that it makes of the context it finds. -/
theorem slot_write (store : ContextStore) (id : String) (life : Option Life) (w : Write)
    (now : Instant) :
    (write store life w now).slot store id =
      ⟨Context.record id ((life.filter (lasts store now)).map (context store id))
          ⟨w.properties, w.row, w.ttl.or store.defaultTtl⟩,
        (w.ttl.or store.defaultTtl).bind now.add?⟩ := by
  unfold write slot deadline
  cases life.filter (lasts store now) with
  | none =>
    simp only
    rw [context_start]
    rfl
  | some l =>
    simp only
    rw [context_extend_record, ttl_extend]
    rfl

/-- The deletion of a row of the context of a life makes the context of the longer life. -/
theorem context_extend_deleteRow {store : ContextStore} {id : String} {l : Life}
    {choice : ListDeletion} {c : Context} (now : Instant)
    (h : (l.context store id).deleteRow? choice = some c) :
    (l.extend (.deleteRow choice) now).context store id = c := by
  obtain ⟨i, hi, rfl⟩ := Option.map_eq_some_iff.1 h
  have hi' : choice.position l.rows = some i := hi
  unfold context
  rw [properties_extend, rows_extend, updateCount_extend, ttl_extend, Mutation.properties,
    List.append_nil, Mutation.applyRow, hi']
  rfl

end Life

end KeyedState

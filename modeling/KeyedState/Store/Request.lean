import KeyedState.Store.Operations

/-!
# Requests to the store

A `Request` is a call of the store with its arguments, and a `Reply` is what the call returns.
`Request.call` makes the call, so that histories of calls and threads of calls are lists of
requests.
-/

namespace KeyedState

/-- A call of the store with its arguments. -/
inductive Request where
  /-- The creation or update of a context. -/
  | record (id : String) (properties : List (String × String)) (row : Option ListOperation)
      (ttl : Option Duration)
  /-- The deletion of a context. -/
  | delete (id : String)
  /-- The deletion of listed contexts. -/
  | deleteAll (ids : List String)
  /-- The deletion of the contexts whose ids match a pattern. -/
  | deleteMatching (pattern : String)
  /-- The deletion of a row of a context. -/
  | deleteRow (id : String) (choice : ListDeletion)
  /-- The reading of a context. -/
  | get (id : String)
  /-- The question whether a context exists. -/
  | has (id : String)
  /-- The reading of all contexts. -/
  | snapshot
deriving DecidableEq

/-- What a call of the store returns when it succeeds. -/
inductive Reply where
  /-- A context as it was written. -/
  | written (c : Context)
  /-- A context that was looked for. -/
  | found (c : Option Context)
  /-- Nothing. -/
  | done
  /-- A number of contexts. -/
  | count (n : Nat)
  /-- A truth value. -/
  | flag (b : Bool)
  /-- Contexts by id. -/
  | contexts (m : KeyMap Context)
deriving DecidableEq

namespace Request

/-- The call that a request is for. -/
def call (store : ContextStore) : Request → Call Reply
  | .record id properties row ttl => .written <$> store.record id properties row ttl
  | .delete id => (fun _ => .done) <$> ContextStore.delete id
  | .deleteAll ids => (fun _ => .done) <$> ContextStore.deleteAll ids
  | .deleteMatching pattern => .count <$> ContextStore.deleteMatching pattern
  | .deleteRow id choice => .flag <$> ContextStore.deleteRow id choice
  | .get id => .found <$> ContextStore.get id
  | .has id => .flag <$> ContextStore.has id
  | .snapshot => .contexts <$> ContextStore.snapshot

/-- The id of the one context that a request is about. -/
def id? : Request → Option String
  | .record id _ _ _ => some id
  | .delete id => some id
  | .deleteRow id _ => some id
  | .get id => some id
  | .has id => some id
  | _ => none

end Request

end KeyedState

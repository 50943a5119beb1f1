import KeyedState.Context.Row
import KeyedState.Json.Basic

/-!
# Contexts

A `Context` is a named piece of state: properties, rows and a count of its updates, with the time
to live of its last write. `Context.record` and `Context.deleteRow?` are the two updates.
-/

namespace KeyedState

/-- A named piece of state. -/
structure Context where
  /-- The name. -/
  id : String
  /-- The properties. -/
  properties : KeyMap String
  /-- The rows, in order. -/
  rows : List Row
  /-- The number of updates since the first write. -/
  updateCount : U64
  /-- The time to live of the last write. -/
  expiry : Option Duration
deriving DecidableEq

namespace Context

/-- The context before any update. -/
def new (id : String) : Context := ⟨id, ∅, [], .zero, none⟩

/-- The value of a property. -/
def property (c : Context) (name : String) : Option String := c.properties.get? name

/-- What a write changes in a context. -/
structure Change where
  /-- The properties to set, in order. -/
  properties : List (String × String)
  /-- The row to insert. -/
  row : Option ListOperation
  /-- The time to live from this write on. -/
  expiry : Option Duration
deriving DecidableEq

/-- The context after a write, but for its count. -/
def apply (c : Context) (w : Change) : Context where
  id := c.id
  properties := c.properties.insertAll w.properties
  rows := match w.row with
    | none => c.rows
    | some op => op.apply c.rows
  updateCount := c.updateCount
  expiry := w.expiry

/-- The context with one more update counted. -/
def bump (c : Context) : Context := { c with updateCount := U64.next c.updateCount }

/-- The context `id` after a write, from what was stored under that name. A new context has no
update. -/
def record (id : String) (stored : Option Context) (w : Change) : Context :=
  ((stored.map bump).getD (new id)).apply w

/-- The context without the chosen row and with one more update; none when there is no such row. -/
def deleteRow? (c : Context) (d : ListDeletion) : Option Context :=
  (d.position c.rows).map fun i => { c.bump with rows := c.rows.eraseIdx i }

/-! ## Values -/

/-- A map of texts as a value. -/
def textsToJson (m : KeyMap String) : Json := .ofMap .str m

/-- What templates see of a context. The counts are texts. -/
def templateModel (c : Context) : Json :=
  .object
    [("id", .str c.id),
     ("list", .array (c.rows.map textsToJson)),
     ("listSize", .str (toString c.rows.length)),
     ("properties", textsToJson c.properties),
     ("updateCount", .str (toString c.updateCount.val))]

end Context

end KeyedState

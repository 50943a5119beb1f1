import KeyedState.Event.Values
import KeyedState.Store.Operations

/-!
# Record events

A record event creates or updates one context. Its parameters are rendered with a model first, and
the results are recorded.
-/

namespace KeyedState

/-- The templates of the fields of a row. -/
abbrev RowTemplates := KeyMap Json

/-- The insertion of a row that a record event asks for. -/
structure RecordListParameters where
  /-- The row to insert in front. -/
  addFirst : Option RowTemplates := none
  /-- The row to insert at the end. -/
  addLast : Option RowTemplates := none

/-- The parameters of a record event. -/
structure RecordParameters where
  /-- The template of the id. -/
  context : String
  /-- The templates of the properties. -/
  state : KeyMap Json := ∅
  /-- The row to insert. -/
  list : Option RecordListParameters := none
  /-- The time to live in seconds. -/
  ttlSeconds : Option U64 := none

namespace RecordListParameters

/-- The fields of the insertion. -/
def fields : List (Decoder.Field RecordListParameters) :=
  [Decoder.field "addFirst" (Decoder.optional (Decoder.map Decoder.any))
    fun v p => { p with addFirst := v },
   Decoder.field "addLast" (Decoder.optional (Decoder.map Decoder.any))
    fun v p => { p with addLast := v }]

/-- Reads the insertion. -/
def decode : Decoder RecordListParameters := Decoder.record "RecordListParameters" fields {}

/-- The insertion with its row rendered. At most one end may be given. -/
def render (f : String → Except StateError String) (p : RecordListParameters) :
    Except StateError (Option ListOperation) :=
  match p.addFirst, p.addLast with
  | none, none => .ok none
  | some row, none => do
    return some (.addFirst (.ofList (← Event.renderValues f row.toList)))
  | none, some row => do
    return some (.addLast (.ofList (← Event.renderValues f row.toList)))
  | some _, some _ => .error <| .configuration <| .invalidParameters
    "'list' must contain either 'addFirst' or 'addLast', not both"

end RecordListParameters

namespace RecordParameters

/-- The fields of the parameters. -/
def fields : List (Decoder.Field RecordParameters) :=
  [Decoder.requiredField "context" Decoder.string fun v p => { p with context := v },
   Decoder.field "state" (Decoder.map Decoder.any) fun v p => { p with state := v },
   Decoder.field "list" (Decoder.optional RecordListParameters.decode)
    fun v p => { p with list := v },
   Decoder.field "ttlSeconds" Event.decodeSeconds fun v p => { p with ttlSeconds := v }]

/-- Reads the parameters. -/
def decode : Decoder RecordParameters := Decoder.record "RecordParameters" fields { context := "" }

end RecordParameters

/-- What a record event writes. -/
structure RecordRequest where
  /-- The id. -/
  id : String
  /-- The properties, by name. -/
  properties : List (String × String)
  /-- The row to insert. -/
  row : Option ListOperation
  /-- The time to live. -/
  ttl : Option Duration

/-- The parameters with every template rendered. -/
def RecordParameters.render (f : String → Except StateError String) (p : RecordParameters) :
    Except StateError RecordRequest := do
  let id ← f p.context
  let properties ← Event.renderValues f p.state.toList
  let row ← match p.list with
    | none => .ok none
    | some list => list.render f
  return { id, properties, row, ttl := p.ttlSeconds.map Duration.ofSeconds }

namespace ContextStore

/-- Handles a record event. -/
def handleRecord (store : ContextStore) (render : Renderer) (model parameters : Json) :
    Call Context := do
  let p ← Call.check (Event.parse RecordParameters.decode parameters)
  let r ← Call.lift (p.render (render model))
  store.record r.id r.properties r.row r.ttl

end ContextStore

end KeyedState

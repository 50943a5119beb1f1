import KeyedState.Event.Values
import KeyedState.Store.Operations

/-!
# Delete events

A delete event deletes one context, several contexts, the contexts whose ids match a pattern, or
one row of a context. Its parameters ask for exactly one of these; they are rendered with a model
first.
-/

namespace KeyedState

/-- The templates of the choice of a row by a property and its value. -/
structure DeleteWhere where
  /-- The template of the property. -/
  property : String
  /-- The template of the value. -/
  value : String

/-- The choice of a row that a delete event asks for. -/
structure DeleteListParameters where
  /-- The first row. -/
  deleteFirst : Bool := false
  /-- The last row. -/
  deleteLast : Bool := false
  /-- The row at an index, whose template is given. -/
  deleteIndex : Option Json := none
  /-- The first row with a property of a value. -/
  deleteWhere : Option DeleteWhere := none

/-- The parameters of a delete event. -/
structure DeleteParameters where
  /-- The template of one id. -/
  context : Option String := none
  /-- The templates of several ids. -/
  contexts : Option (List String) := none
  /-- The template of a pattern. -/
  contextsMatching : Option String := none
  /-- The row to delete instead of the whole context. -/
  list : Option DeleteListParameters := none

/-- What a delete event did. -/
inductive DeleteOutcome where
  /-- One context was deleted. -/
  | context
  /-- So many listed contexts were deleted. -/
  | contexts (n : Nat)
  /-- So many contexts with a matching id were deleted. -/
  | matching (n : Nat)
  /-- A row was to be deleted; whether there was one. -/
  | listEntry (removed : Bool)
deriving DecidableEq

namespace DeleteWhere

/-- The fields of the choice. -/
def fields : List (Decoder.Field DeleteWhere) :=
  [Decoder.requiredField "property" Decoder.string fun v p => { p with property := v },
   Decoder.requiredField "value" Decoder.string fun v p => { p with value := v }]

/-- Reads the choice. -/
def decode : Decoder DeleteWhere := Decoder.record "DeleteWhere" fields ⟨"", ""⟩

end DeleteWhere

namespace DeleteListParameters

/-- The fields of the choice. -/
def fields : List (Decoder.Field DeleteListParameters) :=
  [Decoder.field "deleteFirst" Event.decodeFlag fun v p => { p with deleteFirst := v },
   Decoder.field "deleteLast" Event.decodeFlag fun v p => { p with deleteLast := v },
   Decoder.field "deleteIndex" (Decoder.optional Decoder.any)
    fun v p => { p with deleteIndex := v },
   Decoder.field "deleteWhere" (Decoder.optional DeleteWhere.decode)
    fun v p => { p with deleteWhere := v }]

/-- Reads the choice. -/
def decode : Decoder DeleteListParameters := Decoder.record "DeleteListParameters" fields {}

/-- The failure that not exactly one way to choose is given. -/
def notOne : StateError := .configuration <| .invalidParameters
  "'list' must contain exactly one of 'deleteFirst', 'deleteLast', 'deleteIndex' or 'deleteWhere'"

/-- The choice with its templates rendered. Exactly one way to choose must be given. -/
def render (f : String → Except StateError String) (p : DeleteListParameters) :
    Except StateError ListDeletion :=
  match p.deleteFirst, p.deleteLast, p.deleteIndex, p.deleteWhere with
  | true, false, none, none => .ok .first
  | false, true, none, none => .ok .last
  | false, false, some index, none => do
    let template ← (Event.leafText "deleteIndex" index).mapError .configuration
    let text ← f template
    (ListDeletion.ofText text).mapError .configuration
  | false, false, none, some w => do
    let property ← f w.property
    let value ← f w.value
    return .where_ property value
  | _, _, _, _ => .error notOne

end DeleteListParameters

namespace DeleteParameters

/-- The fields of the parameters. -/
def fields : List (Decoder.Field DeleteParameters) :=
  [Decoder.field "context" (Decoder.optional Decoder.string) fun v p => { p with context := v },
   Decoder.field "contexts" (Decoder.optional (Decoder.list Decoder.string))
    fun v p => { p with contexts := v },
   Decoder.field "contextsMatching" (Decoder.optional Decoder.string)
    fun v p => { p with contextsMatching := v },
   Decoder.field "list" (Decoder.optional DeleteListParameters.decode)
    fun v p => { p with list := v }]

/-- Reads the parameters. -/
def decode : Decoder DeleteParameters := Decoder.record "DeleteParameters" fields {}

end DeleteParameters

/-- What a delete event asks of the store. -/
inductive DeleteRequest where
  /-- The deletion of a context. -/
  | context (id : String)
  /-- The deletion of a row of a context. -/
  | row (id : String) (choice : ListDeletion)
  /-- The deletion of the listed contexts. -/
  | contexts (ids : List String)
  /-- The deletion of the contexts whose ids match a pattern. -/
  | matching (pattern : String)
deriving DecidableEq

namespace DeleteParameters

/-- The failure that not exactly one target is given. -/
def notOne : StateError := .configuration <| .invalidParameters <|
  "Missing/invalid configuration for context deletion: exactly one of 'context', " ++
    "'contexts' or 'contextsMatching' is required"

/-- Fails where a row is chosen beside a target that is not one context. -/
def rejectList (p : DeleteParameters) (key : String) : Except StateError Unit :=
  match p.list with
  | none => .ok ()
  | some _ => .error <| .configuration <| .invalidParameters
    s!"'list' can only be combined with 'context', not '{key}'"

/-- What the parameters ask for, with their templates rendered. -/
def render (f : String → Except StateError String) (p : DeleteParameters) :
    Except StateError DeleteRequest :=
  match p.context, p.contexts, p.contextsMatching with
  | some context, none, none => do
    let id ← f context
    match p.list with
    | none => return .context id
    | some list => return .row id (← list.render f)
  | none, some contexts, none => do
    p.rejectList "contexts"
    return .contexts (← contexts.mapM f)
  | none, none, some pattern => do
    p.rejectList "contextsMatching"
    return .matching (← f pattern)
  | _, _, _ => .error notOne

end DeleteParameters

namespace ContextStore

/-- Does what a delete event asks for. -/
def perform : DeleteRequest → Call DeleteOutcome
  | .context id => do delete id; return .context
  | .row id choice => do return .listEntry (← deleteRow id choice)
  | .contexts ids => do deleteAll ids; return .contexts ids.length
  | .matching pattern => do return .matching (← deleteMatching pattern)

/-- Handles a delete event. -/
def handleDelete (render : Renderer) (model parameters : Json) : Call DeleteOutcome := do
  let p ← Call.check (Event.parse DeleteParameters.decode parameters)
  perform (← Call.lift (p.render (render model)))

end ContextStore

end KeyedState

import KeyedState.Context.Basic
import KeyedState.Time.Json

/-!
# Contexts as JSON values

`toJson` writes contexts, insertions and choices of rows, and `decode` reads them back.
-/

namespace KeyedState

namespace Context

/-- The value of a context. The time to live stands only where there is one. -/
def toJson (c : Context) : Json :=
  .object <|
    (match c.expiry with
      | none => []
      | some d => [("expiry", d.toJson)]) ++
    [("id", .str c.id),
     ("list", .array (c.rows.map textsToJson)),
     ("properties", textsToJson c.properties),
     ("updateCount", .int c.updateCount.val)]

/-- Reads a map of texts. -/
def decodeTexts : Decoder (KeyMap String) := Decoder.map Decoder.string

/-- The fields of a context. -/
def fields : List (Decoder.Field Context) :=
  [Decoder.requiredField "id" Decoder.string fun id c => { c with id },
   Decoder.field "properties" decodeTexts fun properties c => { c with properties },
   Decoder.field "list" (Decoder.list decodeTexts) fun rows c => { c with rows },
   Decoder.field "updateCount" Decoder.u64 fun updateCount c => { c with updateCount },
   Decoder.field "expiry" (Decoder.optional Duration.decode) fun expiry c => { c with expiry }]

/-- Reads a context. -/
def decode : Decoder Context := Decoder.record "Context" fields (new "")

end Context

namespace ListOperation

/-- The value of an insertion. -/
def toJson : ListOperation → Json
  | .addFirst row => .object [("addFirst", Context.textsToJson row)]
  | .addLast row => .object [("addLast", Context.textsToJson row)]

/-- The names of the variants. -/
def variants : List String := ["addFirst", "addLast"]

/-- Reads an insertion. -/
def decode : Decoder ListOperation := fun v => do
  let (name, payload) ← Decoder.variant variants v
  let row ← Decoder.payload Context.decodeTexts payload
  return if name = "addFirst" then .addFirst row else .addLast row

end ListOperation

namespace ListDeletion

/-- The value of a choice of a row. -/
def toJson : ListDeletion → Json
  | .first => .str "first"
  | .last => .str "last"
  | .index n => .object [("index", .int n.val)]
  | .where_ property value =>
    .object [("where", .object [("property", .str property), ("value", .str value)])]

/-- The names of the variants. -/
def variants : List String := ["first", "last", "index", "where"]

/-- The fields of the choice by a property and its value. -/
def whereFields : List (Decoder.Field (String × String)) :=
  [Decoder.requiredField "property" Decoder.string fun p r => (p, r.2),
   Decoder.requiredField "value" Decoder.string fun v r => (r.1, v)]

/-- Reads the payload of the choice by a property and its value, which must be an object. -/
def decodeWhere : Option Json → Except DecodeError ListDeletion
  | none => .error (.wrongType .unitVariant "struct variant")
  | some (.object ms) => do
    let (property, value) ← Decoder.record "ListDeletion" whereFields ("", "") (.object ms)
    return .where_ property value
  | some v => Decoder.wrong v "struct variant"

/-- Reads a choice of a row. -/
def decode : Decoder ListDeletion := fun v => do
  let (name, payload) ← Decoder.variant variants v
  match name with
  | "first" => do Decoder.unitPayload payload; return .first
  | "last" => do Decoder.unitPayload payload; return .last
  | "index" => do
    let n ← Decoder.payload Decoder.size payload
    return .index n
  | _ => decodeWhere payload

end ListDeletion

end KeyedState

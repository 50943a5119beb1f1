import KeyedState.Json.Token

/-!
# JSON documents

A `Document` is the syntax tree of a JSON text. It keeps what a value loses: number literals as
they are written, members in the order of the text with repeated names, and texts whose escapes
denote nothing. `Document.parse` reads a tree with a stack of the collections that are open.
-/

namespace KeyedState

namespace Json

/-- The syntax tree of a JSON text. -/
inductive Document where
  /-- The null value. -/
  | null
  /-- A truth value. -/
  | bool (b : Bool)
  /-- A number literal. -/
  | number (l : Literal)
  /-- A text, if its escapes denote one. -/
  | text (s : Option String)
  /-- The items of an array. -/
  | array (items : List Document)
  /-- The members of an object. -/
  | object (members : List (Option String × Document))
deriving Inhabited

namespace Document

/-- A collection whose end is not reached. What it holds so far is in reverse order. -/
inductive Frame where
  /-- An array. -/
  | array (items : List Document)
  /-- An object, with the name of the member whose value is being read. -/
  | object (members : List (Option String × Document)) (name : Option String)

/-- What may come next. -/
inductive Expected where
  /-- A value. -/
  | value
  /-- The first item of an array, or its end. -/
  | firstItem
  /-- The first name of an object, or its end. -/
  | firstName
  /-- A further name of an object with the given members. -/
  | name (members : List (Option String × Document))
  /-- The colon after a name of an object with the given members. -/
  | colon (members : List (Option String × Document)) (name : Option String)
  /-- What follows a whole value. -/
  | rest (value : Document)

/-- The scalar that a token stands for. -/
def scalar? : Token → Option Document
  | .null => some .null
  | .bool b => some (.bool b)
  | .number l => some (.number l)
  | .text s => some (.text s)
  | _ => none

/-- One step: the open collections and what comes next, after a token. -/
def step (frames : List Frame) : Expected → Token → Option (List Frame × Expected)
  | .value, .openArray => some (.array [] :: frames, .firstItem)
  | .value, .openObject => some (frames, .firstName)
  | .value, t => (scalar? t).map fun d => (frames, .rest d)
  | .firstItem, .closeArray =>
    match frames with
    | .array _ :: frames => some (frames, .rest (.array []))
    | _ => none
  | .firstItem, .openArray => some (.array [] :: frames, .firstItem)
  | .firstItem, .openObject => some (frames, .firstName)
  | .firstItem, t => (scalar? t).map fun d => (frames, .rest d)
  | .firstName, .closeObject => some (frames, .rest (.object []))
  | .firstName, .text s => some (frames, .colon [] s)
  | .firstName, _ => none
  | .name members, .text s => some (frames, .colon members s)
  | .name _, _ => none
  | .colon members s, .colon => some (.object members s :: frames, .value)
  | .colon _ _, _ => none
  | .rest d, .comma =>
    match frames with
    | .array items :: frames => some (.array (d :: items) :: frames, .value)
    | .object members s :: frames => some (frames, .name ((s, d) :: members))
    | [] => none
  | .rest d, .closeArray =>
    match frames with
    | .array items :: frames => some (frames, .rest (.array (d :: items).reverse))
    | _ => none
  | .rest d, .closeObject =>
    match frames with
    | .object members s :: frames => some (frames, .rest (.object ((s, d) :: members).reverse))
    | _ => none
  | .rest _, _ => none

/-- All steps. A tree is complete when no collection is open. -/
def run (frames : List Frame) (expected : Expected) : List Token → Option Document
  | [] =>
    match frames, expected with
    | [], .rest d => some d
    | _, _ => none
  | t :: ts =>
    match step frames expected t with
    | none => none
    | some (frames, expected) => run frames expected ts

/-- The syntax tree of a text; none when the text is malformed. -/
def parse (text : String) : Option Document := (Token.scan text).bind (run [] .value)

/-- The depth up to which collections of a value may be nested. -/
def depthLimit : Nat := 127

mutual

/-- The value of a tree, at most `depth` collections deep: every number is in range, every text
denotes one, and of members of one name the last counts. -/
def value? (depth : Nat) : Document → Option Json
  | .null => some .null
  | .bool b => some (.bool b)
  | .number l => l.value?
  | .text s => s.map .str
  | .array items =>
    match depth with
    | 0 => none
    | depth + 1 => (values? depth items).map .array
  | .object members =>
    match depth with
    | 0 => none
    | depth + 1 => (memberValues? depth members).map .ofMembers

/-- The values of items. -/
def values? (depth : Nat) : List Document → Option (List Json)
  | [] => some []
  | d :: ds =>
    match value? depth d, values? depth ds with
    | some v, some vs => some (v :: vs)
    | _, _ => none

/-- The names and values of members. -/
def memberValues? (depth : Nat) : List (Option String × Document) → Option (List (String × Json))
  | [] => some []
  | (name, d) :: ms =>
    match name, value? depth d, memberValues? depth ms with
    | some name, some v, some vs => some ((name, v) :: vs)
    | _, _, _ => none

end

end Document

/-- The value of a JSON text. -/
def parse? (text : String) : Option Json :=
  (Document.parse text).bind (Document.value? Document.depthLimit)

end Json

end KeyedState

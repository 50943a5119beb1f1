import KeyedState.Json.Printer
import KeyedState.Text.Quoted
import KeyedState.Decimal.Integer

/-!
# Typed reading of JSON values

A `Decoder` turns a value into a typed one or says what is wrong with it. Records are read from
objects by name and from arrays by position (`Decoder.record`), variants from a name or from an
object with one member (`Decoder.variant`). The fields of an object are read in the order of its
members and the first failure counts; that a field is missing is noticed after all others.
-/

namespace KeyedState

/-- The kind of thing that was found. -/
inductive Found where
  /-- A truth value. -/
  | boolean (b : Bool)
  /-- An integer. -/
  | integer (n : Int)
  /-- A floating-point number. -/
  | real (x : Binary64)
  /-- A text. -/
  | text (s : String)
  /-- The null value. -/
  | null
  /-- An array. -/
  | sequence
  /-- An object. -/
  | map
  /-- A variant without payload. -/
  | unitVariant
deriving DecidableEq

namespace Found

/-- The kind of a value. -/
def ofJson : Json → Found
  | .null => .null
  | .bool b => .boolean b
  | .int n => .integer n
  | .real x => .real x
  | .str s => .text s
  | .array _ => .sequence
  | .object _ => .map

/-- The wording of what was found. -/
def message : Found → String
  | .boolean b => s!"boolean `{Json.writeBool b}`"
  | .integer n => s!"integer `{n}`"
  | .real x => s!"floating point `{x.render Json.numbers}`"
  | .text s => "string " ++ quoted s
  | .null => "null"
  | .sequence => "sequence"
  | .map => "map"
  | .unitVariant => "unit variant"

end Found

/-- Why a value cannot be read as a typed one. -/
inductive DecodeError where
  /-- The value is of another kind. -/
  | wrongType (found : Found) (expected : String)
  /-- The value is out of range. -/
  | wrongValue (found : Found) (expected : String)
  /-- An array has too few or too many items. -/
  | wrongLength (length : Nat) (expected : String)
  /-- A field without default is missing. -/
  | missingField (name : String)
  /-- A field is not one of the known ones. -/
  | unknownField (name : String) (known : List String)
  /-- A variant is not one of the known ones. -/
  | unknownVariant (name : String) (known : List String)
  /-- The nanoseconds of a duration carry its seconds out of range. -/
  | durationOverflow
  /-- A text is no integer. -/
  | invalidInteger (what text : String) (fault : IntegerFault)
  /-- An integer is out of range. -/
  | outOfRange (fault : IntegerFault)
  /-- A text is no truth value. -/
  | invalidBoolean (text : String)
  /-- A time to live is negative. -/
  | negativeTtl (seconds : Int)
  /-- A text is no list position. -/
  | invalidPosition (key : String) (fault : IntegerFault)
deriving DecidableEq

namespace DecodeError

/-- A name between backquotes. -/
def named (name : String) : String := s!"`{name}`"

/-- A choice of one of the names. -/
def oneOf : List String → String
  | [a, b] => named a ++ " or " ++ named b
  | [a] => named a
  | names => "one of " ++ ", ".intercalate (names.map named)

/-- The wording of the reason. -/
def message : DecodeError → String
  | .wrongType found expected => s!"invalid type: {found.message}, expected {expected}"
  | .wrongValue found expected => s!"invalid value: {found.message}, expected {expected}"
  | .wrongLength n expected => s!"invalid length {n}, expected {expected}"
  | .missingField name => "missing field " ++ named name
  | .unknownField name known => s!"unknown field {named name}, expected {oneOf known}"
  | .unknownVariant name known => s!"unknown variant {named name}, expected {oneOf known}"
  | .durationOverflow => "overflow deserializing Duration"
  | .invalidInteger what text fault => s!"invalid {what} '{text}': {fault.message}"
  | .outOfRange fault => fault.message
  | .invalidBoolean text => s!"invalid boolean '{text}'"
  | .negativeTtl seconds => s!"negative ttl {seconds}"
  | .invalidPosition key fault => s!"Invalid list index '{key}': {fault.message}"

end DecodeError

/-- A typed reading of values. -/
abbrev Decoder (α : Type) := Json → Except DecodeError α

namespace Decoder

/-- The failure that a value is of the wrong kind. -/
def wrong {α : Type} (v : Json) (expected : String) : Except DecodeError α :=
  .error (.wrongType (.ofJson v) expected)

/-- A text. -/
def string : Decoder String
  | .str s => .ok s
  | v => wrong v "a string"

/-- A truth value. -/
def boolean : Decoder Bool
  | .bool b => .ok b
  | v => wrong v "a boolean"

/-- An integer from zero up to below `bound`. -/
def unsigned (expected : String) (bound : Nat) : Decoder (Fin bound)
  | .int n =>
    if h : 0 ≤ n ∧ n.toNat < bound then .ok ⟨n.toNat, h.2⟩
    else .error (.wrongValue (.integer n) expected)
  | v => wrong v expected

/-- An unsigned 32-bit integer. -/
def u32 : Decoder U32 := unsigned "u32" 4294967296

/-- An unsigned 64-bit integer. -/
def u64 : Decoder U64 := unsigned "u64" 18446744073709551616

/-- An unsigned 64-bit integer that is a size. -/
def size : Decoder U64 := unsigned "usize" 18446744073709551616

/-- A value as it is. -/
def any : Decoder Json := .ok

/-- A value, or nothing for null. -/
def optional {α : Type} (read : Decoder α) : Decoder (Option α)
  | .null => .ok none
  | v => (read v).map some

/-- Reads items in order. -/
def items {α : Type} (read : Decoder α) : List Json → Except DecodeError (List α)
  | [] => .ok []
  | v :: vs => do
    let a ← read v
    return a :: (← items read vs)

/-- A list. -/
def list {α : Type} (read : Decoder α) : Decoder (List α)
  | .array vs => items read vs
  | v => wrong v "a sequence"

/-- Reads the values of members in order. -/
def memberValues {α : Type} (read : Decoder α) :
    List (String × Json) → Except DecodeError (List (String × α))
  | [] => .ok []
  | (name, v) :: ms => do
    let a ← read v
    return (name, a) :: (← memberValues read ms)

/-- A map. -/
def map {α : Type} (read : Decoder α) : Decoder (KeyMap α)
  | .object ms => (memberValues read ms).map KeyMap.ofList
  | v => wrong v "a map"

/-! ## Records -/

/-- A field of a record type: its name, whether it may be left out, and how its value is put into
a record. -/
structure Field (α : Type) where
  /-- The name of the member. -/
  name : String
  /-- Whether the field has no default. -/
  required : Bool
  /-- The record with the field set from a value. -/
  set : Json → α → Except DecodeError α

/-- A field set by a function, with a default. -/
def field {α β : Type} (name : String) (read : Decoder β) (set : β → α → α) : Field α :=
  ⟨name, false, fun v r => (read v).map (set · r)⟩

/-- A field set by a function, without a default. -/
def requiredField {α β : Type} (name : String) (read : Decoder β) (set : β → α → α) : Field α :=
  ⟨name, true, fun v r => (read v).map (set · r)⟩

/-- Sets the fields that members name, in the order of the members; other members are passed
over. -/
def setNamed {α : Type} (fields : List (Field α)) : List (String × Json) → α → Except DecodeError α
  | [], r => .ok r
  | (name, v) :: ms, r =>
    match fields.find? (·.name == name) with
    | none => setNamed fields ms r
    | some f => (f.set v r).bind (setNamed fields ms)

/-- The first field without default that no member names. -/
def missing? {α : Type} (fields : List (Field α)) (ms : List (String × Json)) : Option (Field α) :=
  fields.find? fun f => f.required && !(ms.any (·.1 == f.name))

/-- Sets the fields from items, in the order of the fields, after `index` items. -/
def setPositional {α : Type} (type : String) (count : Nat) (index : Nat) :
    List (Field α) → List Json → α → Except DecodeError α
  | [], vs, r =>
    if vs.isEmpty then .ok r
    else .error (.wrongLength (index + vs.length) "fewer elements in array")
  | f :: fs, [], r =>
    if f.required then .error (.wrongLength index (s!"struct {type} with {count} element" ++
      if count = 1 then "" else "s"))
    else setPositional type count (index + 1) fs [] r
  | f :: fs, v :: vs, r => (f.set v r).bind (setPositional type count (index + 1) fs vs)

/-- A record of a named type with the given fields in order of declaration. The record `initial`
holds the defaults. -/
def record {α : Type} (type : String) (fields : List (Field α)) (initial : α) : Decoder α
  | .object ms => do
    let r ← setNamed fields ms initial
    match missing? fields ms with
    | some f => .error (.missingField f.name)
    | none => return r
  | .array vs => setPositional type fields.length 0 fields vs initial
  | v => wrong v s!"struct {type}"

/-! ## Variants -/

/-- The name and the payload of one of the known variants. -/
def variant (known : List String) : Decoder (String × Option Json)
  | .str name =>
    if known.contains name then .ok (name, none) else .error (.unknownVariant name known)
  | .object [(name, v)] =>
    if known.contains name then .ok (name, some v) else .error (.unknownVariant name known)
  | .object _ => .error (.wrongValue .map "map with a single key")
  | v => wrong v "string or map"

/-- A variant without payload: none, or null. -/
def unitPayload : Option Json → Except DecodeError Unit
  | none => .ok ()
  | some .null => .ok ()
  | some v => wrong v "unit"

/-- The payload of a variant with one value. -/
def payload {α : Type} (read : Decoder α) : Option Json → Except DecodeError α
  | none => .error (.wrongType .unitVariant "newtype variant")
  | some v => read v

end Decoder

end KeyedState

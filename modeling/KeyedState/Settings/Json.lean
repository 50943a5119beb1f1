import KeyedState.Json.Decode
import KeyedState.Json.Document
import KeyedState.Settings.Basic

/-!
# Settings as JSON

Settings are written as a JSON value (`Settings.toJson`) and read from a value (`Settings.decode`)
or from a text (`Settings.ofText?`). A text is read as a document, so that what settings do not
name may be anything well formed; a name that they do name must not stand twice.
-/

namespace KeyedState

namespace LogSettings

/-- The value of the settings. -/
def toJson (s : LogSettings) : Json :=
  .object
    [("color", .bool s.color), ("format", .str s.format), ("level", .str s.level),
     ("modules", .ofMap .str s.modules)]

/-- The fields of the settings. -/
def fields : List (Decoder.Field LogSettings) :=
  [Decoder.field "level" Decoder.string fun v s => { s with level := v },
   Decoder.field "format" Decoder.string fun v s => { s with format := v },
   Decoder.field "color" Decoder.boolean fun v s => { s with color := v },
   Decoder.field "modules" (Decoder.map Decoder.string) fun v s => { s with modules := v }]

/-- Reads the settings from a value. -/
def decode : Decoder LogSettings := Decoder.record "LoggingConfig" fields {}

end LogSettings

namespace Settings

/-- The value of a number that may be missing. -/
def optionalToJson : Option U64 → Json
  | none => .null
  | some n => .int n.val

/-- The value of the settings. -/
def toJson (s : Settings) : Json :=
  .object
    [("default_ttl_ms", optionalToJson s.defaultTtlMillis), ("logging", s.logging.toJson),
     ("sweep_interval_ms", optionalToJson s.sweepIntervalMillis)]

/-- The fields of the settings. -/
def fields : List (Decoder.Field Settings) :=
  [Decoder.field "default_ttl_ms" (Decoder.optional Decoder.u64)
    fun v s => { s with defaultTtlMillis := v },
   Decoder.field "sweep_interval_ms" (Decoder.optional Decoder.u64)
    fun v s => { s with sweepIntervalMillis := v },
   Decoder.field "logging" LogSettings.decode fun v s => { s with logging := v }]

/-- Reads the settings from a value. -/
def decode : Decoder Settings := Decoder.record "StateConfig" fields {}

end Settings

/-! ## Texts -/

namespace Json.Document

/-- A field of a record that is read from a document. -/
structure Field (α : Type) where
  /-- The name of the member. -/
  name : String
  /-- The record with the field set from a document. -/
  set : Document → α → Option α

/-- Sets the fields that members name. Each name stands at most once among those of fields, and
every name must be a text. -/
def setNamed {α : Type} (fields : List (Field α)) (seen : List String) :
    List (Option String × Document) → α → Option α
  | [], r => some r
  | (none, _) :: _, _ => none
  | (some name, d) :: ms, r =>
    match fields.find? (·.name == name) with
    | none => setNamed fields seen ms r
    | some f =>
      if seen.contains name then none
      else (f.set d r).bind (setNamed fields (name :: seen) ms)

/-- Sets the fields from items, in the order of the fields; fields without an item keep their
values. -/
def setPositional {α : Type} : List (Field α) → List Document → α → Option α
  | _, [], r => some r
  | [], _ :: _, _ => none
  | f :: fs, d :: ds, r => (f.set d r).bind (setPositional fs ds)

/-- Reads a record all of whose fields have defaults. -/
def record {α : Type} (fields : List (Field α)) (initial : α) : Document → Option α
  | .object ms => setNamed fields [] ms initial
  | .array ds => setPositional fields ds initial
  | _ => none

/-- An unsigned 64-bit integer, or nothing for null. -/
def optionalU64 : Document → Option (Option U64)
  | .null => some none
  | .number l => (l.integer?.bind U64.ofInt?).map some
  | _ => none

/-- A text. -/
def text? : Document → Option String
  | .text s => s
  | _ => none

/-- A truth value. -/
def bool? : Document → Option Bool
  | .bool b => some b
  | _ => none

/-- The texts of members. -/
def textMembers? : List (Option String × Document) → Option (List (String × String))
  | [] => some []
  | (name, d) :: ms =>
    match name, text? d, textMembers? ms with
    | some name, some s, some rest => some ((name, s) :: rest)
    | _, _, _ => none

/-- A map of texts. The last text of a name counts. -/
def texts? : Document → Option (KeyMap String)
  | .object ms => (textMembers? ms).map KeyMap.ofList
  | _ => none

end Json.Document

open Json (Document)

/-- The fields of log settings in a document. -/
def LogSettings.documentFields : List (Document.Field LogSettings) :=
  [⟨"level", fun d s => d.text?.map fun v => { s with level := v }⟩,
   ⟨"format", fun d s => d.text?.map fun v => { s with format := v }⟩,
   ⟨"color", fun d s => d.bool?.map fun v => { s with color := v }⟩,
   ⟨"modules", fun d s => d.texts?.map fun v => { s with modules := v }⟩]

/-- The fields of settings in a document. -/
def Settings.documentFields : List (Document.Field Settings) :=
  [⟨"default_ttl_ms", fun d s => d.optionalU64.map fun v => { s with defaultTtlMillis := v }⟩,
   ⟨"sweep_interval_ms", fun d s => d.optionalU64.map fun v => { s with sweepIntervalMillis := v }⟩,
   ⟨"logging", fun d s =>
      (Document.record LogSettings.documentFields {} d).map fun v => { s with logging := v }⟩]

/-- Reads the settings from a JSON text. -/
def Settings.ofText? (text : String) : Option Settings :=
  (Document.parse text).bind (Document.record documentFields {})

end KeyedState

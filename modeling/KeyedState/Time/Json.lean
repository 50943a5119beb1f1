import KeyedState.Json.Decode
import KeyedState.Time.Instant

/-!
# Durations and instants as JSON values

Both are objects with whole seconds `secs` and the nanoseconds `nanos` beyond them. On reading a
duration, nanoseconds of a whole second or more count towards the seconds.
-/

namespace KeyedState

/-- The value of a duration. -/
def Duration.toJson (d : Duration) : Json :=
  .object [("nanos", .int d.subsecond), ("secs", .int d.seconds)]

/-- The value of an instant. -/
def Instant.toJson (i : Instant) : Json :=
  .object [("nanos", .int i.nanos), ("secs", .int i.second)]

namespace Duration

/-- The names of the fields. -/
def fieldNames : List String := ["secs", "nanos"]

/-- The seconds and nanoseconds, as far as they are known. -/
structure Parts where
  /-- The whole seconds. -/
  seconds : U64 := .zero
  /-- The nanoseconds. -/
  nanos : U32 := ⟨0, by decide⟩

/-- The fields of a duration. -/
def fields : List (Decoder.Field Parts) :=
  [Decoder.requiredField "secs" Decoder.u64 fun n p => { p with seconds := n },
   Decoder.requiredField "nanos" Decoder.u32 fun n p => { p with nanos := n }]

/-- Reads members in order; a name that is no field is a failure. -/
def readMembers (p : Parts) : List (String × Json) → Except DecodeError Parts
  | [] => .ok p
  | (name, v) :: ms =>
    match fields.find? (·.name == name) with
    | none => .error (.unknownField name fieldNames)
    | some f => (f.set v p).bind fun p => readMembers p ms

/-- The duration of the parts. -/
def ofParts (p : Parts) : Except DecodeError Duration :=
  match of? p.seconds p.nanos with
  | some d => .ok d
  | none => .error .durationOverflow

/-- Reads a duration. -/
def decode : Decoder Duration
  | .object ms => do
    let p ← readMembers {} ms
    match Decoder.missing? fields ms with
    | some f => .error (.missingField f.name)
    | none => ofParts p
  | .array vs =>
    match vs with
    | [] => .error (.wrongLength 0 "struct Duration")
    | [s] => do
      let _ ← Decoder.u64 s
      .error (.wrongLength 1 "struct Duration")
    | s :: n :: rest => do
      let seconds ← Decoder.u64 s
      let nanos ← Decoder.u32 n
      let d ← ofParts ⟨seconds, nanos⟩
      if rest.isEmpty then return d
      else .error (.wrongLength vs.length "fewer elements in array")
  | v => Decoder.wrong v "struct Duration"

end Duration

end KeyedState

import KeyedState.Json.Decode
import KeyedState.Matching.Position
import KeyedState.Text.Blank
import KeyedState.Error

/-!
# Conditions on a context

`ContextConditions` holds what a match asks of a context that exists: patterns for properties and
rows, properties that are there or not, and bounds for the two counts. Rendering turns numbers
into texts, so a count is read from either.
-/

namespace KeyedState

/-- Field names and descriptions of patterns. -/
abbrev PatternConfig := KeyMap Json

/-- Conditions on rows, by position. -/
abbrev ListConditions := PositionMap PatternConfig

/-- The conditions on a context that exists. -/
structure ContextConditions where
  /-- The template of the id. -/
  hasContext : String
  /-- A property that must exist. -/
  hasProperty : Option String := none
  /-- A property that must not exist. -/
  hasNotProperty : Option String := none
  /-- The patterns of properties. -/
  property : Option PatternConfig := none
  /-- The patterns of rows. -/
  list : Option ListConditions := none
  /-- What the count of updates must equal. -/
  updateCountEqualTo : Option Int := none
  /-- What the count of updates must be less than. -/
  updateCountLessThan : Option Int := none
  /-- What the count of updates must be more than. -/
  updateCountMoreThan : Option Int := none
  /-- What the number of rows must equal. -/
  listSizeEqualTo : Option Int := none
  /-- What the number of rows must be less than. -/
  listSizeLessThan : Option Int := none
  /-- What the number of rows must be more than. -/
  listSizeMoreThan : Option Int := none

namespace ContextConditions

/-- Reads a count: an integer of 64 bits, or a text of one with blanks around it. -/
def decodeCount : Decoder (Option Int)
  | .null => .ok none
  | .int n =>
    if n < -(maxI64 + 1 : Int) then .error (.outOfRange .tooSmall)
    else if n ≤ maxI64 then .ok (some n)
    else .error (.outOfRange .tooLarge)
  | .str s =>
    match readI64 (trimBlank s) with
    | .ok n => .ok (some n)
    | .error fault => .error (.invalidInteger "integer" s fault)
  | v => Decoder.wrong v "an integer or a string holding one"

/-- Reads field names and descriptions of patterns. -/
def decodePatterns : Decoder PatternConfig := Decoder.map Decoder.any

/-- The conditions by position of conditions by key, taken in order. Keys of one position are not
joined: the later one counts. -/
def byPosition (conditions : ListConditions) :
    List (String × PatternConfig) → Except DecodeError ListConditions
  | [] => .ok conditions
  | (key, c) :: es =>
    match ListPosition.parse key with
    | .error fault => .error (.invalidPosition key fault)
    | .ok p => byPosition (conditions.insert p c) es

/-- Reads conditions on rows. All descriptions are read before the first position. -/
def decodeList : Decoder ListConditions := fun v => do
  let m ← Decoder.map decodePatterns v
  byPosition [] m.toList

/-- The fields of the conditions. -/
def fields : List (Decoder.Field ContextConditions) :=
  [Decoder.requiredField "hasContext" Decoder.string fun v c => { c with hasContext := v },
   Decoder.field "hasProperty" (Decoder.optional Decoder.string)
    fun v c => { c with hasProperty := v },
   Decoder.field "hasNotProperty" (Decoder.optional Decoder.string)
    fun v c => { c with hasNotProperty := v },
   Decoder.field "property" (Decoder.optional decodePatterns) fun v c => { c with property := v },
   Decoder.field "list" (Decoder.optional decodeList) fun v c => { c with list := v },
   Decoder.field "updateCountEqualTo" decodeCount fun v c => { c with updateCountEqualTo := v },
   Decoder.field "updateCountLessThan" decodeCount fun v c => { c with updateCountLessThan := v },
   Decoder.field "updateCountMoreThan" decodeCount fun v c => { c with updateCountMoreThan := v },
   Decoder.field "listSizeEqualTo" decodeCount fun v c => { c with listSizeEqualTo := v },
   Decoder.field "listSizeLessThan" decodeCount fun v c => { c with listSizeLessThan := v },
   Decoder.field "listSizeMoreThan" decodeCount fun v c => { c with listSizeMoreThan := v }]

/-- Reads conditions. -/
def decode : Decoder ContextConditions :=
  Decoder.record "ContextConditions" fields { hasContext := "" }

/-- Reads the conditions of parameters. Unknown members are passed over. -/
def ofJson (parameters : Json) : Except ConfigurationError ContextConditions :=
  (decode parameters).mapError fun e => .invalidParameters e.message

end ContextConditions

end KeyedState

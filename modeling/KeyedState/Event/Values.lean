import KeyedState.Json.Decode
import KeyedState.Template.Path
import KeyedState.Text.Search

/-!
# Values in the parameters of events

The parameters of an event hold templates. Here is how scalars become templates, how maps of
templates are rendered, and how truth values and numbers of seconds are read from a value or from
its text.
-/

namespace KeyedState

namespace Event

/-- The template of a scalar parameter. -/
def leafText (name : String) (v : Json) : Except ConfigurationError String :=
  match v.scalarText? with
  | some text => .ok text
  | none => .error (.invalidParameters s!"'{name}' must be a string, got {v.compact}")

/-- Renders the values of members in order. Names are taken as they are. -/
def renderValues (f : String → Except StateError String) :
    List (String × Json) → Except StateError (List (String × String))
  | [] => .ok []
  | (name, v) :: ms => do
    let template ← (leafText name v).mapError .configuration
    let text ← f template
    return (name, text) :: (← renderValues f ms)

/-- Reads a truth value, which may be spelled as a text; null counts as false. -/
def decodeFlag : Decoder Bool
  | .null => .ok false
  | .bool b => .ok b
  | .str s =>
    match spelledBool? (trimBlank s) with
    | some b => .ok b
    | none => .error (.invalidBoolean s)
  | v => Decoder.wrong v "a boolean or \"true\"/\"false\""

/-- Reads a number of seconds, which may be a text. -/
def decodeSeconds : Decoder (Option U64)
  | .null => .ok none
  | .int n =>
    match U64.ofInt? n with
    | some n => .ok (some n)
    | none => .error (.negativeTtl n)
  | .str s =>
    match readU64 (trimBlank s) with
    | .ok n => .ok (some n)
    | .error fault => .error (.invalidInteger "ttl" s fault)
  | v => Decoder.wrong v "a non-negative number of seconds"

/-- Reads parameters. -/
def parse {α : Type} (read : Decoder α) (parameters : Json) : Except ConfigurationError α :=
  (read parameters).mapError fun e => .invalidParameters e.message

end Event

end KeyedState

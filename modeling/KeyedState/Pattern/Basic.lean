import KeyedState.Json.Printer
import KeyedState.Regex.Pattern
import KeyedState.Text.Search
import KeyedState.Unicode.LowerCase

/-!
# Patterns for values

A `Pattern` tests a value that may be missing. It is described by a JSON object with one operator
and its operand; `Pattern.ofJson` reads the description and `Pattern.matches` applies the pattern.
A missing value satisfies no pattern but that it is absent.
-/

namespace KeyedState

/-- A test of a value that may be missing. -/
abbrev Matcher := Option String → Bool

/-- A reading of descriptions of matchers. -/
abbrev PatternParser := Json → Except ConfigurationError Matcher

/-- The operators of descriptions. -/
inductive Operator where
  /-- Equality with the operand. -/
  | equalTo
  /-- The operand occurs. -/
  | contains
  /-- The operand does not occur. -/
  | doesNotContain
  /-- The operand, a regular expression, matches the whole value. -/
  | matches
  /-- The operand, a regular expression, does not match the whole value. -/
  | doesNotMatch
  /-- The value is missing, or is not. -/
  | absent
deriving DecidableEq

namespace Operator

/-- The name of an operator. -/
def name : Operator → String
  | .equalTo => "equalTo"
  | .contains => "contains"
  | .doesNotContain => "doesNotContain"
  | .matches => "matches"
  | .doesNotMatch => "doesNotMatch"
  | .absent => "absent"

/-- Every operator. -/
def all : List Operator := [.equalTo, .contains, .doesNotContain, .matches, .doesNotMatch, .absent]

/-- The operator of a name. -/
def named? (name : String) : Option Operator := all.find? fun o => o.name == name

end Operator

/-- A pattern. -/
inductive Pattern where
  /-- The value is the expected text, up to case if case is ignored. -/
  | equalTo (expected : String) (ignoreCase : Bool)
  /-- The text occurs in the value. -/
  | contains (text : String)
  /-- The text does not occur in the value. -/
  | doesNotContain (text : String)
  /-- The value matches as a whole. -/
  | matches (regex : WholePattern)
  /-- The value does not match as a whole. -/
  | doesNotMatch (regex : WholePattern)
  /-- The value is missing, or is not. -/
  | absent (expected : Bool)
deriving DecidableEq

namespace Pattern

/-- Whether a value satisfies the pattern. -/
def test : Pattern → Matcher
  | .absent expected, value => expected == value.isNone
  | _, none => false
  | .equalTo expected ignoreCase, some value =>
    if ignoreCase then lowerCase expected == lowerCase value else expected == value
  | .contains text, some value => hasPart text value
  | .doesNotContain text, some value => !hasPart text value
  | .matches regex, some value => regex.accepts value
  | .doesNotMatch regex, some value => !regex.accepts value

/-- Whether two patterns are the same test. Regular expressions are compared by their texts. -/
def same : Pattern → Pattern → Bool
  | .equalTo a i, .equalTo b j => a == b && i == j
  | .contains a, .contains b => a == b
  | .doesNotContain a, .doesNotContain b => a == b
  | .matches a, .matches b => a.text == b.text
  | .doesNotMatch a, .doesNotMatch b => a.text == b.text
  | .absent a, .absent b => a == b
  | _, _ => false

/-- The pattern for a whole value that matches a regular expression. -/
def matching (pattern : String) : Except ConfigurationError Pattern :=
  (WholePattern.compile pattern).map .matches

/-! ## Descriptions -/

/-- The key that says whether case is ignored. -/
def caseInsensitive : String := "caseInsensitive"

/-- The text of an operand. -/
def operandText (operator : String) (operand : Json) : Except ConfigurationError String :=
  match operand.scalarText? with
  | some text => .ok text
  | none => .error (.invalidPattern s!"'{operator}' needs a string, got {operand.compact}")

/-- The truth value of an operand, which may be spelled as a text. -/
def operandFlag (name : String) (operand : Json) : Except ConfigurationError Bool :=
  let invalid := ConfigurationError.invalidPattern
    s!"'{name}' needs a boolean, got {operand.compact}"
  match operand with
  | .bool b => .ok b
  | .str s =>
    match spelledBool? s with
    | some b => .ok b
    | none => .error invalid
  | _ => .error invalid

/-- Whether case is ignored, as the members of a description have it. -/
def ignoresCase (members : List (String × Json)) : Except ConfigurationError Bool :=
  match Entries.get? caseInsensitive members with
  | none => .ok false
  | some v => operandFlag caseInsensitive v

/-- The pattern of an operator and its operand; the members say whether case is ignored. -/
def ofOperator (members : List (String × Json)) (o : Operator) (operand : Json) :
    Except ConfigurationError Pattern :=
  match o with
  | .equalTo => do
    let expected ← operandText o.name operand
    return .equalTo expected (← ignoresCase members)
  | .contains => (operandText o.name operand).map .contains
  | .doesNotContain => (operandText o.name operand).map .doesNotContain
  | .matches => do return .matches (← WholePattern.compile (← operandText o.name operand))
  | .doesNotMatch => do return .doesNotMatch (← WholePattern.compile (← operandText o.name operand))
  | .absent => (operandFlag o.name operand).map .absent

/-- The operators among the members of a description, with their operands. -/
def operators (members : List (String × Json)) : List (Operator × Json) :=
  members.filterMap fun (name, v) => (Operator.named? name).map (·, v)

/-- Reads the description of a pattern: an object with exactly one operator and, beside equality,
whether case is ignored. -/
def ofJson (description : Json) : Except ConfigurationError Pattern :=
  match description with
  | .object members =>
    match operators members with
    | [] => .error (.invalidPattern s!"no known operator in {description.compact}")
    | (a, _) :: (b, _) :: _ =>
      .error (.invalidPattern s!"more than one operator: '{a.name}' and '{b.name}'")
    | [(o, operand)] =>
      match members.find? fun m => (Operator.named? m.1).isNone && m.1 != caseInsensitive with
      | some (unknown, _) => .error (.invalidPattern s!"unknown key '{unknown}'")
      | none =>
        if o ≠ .equalTo ∧ (Entries.get? caseInsensitive members).isSome then
          .error (.invalidPattern
            s!"'{caseInsensitive}' only applies to 'equalTo', not '{o.name}'")
        else ofOperator members o operand
  | _ => .error (.invalidPattern s!"expected an object, got {description.compact}")

/-- The reading of descriptions as patterns. -/
def parser : PatternParser := fun description => (ofJson description).map test

end Pattern

end KeyedState

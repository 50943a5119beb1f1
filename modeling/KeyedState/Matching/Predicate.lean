import KeyedState.Context.Basic
import KeyedState.Matching.Conditions
import KeyedState.Pattern.Basic

/-!
# Predicates on contexts

`ConditionKind.all` lists the kinds of conditions in the order in which they are evaluated. Each
kind extracts its predicate from the conditions that configure it, and a `PredicateSet` holds when
all its predicates do.
-/

namespace KeyedState

/-- A comparison of counts. -/
inductive Comparison where
  /-- The count equals the bound. -/
  | equalTo
  /-- The count is less than the bound. -/
  | lessThan
  /-- The count is more than the bound. -/
  | moreThan
deriving DecidableEq

/-- Whether the comparison holds, as one of integers. -/
def Comparison.holds (actual : Nat) (expected : Int) : Comparison → Bool
  | .equalTo => (actual : Int) == expected
  | .lessThan => (actual : Int) < expected
  | .moreThan => expected < (actual : Int)

/-- Matchers of fields, all of which must hold of one map of texts. -/
abbrev FieldPatterns := List (String × Matcher)

namespace FieldPatterns

/-- Reads the descriptions of patterns in the order of their fields. -/
def ofEntries (parser : PatternParser) :
    List (String × Json) → Except ConfigurationError FieldPatterns
  | [] => .ok []
  | (field, description) :: es => do
    let m ← parser description
    return (field, m) :: (← ofEntries parser es)

/-- Reads the descriptions of patterns in the order of their fields. -/
def ofConfig (parser : PatternParser) (config : PatternConfig) :
    Except ConfigurationError FieldPatterns :=
  ofEntries parser config.toList

/-- Whether every field has a value, or lacks one, as its matcher wants. -/
def hold (fields : KeyMap String) (patterns : FieldPatterns) : Bool :=
  patterns.all fun (field, m) => m (fields.get? field)

end FieldPatterns

/-- A condition that can be evaluated. -/
inductive Predicate where
  /-- The properties match. -/
  | property (patterns : FieldPatterns)
  /-- The rows at the positions exist and match. -/
  | list (rows : List (ListPosition × FieldPatterns))
  /-- The property exists. -/
  | hasProperty (name : String)
  /-- The property does not exist. -/
  | hasNotProperty (name : String)
  /-- The count of updates compares so with a bound. -/
  | updateCount (comparison : Comparison) (expected : Int)
  /-- The number of rows compares so with a bound. -/
  | listSize (comparison : Comparison) (expected : Int)

namespace Predicate

/-- Whether the row at a position exists and matches. -/
def rowHolds (rows : List Row) (position : ListPosition) (patterns : FieldPatterns) : Bool :=
  match (position.resolve rows.length).bind (rows[·]?) with
  | none => false
  | some row => patterns.hold row

/-- Whether the predicate holds of a context. -/
def evaluate (c : Context) : Predicate → Bool
  | .property patterns => patterns.hold c.properties
  | .list rows => rows.all fun (position, patterns) => rowHolds c.rows position patterns
  | .hasProperty name => (c.property name).isSome
  | .hasNotProperty name => (c.property name).isNone
  | .updateCount comparison expected => comparison.holds c.updateCount.val expected
  | .listSize comparison expected => comparison.holds c.rows.length expected

/-- Reads the conditions on rows in the order of positions. -/
def ofRows (parser : PatternParser) :
    ListConditions → Except ConfigurationError (List (ListPosition × FieldPatterns))
  | [] => .ok []
  | (position, config) :: es => do
    let patterns ← FieldPatterns.ofConfig parser config
    return (position, patterns) :: (← ofRows parser es)

end Predicate

/-- The kinds of conditions. -/
inductive ConditionKind where
  /-- Patterns of properties. -/
  | property
  /-- Patterns of rows. -/
  | list
  /-- A property that exists. -/
  | hasProperty
  /-- A property that does not exist. -/
  | hasNotProperty
  /-- The count of updates equals a bound. -/
  | updateCountEqualTo
  /-- The count of updates is less than a bound. -/
  | updateCountLessThan
  /-- The count of updates is more than a bound. -/
  | updateCountMoreThan
  /-- The number of rows equals a bound. -/
  | listSizeEqualTo
  /-- The number of rows is less than a bound. -/
  | listSizeLessThan
  /-- The number of rows is more than a bound. -/
  | listSizeMoreThan
deriving DecidableEq

namespace ConditionKind

/-- Every kind, in the order of evaluation. -/
def all : List ConditionKind :=
  [.property, .list, .hasProperty, .hasNotProperty, .updateCountEqualTo, .updateCountLessThan,
   .updateCountMoreThan, .listSizeEqualTo, .listSizeLessThan, .listSizeMoreThan]

/-- The name of a kind among the parameters. -/
def name : ConditionKind → String
  | .property => "property"
  | .list => "list"
  | .hasProperty => "hasProperty"
  | .hasNotProperty => "hasNotProperty"
  | .updateCountEqualTo => "updateCountEqualTo"
  | .updateCountLessThan => "updateCountLessThan"
  | .updateCountMoreThan => "updateCountMoreThan"
  | .listSizeEqualTo => "listSizeEqualTo"
  | .listSizeLessThan => "listSizeLessThan"
  | .listSizeMoreThan => "listSizeMoreThan"

/-- The predicate of a kind, if the conditions configure it. -/
def extract (parser : PatternParser) (c : ContextConditions) :
    ConditionKind → Except ConfigurationError (Option Predicate)
  | .property =>
    match c.property with
    | none => .ok none
    | some config => (FieldPatterns.ofConfig parser config).map (some ∘ .property)
  | .list =>
    match c.list with
    | none => .ok none
    | some conditions => (Predicate.ofRows parser conditions).map (some ∘ .list)
  | .hasProperty => .ok (c.hasProperty.map .hasProperty)
  | .hasNotProperty => .ok (c.hasNotProperty.map .hasNotProperty)
  | .updateCountEqualTo => .ok (c.updateCountEqualTo.map (.updateCount .equalTo))
  | .updateCountLessThan => .ok (c.updateCountLessThan.map (.updateCount .lessThan))
  | .updateCountMoreThan => .ok (c.updateCountMoreThan.map (.updateCount .moreThan))
  | .listSizeEqualTo => .ok (c.listSizeEqualTo.map (.listSize .equalTo))
  | .listSizeLessThan => .ok (c.listSizeLessThan.map (.listSize .lessThan))
  | .listSizeMoreThan => .ok (c.listSizeMoreThan.map (.listSize .moreThan))

end ConditionKind

/-- The predicates of a match, each with its kind, in the order of evaluation. -/
abbrev PredicateSet := List (ConditionKind × Predicate)

namespace PredicateSet

/-- The predicates of the given kinds, in order. -/
def collect (parser : PatternParser) (c : ContextConditions) :
    List ConditionKind → Except ConfigurationError PredicateSet
  | [] => .ok []
  | kind :: kinds => do
    let p ← kind.extract parser c
    let ps ← collect parser c kinds
    return match p with
      | none => ps
      | some p => (kind, p) :: ps

/-- The predicates that the conditions configure. -/
def ofConditions (parser : PatternParser) (c : ContextConditions) :
    Except ConfigurationError PredicateSet :=
  collect parser c ConditionKind.all

/-- The configured kinds. -/
def kinds (ps : PredicateSet) : List ConditionKind := ps.map (·.1)

/-- Whether every predicate holds of a context. -/
def evaluate (ps : PredicateSet) (c : Context) : Bool := ps.all fun p => p.2.evaluate c

end PredicateSet

end KeyedState

import KeyedState.Matching.Parameters
import KeyedState.Matching.Predicate
import KeyedState.Store.Operations
import KeyedState.Template.Node

/-!
# Matching requests

A match renders the id of a context with the request and reads the context once. For a context
that must exist, all parameters are then rendered with the request and the context, and the
conditions that result are evaluated on what was read.
-/

namespace KeyedState

/-- How contexts are matched: how templates are rendered and how patterns are read. -/
structure StateMatcher where
  /-- The renderer of templates. -/
  render : Renderer := Template.render
  /-- The reading of patterns. -/
  parser : PatternParser := Pattern.parser

namespace StateMatcher

/-- What templates see of a request. -/
def requestModel (request : Json) : Json := .object [("request", request)]

/-- What templates see of a request and a context. -/
def contextModel (request : Json) (c : Context) : Json :=
  .object [("context", c.templateModel), ("request", request)]

/-- Whether the conditions among the parameters hold of a context. -/
def conditionsHold (m : StateMatcher) (request parameters : Json) (c : Context) :
    Except StateError Bool := do
  let rendered ← renderJson m.render (contextModel request c) parameters
  let conditions ← (ContextConditions.ofJson rendered).mapError .configuration
  let predicates ← (PredicateSet.ofConditions m.parser conditions).mapError .configuration
  return predicates.evaluate c

/-- Whether a request matches. -/
def matchRequest (m : StateMatcher) (request parameters : Json) : Call Bool := do
  match ← Call.check (MatchQuestion.ofJson parameters) with
  | .hasNotContext template => do
    let id ← Call.lift (m.render (requestModel request) template)
    return !(← ContextStore.has id)
  | .hasContext template => do
    let id ← Call.lift (m.render (requestModel request) template)
    match ← ContextStore.get id with
    | none => return false
    | some c => Call.lift (m.conditionsHold request parameters c)

end StateMatcher

end KeyedState

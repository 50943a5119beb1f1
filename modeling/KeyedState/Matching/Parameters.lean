import KeyedState.Error
import KeyedState.Json.Printer

/-!
# Parameters of a match

Parameters ask for a context that exists or for one that does not. As they are written, only that
question and the template of the id are read; all other members may still hold templates.
-/

namespace KeyedState

/-- What a match asks for, with the template of the id of a context. -/
inductive MatchQuestion where
  /-- The context exists and satisfies the conditions. -/
  | hasContext (template : String)
  /-- The context does not exist. -/
  | hasNotContext (template : String)
deriving DecidableEq

namespace MatchQuestion

/-- The failure that not exactly one question is asked. -/
def onlyOne : ConfigurationError :=
  .invalidParameters "Parameters should only contain 'hasContext' or 'hasNotContext'"

/-- The template of an id, which must be a text. -/
def idTemplate (name : String) (v : Json) : Except ConfigurationError String :=
  match v with
  | .str s => .ok s
  | _ => .error (.invalidParameters s!"'{name}' must be a string, got {v.compact}")

/-- Reads the question that parameters ask. -/
def ofJson : Json → Except ConfigurationError MatchQuestion
  | .object members =>
    match Entries.get? "hasContext" members, Entries.get? "hasNotContext" members with
    | some id, none => (idTemplate "hasContext" id).map .hasContext
    | none, some id => (idTemplate "hasNotContext" id).map .hasNotContext
    | _, _ => .error onlyOne
  | _ => .error onlyOne

end MatchQuestion

end KeyedState

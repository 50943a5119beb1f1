import KeyedState.Time.Duration

/-!
# Errors

A call fails because its configuration is malformed, because the storage fails, or because a
renderer does. The wording of each cause is in its `message`, and `StateError.errorClass` and
`StateError.isRetryable` say what a caller can do about it.
-/

namespace KeyedState

/-- A malformed or contradictory configuration. -/
inductive ConfigurationError where
  /-- A context id without characters. -/
  | emptyContextId
  /-- A text that is no list index. -/
  | invalidListIndex (value reason : String)
  /-- A malformed pattern descriptor. -/
  | invalidPattern (reason : String)
  /-- A malformed regular expression. -/
  | invalidRegex (pattern reason : String)
  /-- A time to live whose end is no instant. -/
  | invalidTtl (ttl : Duration) (reason : String)
  /-- Malformed parameters. -/
  | invalidParameters (reason : String)
  /-- A template that cannot be rendered. -/
  | template (text reason : String)
  /-- Malformed settings. -/
  | invalidConfig (reason : String)
deriving DecidableEq

/-- The wording of a configuration error. -/
def ConfigurationError.message : ConfigurationError → String
  | .emptyContextId => "Context id cannot be empty"
  | .invalidListIndex value reason => s!"Invalid list index '{value}': {reason}"
  | .invalidPattern reason => s!"Cannot create pattern matcher: {reason}"
  | .invalidRegex pattern reason => s!"Invalid regex '{pattern}': {reason}"
  | .invalidTtl ttl reason => s!"Invalid ttl {ttl.text}: {reason}"
  | .invalidParameters reason => s!"Invalid parameters: {reason}"
  | .template text reason => s!"Cannot render template '{text}': {reason}"
  | .invalidConfig reason => s!"Invalid configuration: {reason}"

/-- A failure of the storage. -/
inductive StorageError where
  /-- The storage does not answer at the moment. -/
  | unavailable (reason : String)
  /-- The storage cannot do what is asked. -/
  | backend (reason : String)
deriving DecidableEq

/-- The wording of a storage failure. -/
def StorageError.message : StorageError → String
  | .unavailable reason => s!"Storage backend unavailable: {reason}"
  | .backend reason => s!"Storage backend error: {reason}"

/-- The failure of a call. -/
inductive StateError where
  /-- The configuration is malformed. -/
  | configuration (cause : ConfigurationError)
  /-- The storage failed. -/
  | storage (cause : StorageError)
  /-- Anything else, such as the failure of a renderer. -/
  | internal (message : String)
deriving DecidableEq

/-- The classes of failures. -/
inductive ErrorClass where
  /-- A malformed configuration. -/
  | configuration
  /-- A failing storage. -/
  | storage
  /-- Anything else. -/
  | internal
deriving DecidableEq

namespace StateError

/-- The wording of a failure. -/
def message : StateError → String
  | .configuration cause => "Configuration error: " ++ cause.message
  | .storage cause => "Storage unavailable: " ++ cause.message
  | .internal message => "Internal error: " ++ message

/-- The class of a failure. -/
def errorClass : StateError → ErrorClass
  | .configuration _ => .configuration
  | .storage _ => .storage
  | .internal _ => .internal

/-- Whether the same call may succeed later. -/
def isRetryable : StateError → Bool
  | .storage (.unavailable _) => true
  | _ => false

end StateError

end KeyedState

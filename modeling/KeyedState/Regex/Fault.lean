/-!
# Faults of patterns

Why a text is no pattern.
-/

namespace KeyedState.Regex

/-- Why a text is no pattern. -/
inductive Fault where
  /-- A group or class is not closed. -/
  | unclosed
  /-- A closing parenthesis has no opening one. -/
  | unopenedGroup
  /-- A repetition has nothing to repeat. -/
  | nothingToRepeat
  /-- The bounds of a repetition are malformed or contradictory. -/
  | invalidRepetition
  /-- Flags of a group are unknown, repeated, empty or cut off. -/
  | invalidFlags
  /-- A group looks around, which is not supported. -/
  | lookAround
  /-- The name of a group is malformed or given twice. -/
  | invalidGroupName
  /-- An escape is unknown or cut off. -/
  | invalidEscape
  /-- A class holds something that is no set of characters, or a range that ends before it
  starts. -/
  | invalidClass
  /-- A Unicode property or value is unknown. -/
  | unknownProperty
  /-- Something that needs Unicode is used where Unicode is switched off. -/
  | unicodeNotAllowed
  /-- The pattern is nested too deeply. -/
  | nestedTooDeeply
  /-- The pattern is too large. -/
  | tooLarge
deriving DecidableEq

/-- The wording of a fault. -/
def Fault.message : Fault → String
  | .unclosed => "group or class is not closed"
  | .unopenedGroup => "closing parenthesis without an opening one"
  | .nothingToRepeat => "repetition of nothing"
  | .invalidRepetition => "invalid bounds of a repetition"
  | .invalidFlags => "invalid flags"
  | .lookAround => "look-around is not supported"
  | .invalidGroupName => "invalid group name"
  | .invalidEscape => "invalid escape"
  | .invalidClass => "invalid character class"
  | .unknownProperty => "unknown Unicode property"
  | .unicodeNotAllowed => "Unicode is not allowed here"
  | .nestedTooDeeply => "pattern is nested too deeply"
  | .tooLarge => "compiled pattern is too large"

end KeyedState.Regex

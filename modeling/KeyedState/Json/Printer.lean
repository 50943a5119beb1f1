import KeyedState.Json.Basic

/-!
# Compact JSON text

`Json.compact` writes a value without spaces, members in the order of the value. Texts escape the
quote, the backslash and the control characters below the space; all else stands for itself.
-/

namespace KeyedState

namespace Json

/-- A lower-case hexadecimal digit. -/
def hexDigit (n : Nat) : Char := if n < 10 then Char.ofNat (48 + n) else Char.ofNat (87 + n)

/-- The written form of one character of a text. -/
def escapeChar (c : Char) : List Char :=
  if c = '"' then ['\\', '"']
  else if c = '\\' then ['\\', '\\']
  else if c = '\n' then ['\\', 'n']
  else if c = '\r' then ['\\', 'r']
  else if c = '\t' then ['\\', 't']
  else if c.toNat = 8 then ['\\', 'b']
  else if c.toNat = 12 then ['\\', 'f']
  else if c.toNat < 32 then
    ['\\', 'u', '0', '0', hexDigit (c.toNat / 16), hexDigit (c.toNat % 16)]
  else [c]

/-- A text in quotes. -/
def writeText (s : String) : String :=
  "\"" ++ String.ofList (s.toList.flatMap escapeChar) ++ "\""

/-- A truth value. -/
def writeBool (b : Bool) : String := if b then "true" else "false"

mutual

/-- The compact text of a value. -/
def compact : Json → String
  | .null => "null"
  | .bool b => writeBool b
  | .int n => toString n
  | .real x => x.render numbers
  | .str s => writeText s
  | .array items => "[" ++ compactItems items ++ "]"
  | .object members => "\x7b" ++ compactMembers members ++ "\x7d"

/-- The compact texts of the items, with commas between. -/
def compactItems : List Json → String
  | [] => ""
  | v :: vs => compact v ++ if vs.isEmpty then "" else "," ++ compactItems vs

/-- The compact texts of the members, with commas between. -/
def compactMembers : List (String × Json) → String
  | [] => ""
  | (name, v) :: ms =>
    writeText name ++ ":" ++ compact v ++ if ms.isEmpty then "" else "," ++ compactMembers ms

end

/-- The text by which a value that is no collection takes part in other text: a text stands for
itself, a number or truth value for its compact form. -/
def scalarText? : Json → Option String
  | .str s => some s
  | .bool b => some (writeBool b)
  | .int n => some (toString n)
  | .real x => some (x.render numbers)
  | _ => none

end Json

end KeyedState

import KeyedState.Unicode.BinaryProperty
import KeyedState.Unicode.Newest

/-!
# Quoted text

The form in which messages quote a text: between double quotes, with short escapes for the common
control characters, and with the code point of each character that cannot be seen by itself or
that joins the character before it.
-/

namespace KeyedState

namespace Quoted

/-- The characters that leave no mark: control and format characters, separators but the space,
private characters, code points without a character, and fillers. -/
def unprintable : CharSet :=
  .unionAll [GeneralCategory.unassigned.diff Newest.assigned, BinaryProperty.defaultIgnorable,
    GeneralCategory.union
      [.control, .format, .privateUse, .lineSeparator, .paragraphSeparator, .spaceSeparator]]

/-- The characters that join the character before them; the halfwidth voicing marks stand by
themselves. -/
def joining : CharSet :=
  (BinaryProperty.graphemeExtend.union Newest.graphemeExtend).diff (.ofText "FF9E-FF9F")

/-- The lower-case hexadecimal digits of a number. -/
def hexDigits (n : Nat) : String := String.ofList (Nat.toDigits 16 n)

/-- The quoted form of one character. -/
def char (c : Char) : String :=
  if c.toNat = 0 then "\\0"
  else if c = '\t' then "\\t"
  else if c = '\r' then "\\r"
  else if c = '\n' then "\\n"
  else if c = '\\' then "\\\\"
  else if c = '"' then "\\\""
  else if ' ' ≤ c ∧ c ≤ '~' then c.toString
  else if joining.has c || unprintable.has c then
    "\\u\x7b" ++ hexDigits c.toNat ++ "\x7d"
  else c.toString

end Quoted

/-- The text in quotes. -/
def quoted (text : String) : String :=
  "\"" ++ String.join (text.toList.map Quoted.char) ++ "\""

end KeyedState

import KeyedState.Regex.Expr
import KeyedState.Unicode.BinaryProperty
import KeyedState.Unicode.GeneralCategory

/-!
# Regular expressions on text

A `Regex` steps over the characters of a set and looks at the characters around a place. On a text
it becomes an expression over sets of places (`Regex.on`). `Regex.occursIn` says whether it
matches some part of a text.
-/

namespace KeyedState

namespace Regex

/-- A condition on the characters before and after a place. -/
inductive Look where
  /-- The start of the text. -/
  | textStart
  /-- The end of the text. -/
  | textEnd
  /-- The start of a line; with `crlf`, a carriage return also ends a line. -/
  | lineStart (crlf : Bool)
  /-- The end of a line; with `crlf`, a carriage return also ends a line. -/
  | lineEnd (crlf : Bool)
  /-- A place between a word character and another one; or, if negated, any other place. -/
  | wordBoundary (unicode negated : Bool)
  /-- The start of a word. -/
  | wordStart (unicode : Bool)
  /-- The end of a word. -/
  | wordEnd (unicode : Bool)
  /-- Not after a word character. -/
  | wordStartHalf (unicode : Bool)
  /-- Not before a word character. -/
  | wordEndHalf (unicode : Bool)
deriving DecidableEq

/-- The ASCII word characters. -/
def asciiWord : CharSet := .ofText "30-39 41-5A 5F 61-7A"

/-- The word characters. -/
def word : CharSet :=
  .unionAll [BinaryProperty.alphabetic, BinaryProperty.joinControl, GeneralCategory.union
    [.nonspacingMark, .spacingMark, .enclosingMark, .decimalNumber, .connectorPunctuation]]

/-- Whether a character is a word character. -/
def isWord (unicode : Bool) (c : Char) : Bool :=
  asciiWord.has c || (unicode && 128 ≤ c.toNat && word.has c)

/-- Whether a condition holds between the characters before and after a place. -/
def Look.holds (before after : Option Char) : Look → Bool
  | .textStart => before.isNone
  | .textEnd => after.isNone
  | .lineStart false => before.all (· == '\n')
  | .lineStart true =>
    before.all fun c => c == '\n' || (c == '\r' && !(after == some '\n'))
  | .lineEnd false => after.all (· == '\n')
  | .lineEnd true =>
    after.all fun c => c == '\r' || (c == '\n' && !(before == some '\r'))
  | .wordBoundary unicode negated =>
    ((before.any (isWord unicode)) != (after.any (isWord unicode))) != negated
  | .wordStart unicode => !before.any (isWord unicode) && after.any (isWord unicode)
  | .wordEnd unicode => before.any (isWord unicode) && !after.any (isWord unicode)
  | .wordStartHalf unicode => !before.any (isWord unicode)
  | .wordEndHalf unicode => !after.any (isWord unicode)

end Regex

/-- A regular expression on text. -/
abbrev Regex := Regex.Expr CharSet Regex.Look

namespace Regex

/-- The places of a text after which a character of the set stands. -/
def placesBefore (s : CharSet) : List Char → Nat
  | [] => 0
  | c :: cs => (if s.has c then 1 else 0) + 2 * placesBefore s cs

/-- The places of a text, after the character `before`, at which a condition holds. -/
def placesWhere (l : Look) (before : Option Char) : List Char → Nat
  | [] => if l.holds before none then 1 else 0
  | c :: cs => (if l.holds before (some c) then 1 else 0) + 2 * placesWhere l (some c) cs

/-- The moves that the expression allows on a text. -/
def on (r : Regex) (text : List Char) : Expr Nat Nat :=
  r.map (placesBefore · text) (placesWhere · none text)

/-- The places where the expression can end on a text that starts at one of the given places. -/
def ends (r : Regex) (text : List Char) (places : Nat) : Nat :=
  (r.on text).reach (text.length + 1) places

/-- Whether the expression matches some part of the text. -/
def occursIn (r : Regex) (text : String) : Bool :=
  r.ends text.toList (Nat.pow 2 (text.toList.length + 1) - 1) != 0

end Regex

end KeyedState

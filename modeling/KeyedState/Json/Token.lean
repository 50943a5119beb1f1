import KeyedState.Json.Literal

/-!
# JSON tokens

`Token.scan` cuts a JSON text into brackets, commas, colons and scalars and drops the blanks
between them. A text token keeps the characters it stands for; it has none when an escape in it
denotes half a pair of code units without the other half.
-/

namespace KeyedState

namespace Json

/-- A token of a JSON text. -/
inductive Token where
  /-- An opening square bracket. -/
  | openArray
  /-- A closing square bracket. -/
  | closeArray
  /-- An opening brace. -/
  | openObject
  /-- A closing brace. -/
  | closeObject
  /-- A comma. -/
  | comma
  /-- A colon. -/
  | colon
  /-- The null value. -/
  | null
  /-- A truth value. -/
  | bool (b : Bool)
  /-- A number literal. -/
  | number (l : Literal)
  /-- A text, if its escapes denote one. -/
  | text (s : Option String)
deriving DecidableEq

namespace Token

/-- The value of a hexadecimal digit. -/
def hex? (c : Char) : Option Nat :=
  if '0' ≤ c ∧ c ≤ '9' then some (c.toNat - 48)
  else if 'a' ≤ c ∧ c ≤ 'f' then some (c.toNat - 87)
  else if 'A' ≤ c ∧ c ≤ 'F' then some (c.toNat - 55)
  else none

/-- The value of four hexadecimal digits. -/
def hex4? (a b c d : Char) : Option Nat := do
  return ((((← hex? a) * 16 + (← hex? b)) * 16 + (← hex? c)) * 16 + (← hex? d))

/-- A part of a text: a character, or a code unit given by number. -/
inductive Piece where
  /-- A character. -/
  | char (c : Char)
  /-- A code unit of 16 bits. -/
  | unit (n : Nat)
deriving DecidableEq

/-- The characters of the parts of a text. A unit that is the first half of a pair must be
followed at once by a unit that is the second half. -/
def assemble : List Piece → Option (List Char)
  | [] => some []
  | .char c :: ps => (assemble ps).map (c :: ·)
  | .unit n :: ps =>
    if 0xDC00 ≤ n ∧ n < 0xE000 then none
    else if n < 0xD800 ∨ 0xE000 ≤ n then (assemble ps).map (Char.ofNat n :: ·)
    else match ps with
      | .unit m :: ps =>
        if 0xDC00 ≤ m ∧ m < 0xE000 then
          (assemble ps).map (Char.ofNat (0x10000 + (n - 0xD800) * 0x400 + (m - 0xDC00)) :: ·)
        else none
      | _ => none

/-- The character of an escape of one letter. -/
def escape? (c : Char) : Option Char :=
  if c = '"' ∨ c = '\\' ∨ c = '/' then some c
  else if c = 'b' then some (Char.ofNat 8)
  else if c = 'f' then some (Char.ofNat 12)
  else if c = 'n' then some '\n'
  else if c = 'r' then some '\r'
  else if c = 't' then some '\t'
  else none

/-- Reads a text from behind its opening quote: its parts, and what follows its closing quote. -/
def scanText : List Char → Option (List Piece × List Char)
  | [] => none
  | '"' :: cs => some ([], cs)
  | '\\' :: 'u' :: a :: b :: c :: d :: cs =>
    match hex4? a b c d, scanText cs with
    | some n, some (ps, rest) => some (.unit n :: ps, rest)
    | _, _ => none
  | '\\' :: c :: cs =>
    match escape? c, scanText cs with
    | some e, some (ps, rest) => some (.char e :: ps, rest)
    | _, _ => none
  | c :: cs =>
    if c.toNat < 32 then none
    else (scanText cs).map fun (ps, rest) => (.char c :: ps, rest)

/-- The digits at the start, and what follows them. -/
def scanDigits : List Char → List Nat × List Char
  | [] => ([], [])
  | c :: cs =>
    if '0' ≤ c ∧ c ≤ '9' then
      let (ds, rest) := scanDigits cs
      ((c.toNat - 48) :: ds, rest)
    else ([], c :: cs)

/-- Reads the digits before the point: a zero alone, or digits without a zero in front. -/
def scanWhole (cs : List Char) : Option (List Nat × List Char) :=
  match scanDigits cs with
  | ([], _) => none
  | (0 :: _ :: _, _) => none
  | found => some found

/-- Reads the point and the digits after it, if there is a point. -/
def scanFraction : List Char → Option (List Nat × List Char)
  | '.' :: cs =>
    match scanDigits cs with
    | ([], _) => none
    | found => some found
  | cs => some ([], cs)

/-- Reads the digits of an exponent. -/
def scanExponentDigits (minus : Bool) (cs : List Char) :
    Option (Option (Bool × List Nat) × List Char) :=
  match scanDigits cs with
  | ([], _) => none
  | (ds, rest) => some (some (minus, ds), rest)

/-- Reads an exponent, if there is one. -/
def scanExponent : List Char → Option (Option (Bool × List Nat) × List Char)
  | 'e' :: '-' :: cs => scanExponentDigits true cs
  | 'E' :: '-' :: cs => scanExponentDigits true cs
  | 'e' :: '+' :: cs => scanExponentDigits false cs
  | 'E' :: '+' :: cs => scanExponentDigits false cs
  | 'e' :: cs => scanExponentDigits false cs
  | 'E' :: cs => scanExponentDigits false cs
  | cs => some (none, cs)

/-- Reads a number literal from behind its sign. -/
def scanNumber (negative : Bool) (cs : List Char) : Option (Token × List Char) := do
  let (whole, cs) ← scanWhole cs
  let (fraction, cs) ← scanFraction cs
  let (exponent, cs) ← scanExponent cs
  return (.number ⟨negative, whole, fraction, exponent⟩, cs)

/-- Reads one token. -/
def scanOne : List Char → Option (Token × List Char)
  | '[' :: cs => some (.openArray, cs)
  | ']' :: cs => some (.closeArray, cs)
  | '\x7b' :: cs => some (.openObject, cs)
  | '\x7d' :: cs => some (.closeObject, cs)
  | ',' :: cs => some (.comma, cs)
  | ':' :: cs => some (.colon, cs)
  | 'n' :: 'u' :: 'l' :: 'l' :: cs => some (.null, cs)
  | 't' :: 'r' :: 'u' :: 'e' :: cs => some (.bool true, cs)
  | 'f' :: 'a' :: 'l' :: 's' :: 'e' :: cs => some (.bool false, cs)
  | '"' :: cs => (scanText cs).map fun (ps, rest) =>
      (.text ((assemble ps).map String.ofList), rest)
  | '-' :: cs => scanNumber true cs
  | cs => scanNumber false cs

/-- Whether a character may stand between tokens. -/
def isSpace (c : Char) : Bool := c == ' ' || c == '\n' || c == '\t' || c == '\r'

/-- The tokens of a text, with one unit of fuel for each character. -/
def scanAll : Nat → List Char → Option (List Token)
  | 0, cs => if cs.isEmpty then some [] else none
  | fuel + 1, cs =>
    match cs.dropWhile isSpace with
    | [] => some []
    | c :: cs =>
      match scanOne (c :: cs) with
      | none => none
      | some (t, rest) => (scanAll fuel rest).map (t :: ·)

/-- The tokens of a text. -/
def scan (text : String) : Option (List Token) :=
  let cs := text.toList
  scanAll cs.length cs

end Token

end Json

end KeyedState

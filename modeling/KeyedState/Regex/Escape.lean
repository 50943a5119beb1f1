import KeyedState.Regex.Property
import KeyedState.Text.Blank

/-!
# Escapes in patterns

What follows a backslash: a character given by itself or by its code, a set of characters, or a
condition on a place. Where the verbose flag is on, blanks and comments may stand inside a pattern
and are skipped.
-/

namespace KeyedState.Regex

/-- Skips blanks and comments; `inComment` says whether a comment is at hand. -/
def skipSpace (inComment : Bool) : List Char → List Char
  | [] => []
  | c :: cs =>
    if inComment then skipSpace (c != '\n') cs
    else if isBlank c then skipSpace false cs
    else if c = '#' then skipSpace true cs
    else c :: cs

/-- Skips blanks and comments where the verbose flag is on. -/
def Flags.skip (f : Flags) (cs : List Char) : List Char :=
  if f.verbose then skipSpace false cs else cs

/-- The set with every character that differs from a member only in case, where case is ignored.
Where Unicode is switched off, only ASCII letters count. -/
def Flags.foldCase (f : Flags) (s : CharSet) : CharSet :=
  if !f.ignoreCase then s
  else if f.unicode then s.foldCase
  else s.foldCase.inter (.range 0 0x7F)

/-- The character of a code point, unless that is reserved or too large. -/
def charOf? (n : Nat) : Option Char :=
  if h : n.isValidChar then some (Char.ofNatAux n h) else none

/-- What an escape denotes. -/
inductive Escape where
  /-- A character; `byCode` when it is given by two hexadecimal digits. -/
  | char (c : Char) (byCode : Bool)
  /-- A set of characters. -/
  | set (s : CharSet)
  /-- A condition on a place. -/
  | look (l : Look)
deriving DecidableEq

namespace Escape

/-- The value of a hexadecimal digit. -/
def hex? (c : Char) : Option Nat :=
  if '0' ≤ c ∧ c ≤ '9' then some (c.toNat - 48)
  else if 'a' ≤ c ∧ c ≤ 'f' then some (c.toNat - 87)
  else if 'A' ≤ c ∧ c ≤ 'F' then some (c.toNat - 55)
  else none

/-- The number of so many hexadecimal digits after `n`, and what follows. -/
def hexDigits (f : Flags) (n : Nat) : Nat → List Char → Except Fault (Nat × List Char)
  | 0, cs => .ok (n, cs)
  | _ + 1, [] => .error .invalidEscape
  | count + 1, c :: cs =>
    match hex? c with
    | none => .error .invalidEscape
    | some d => hexDigits f (16 * n + d) count (f.skip cs)

/-- The characters up to a closing brace, and what follows the brace. Blanks and comments are
skipped where the verbose flag is on; `fuel` bounds the characters. -/
def braced (f : Flags) : Nat → List Char → Except Fault (List Char × List Char)
  | 0, _ => .error .invalidEscape
  | fuel + 1, cs =>
    match f.skip cs with
    | [] => .error .invalidEscape
    | '\x7d' :: cs => .ok ([], cs)
    | c :: cs => do
      let (name, rest) ← braced f fuel cs
      return (c :: name, rest)

/-- The number of hexadecimal digits, of which there is at least one. -/
def hexValue? : List Char → Option Nat
  | [] => none
  | cs => cs.foldlM (fun n c => (hex? c).map (16 * n + ·)) 0

/-- A character by its code: `count` digits, or digits in braces. -/
def byCode (f : Flags) (count : Nat) (cs : List Char) : Except Fault (Escape × List Char) :=
  match f.skip cs with
  | '\x7b' :: cs => do
    let (digits, rest) ← braced f (cs.length + 1) cs
    match (hexValue? digits).bind charOf? with
    | some c => return (.char c false, rest)
    | none => .error .invalidEscape
  | cs => do
    let (n, rest) ← hexDigits f 0 count cs
    match charOf? n with
    | some c => return (.char c (count = 2), rest)
    | none => .error .invalidEscape

/-- A set of characters as the flags have it: closed under case where case is ignored, then
negated. Where Unicode is switched off, nothing beyond ASCII may result. -/
def finish (f : Flags) (negated : Bool) (s : CharSet) : Except Fault CharSet :=
  let s := f.foldCase s
  let s := if negated then s.compl else s
  if f.unicode || s.isAscii then .ok s else .error .unicodeNotAllowed

/-- A set of characters by a property. -/
def property (f : Flags) (negated : Bool) (name : List Char) : Except Fault Escape :=
  if !f.unicode then .error .unicodeNotAllowed
  else match Property.ofText? name with
    | none => .error .unknownProperty
    | some q => (finish f (negated != q.isNegated) q.set).map .set

/-- A set of characters by a property: a name of one letter, or a text in braces. -/
def byProperty (f : Flags) (negated : Bool) (cs : List Char) : Except Fault (Escape × List Char) :=
  match f.skip cs with
  | [] => .error .invalidEscape
  | '\x7b' :: cs => do
    let (name, rest) ← braced f (cs.length + 1) cs
    return (← property f negated name, rest)
  | '\\' :: _ => .error .invalidEscape
  | c :: cs =>
    if !f.unicode then .error .unicodeNotAllowed
    else match Property.named? [c] with
      | none => .error .unknownProperty
      | some s => do return (.set (← finish f negated s), cs)

/-- A class of one letter. Case makes no difference to it. -/
def byLetter (f : Flags) (letter : Char) (negated : Bool) : Except Fault Escape :=
  let s := letterClass f.unicode letter
  if !negated then .ok (.set s)
  else if f.unicode then .ok (.set s.compl)
  else .error .unicodeNotAllowed

/-- Whether a character may stand in the name of a word boundary. -/
def isBoundaryLetter (c : Char) : Bool :=
  ('a' ≤ c && c ≤ 'z') || ('A' ≤ c && c ≤ 'Z') || c == '-'

/-- The condition of a named word boundary. -/
def boundary? (unicode : Bool) : List Char → Option Look
  | ['s', 't', 'a', 'r', 't'] => some (.wordStart unicode)
  | ['e', 'n', 'd'] => some (.wordEnd unicode)
  | ['s', 't', 'a', 'r', 't', '-', 'h', 'a', 'l', 'f'] => some (.wordStartHalf unicode)
  | ['e', 'n', 'd', '-', 'h', 'a', 'l', 'f'] => some (.wordEndHalf unicode)
  | _ => none

/-- A word boundary: a named one where a name in braces follows, and any otherwise. What begins
like the bounds of a repetition is left to be read as that. -/
def wordBoundary (f : Flags) : List Char → Except Fault (Escape × List Char)
  | '\x7b' :: cs =>
    match f.skip cs with
    | [] => .error .invalidEscape
    | c :: rest =>
      if isBoundaryLetter c then do
        let (name, rest) ← braced f (rest.length + 2) (c :: rest)
        match boundary? f.unicode name with
        | some l => return (.look l, rest)
        | none => .error .invalidEscape
      else .ok (.look (.wordBoundary f.unicode false), '\x7b' :: cs)
  | cs => .ok (.look (.wordBoundary f.unicode false), cs)

/-- Whether a character stands for itself behind a backslash: any of ASCII but letters, digits and
angle brackets. -/
def isPlain (c : Char) : Bool :=
  c.toNat < 128 && !c.isAlphanum && c != '<' && c != '>'

/-- Reads an escape from behind its backslash. -/
def read (f : Flags) : List Char → Except Fault (Escape × List Char)
  | [] => .error .invalidEscape
  | c :: cs =>
    match c with
    | 'x' => byCode f 2 cs
    | 'u' => byCode f 4 cs
    | 'U' => byCode f 8 cs
    | 'p' => byProperty f false cs
    | 'P' => byProperty f true cs
    | 'd' => (byLetter f 'd' false).map (·, cs)
    | 's' => (byLetter f 's' false).map (·, cs)
    | 'w' => (byLetter f 'w' false).map (·, cs)
    | 'D' => (byLetter f 'd' true).map (·, cs)
    | 'S' => (byLetter f 's' true).map (·, cs)
    | 'W' => (byLetter f 'w' true).map (·, cs)
    | 'a' => .ok (.char '\x07' false, cs)
    | 'f' => .ok (.char '\x0c' false, cs)
    | 't' => .ok (.char '\t' false, cs)
    | 'n' => .ok (.char '\n' false, cs)
    | 'r' => .ok (.char '\r' false, cs)
    | 'v' => .ok (.char '\x0b' false, cs)
    | 'A' => .ok (.look .textStart, cs)
    | 'z' => .ok (.look .textEnd, cs)
    | 'b' => wordBoundary f cs
    | 'B' => .ok (.look (.wordBoundary f.unicode true), cs)
    | '<' => .ok (.look (.wordStart f.unicode), cs)
    | '>' => .ok (.look (.wordEnd f.unicode), cs)
    | c => if isPlain c then .ok (.char c false, cs) else .error .invalidEscape

end Escape

/-- The set of one character as the flags have it. A character given by two hexadecimal digits is
a byte where Unicode is switched off, and must be ASCII. -/
def charSet (f : Flags) (c : Char) (byCode : Bool) : Except Fault CharSet :=
  if f.unicode ∨ c.toNat < 128 then .ok (f.foldCase (.single c))
  else if byCode then .error .unicodeNotAllowed
  else .ok (.single c)

end KeyedState.Regex

import KeyedState.Regex.Class
import KeyedState.Unicode.Newest

/-!
# Tokens of patterns

`Token.scan` cuts a pattern into tokens. Flags are resolved on the way: a token that stands for a
character or a condition already carries the set or the condition that the flags at its place make
of it. What is left to the reader of the tokens is the nesting of groups, the alternatives and the
operands of repetitions.
-/

namespace KeyedState.Regex

/-- A token of a pattern. -/
inductive Token where
  /-- A character of a set, and the depth of the set as a class. -/
  | set (s : CharSet) (depth : Nat)
  /-- A condition on a place. -/
  | look (l : Look)
  /-- The start of a group; whether it captures. -/
  | opening (capture : Bool)
  /-- The end of a group. -/
  | closing
  /-- The bar between alternatives. -/
  | bar
  /-- A change of flags for the rest of the group. -/
  | flags
  /-- A repetition of what is before it; `greedy` when it prefers many rounds. -/
  | repetition (least : Nat) (most : Option Nat) (greedy : Bool)
deriving DecidableEq

namespace Token

/-- What is known at a place of a pattern. -/
structure State where
  /-- The flags in force. -/
  flags : Flags := {}
  /-- The flags in force around each open group, the innermost first. -/
  outer : List Flags := []
  /-- The names of groups so far. -/
  names : List (List Char) := []

/-- The characters before the first one that satisfies the test, and what follows from there. -/
def upTo (stop : Char → Bool) (cs : List Char) : List Char × List Char :=
  (cs.takeWhile (!stop ·), cs.dropWhile (!stop ·))

/-- Whether a character may stand in the name of a group. -/
def isNameChar (first : Bool) (c : Char) : Bool :=
  c == '_' || isAlphabetic c ||
    (!first && (c == '.' || c == '[' || c == ']' || isAlphanumeric c))

/-- Reads the name of a group up to its closing angle bracket. -/
def readName (s : State) (cs : List Char) : Except Fault (State × List Char) :=
  match upTo (· == '>') cs with
  | ([], _) => .error .invalidGroupName
  | (_, []) => .error .invalidGroupName
  | (c :: name, _ :: rest) =>
    if isNameChar true c && name.all (isNameChar false) && !s.names.contains (c :: name) then
      .ok ({ s with names := (c :: name) :: s.names }, rest)
    else .error .invalidGroupName

/-- The state inside a group with the given flags. -/
def State.enter (s : State) (inner : Flags) : State :=
  { s with flags := inner, outer := s.flags :: s.outer }

/-- Reads the start of a group, or a change of flags, from behind its parenthesis. -/
def readGroup (s : State) (cs : List Char) : Except Fault (Token × State × List Char) :=
  match s.flags.skip cs with
  | '?' :: 'P' :: '<' :: cs => do
    let (s, rest) ← readName s cs
    return (.opening true, s.enter s.flags, rest)
  | '?' :: '=' :: _ => .error .lookAround
  | '?' :: '!' :: _ => .error .lookAround
  | '?' :: '<' :: '=' :: _ => .error .lookAround
  | '?' :: '<' :: '!' :: _ => .error .lookAround
  | '?' :: '<' :: cs => do
    let (s, rest) ← readName s cs
    return (.opening true, s.enter s.flags, rest)
  | '?' :: cs => do
    let (letters, rest) := upTo (fun c => c == ':' || c == ')') cs
    let inner ← Flags.switchAll true [] letters s.flags
    match rest with
    | ':' :: rest => return (.opening false, s.enter inner, rest)
    | ')' :: rest =>
      if letters.isEmpty then .error .nothingToRepeat
      else return (.flags, { s with flags := inner }, rest)
    | _ => .error .unclosed
  | cs => return (.opening true, s.enter s.flags, cs)

/-- The digits at the start and what follows them. Where the verbose flag is on, blanks and
comments are skipped behind each digit; `fuel` bounds the digits. -/
def readDigits (f : Flags) : Nat → List Char → List Char × List Char
  | 0, cs => ([], cs)
  | fuel + 1, cs =>
    match cs with
    | [] => ([], [])
    | c :: rest =>
      if '0' ≤ c ∧ c ≤ '9' then
        let (ds, rest) := readDigits f fuel (f.skip rest)
        (c :: ds, rest)
      else ([], c :: rest)

/-- A bound of a repetition, with blanks around it; none without a digit. -/
def readBound (f : Flags) (cs : List Char) : Except Fault (Option Nat × List Char) :=
  let cs := cs.dropWhile isBlank
  let (ds, rest) := readDigits f cs.length cs
  let rest := f.skip (rest.dropWhile isBlank)
  if ds.isEmpty then .ok (none, rest)
  else
    let n := ds.foldl (fun n c => 10 * n + (c.toNat - 48)) 0
    if n < 4294967296 then .ok (some n, rest) else .error .invalidRepetition

/-- A repetition, from behind its bounds. A question mark makes it prefer few rounds, or many where
the flags turn that around. -/
def readGreed (f : Flags) (least : Nat) (most : Option Nat) : List Char → Token × List Char
  | '?' :: cs => (.repetition least most f.swapGreed, cs)
  | cs => (.repetition least most !f.swapGreed, cs)

/-- Reads the bounds of a repetition from behind the opening brace. -/
def readBounds (f : Flags) (cs : List Char) : Except Fault (Token × List Char) := do
  let (least, cs) ← readBound f (f.skip cs)
  match least, cs with
  | some n, '\x7d' :: cs => return readGreed f n (some n) (f.skip cs)
  | some least, ',' :: cs =>
    match f.skip cs with
    | '\x7d' :: cs => return readGreed f least none (f.skip cs)
    | cs =>
      let (most, cs) ← readBound f cs
      match most, cs with
      | some most, '\x7d' :: cs =>
        if least ≤ most then return readGreed f least (some most) (f.skip cs)
        else .error .invalidRepetition
      | _, _ => .error .invalidRepetition
  | _, _ => .error .invalidRepetition

/-- The condition of a caret. -/
def caret (f : Flags) : Look := if f.multiLine then .lineStart f.crlf else .textStart

/-- The condition of a dollar sign. -/
def dollar (f : Flags) : Look := if f.multiLine then .lineEnd f.crlf else .textEnd

/-- The set of a dot. -/
def dot (f : Flags) : Except Fault CharSet :=
  if !f.unicode then .error .unicodeNotAllowed
  else if f.dotAll then .ok .full
  else if f.crlf then .ok (CharSet.compl (.ofText "A D"))
  else .ok (CharSet.compl (.ofText "A"))

/-- The token of an escape. -/
def ofEscape (f : Flags) : Escape → Except Fault Token
  | .char c byCode => (charSet f c byCode).map (.set · 0)
  | .set s => .ok (.set s 0)
  | .look l => .ok (.look l)

/-- Reads one token that starts with the character `c`. -/
def readOne (s : State) (c : Char) (cs : List Char) : Except Fault (Token × State × List Char) :=
  let f := s.flags
  match c with
  | '(' => readGroup s cs
  | ')' =>
    match s.outer with
    | [] => .error .unopenedGroup
    | before :: outer => .ok (.closing, { s with flags := before, outer }, cs)
  | '|' => .ok (.bar, s, cs)
  | '[' => do
    let (members, depth, rest) ← Class.read f cs
    return (.set members depth, s, rest)
  | '?' =>
    let (t, rest) := readGreed f 0 (some 1) cs
    .ok (t, s, rest)
  | '*' =>
    let (t, rest) := readGreed f 0 none cs
    .ok (t, s, rest)
  | '+' =>
    let (t, rest) := readGreed f 1 none cs
    .ok (t, s, rest)
  | '\x7b' => do
    let (t, rest) ← readBounds f cs
    return (t, s, rest)
  | '\\' => do
    let (e, rest) ← Escape.read f cs
    return (← ofEscape f e, s, rest)
  | '.' => do return (.set (← dot f) 0, s, cs)
  | '^' => .ok (.look (caret f), s, cs)
  | '$' => .ok (.look (dollar f), s, cs)
  | c => do return (.set (← charSet f c false) 0, s, cs)

/-- The tokens from a state on. Each takes at least one character, so `fuel` may be the number of
characters. -/
def scanFrom : Nat → State → List Char → Except Fault (List Token)
  | 0, s, cs => if cs.isEmpty && s.outer.isEmpty then .ok [] else .error .unclosed
  | fuel + 1, s, cs =>
    match s.flags.skip cs with
    | [] => if s.outer.isEmpty then .ok [] else .error .unclosed
    | c :: cs => do
      let (t, s, rest) ← readOne s c cs
      return t :: (← scanFrom fuel s rest)

/-- The tokens of a pattern. -/
def scan (pattern : List Char) : Except Fault (List Token) :=
  scanFrom pattern.length {} pattern

end Token

end KeyedState.Regex

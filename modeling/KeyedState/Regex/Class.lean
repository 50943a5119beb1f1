import KeyedState.Regex.Escape

/-!
# Bracketed classes

A class in brackets is a union of characters, ranges, named sets and inner classes, or is made of
such unions by intersection, difference and symmetric difference, all of one strength and from
left to right. `Class.read` reads one with a stack of the brackets and operations that are open.
It also finds the depth of the class, which counts brackets, operations and unions of more than
one item.
-/

namespace KeyedState.Regex

namespace Class

/-- The items of a union so far. -/
structure Items where
  /-- Their union. -/
  set : CharSet := ∅
  /-- Their number. -/
  count : Nat := 0
  /-- The depth of the deepest. -/
  deepest : Nat := 0

namespace Items

/-- One more item. -/
def add (i : Items) (s : CharSet) (depth : Nat) : Items :=
  ⟨i.set.union s, i.count + 1, max i.deepest depth⟩

/-- The depth of the union. -/
def depth (i : Items) : Nat := if i.count ≤ 1 then i.deepest else i.deepest + 1

end Items

/-- The operations between unions. -/
inductive Op where
  /-- The characters of both sides. -/
  | inter
  /-- The characters of the left side that are not on the right. -/
  | diff
  /-- The characters of exactly one side. -/
  | symmDiff
deriving DecidableEq

/-- The result of an operation. -/
def Op.apply (o : Op) (s t : CharSet) : CharSet :=
  match o with
  | .inter => s.inter t
  | .diff => s.diff t
  | .symmDiff => s.symmDiff t

/-- What is open while a class is read. -/
inductive Frame where
  /-- A bracket, inside a union with the given items. -/
  | bracket (outer : Items) (negated : Bool)
  /-- An operation whose left side has the given set and depth. -/
  | op (kind : Op) (left : CharSet) (depth : Nat)

/-- Ends the union at hand: its set and depth, after the operation that waits for it, if any. -/
def finishOperand (f : Flags) (stack : List Frame) (items : Items) :
    CharSet × Nat × List Frame :=
  match stack with
  | .op kind left depth :: stack =>
    (kind.apply (f.foldCase left) (f.foldCase items.set), max depth items.depth + 1, stack)
  | _ => (items.set, items.depth, stack)

/-- A named class of ASCII, from behind its opening bracket. -/
def readAscii? (f : Flags) : List Char → Option (Except Fault CharSet × List Char)
  | ':' :: cs =>
    let (negated, cs) := match cs with
      | '^' :: cs => (true, cs)
      | cs => (false, cs)
    match Property.cutAtChar? ':' cs with
    | some (name, ']' :: rest) =>
      (asciiClass? (String.ofList name)).map fun s => (Escape.finish f negated s, rest)
    | _ => none
  | _ => none

/-- The hyphens at the start of a class, which stand for themselves. -/
def readHyphens (f : Flags) (items : Items) : Nat → List Char → Items × List Char
  | 0, cs => (items, cs)
  | fuel + 1, cs =>
    match cs with
    | '-' :: cs => readHyphens f (items.add (.single '-') 0) fuel (f.skip cs)
    | cs => (items, cs)

/-- The start of a class from behind its opening bracket: whether it is negated, and the items
that need no escape there. -/
def readOpening (f : Flags) (cs : List Char) : Bool × Items × List Char :=
  let cs := f.skip cs
  let (negated, cs) := match cs with
    | '^' :: cs => (true, f.skip cs)
    | cs => (false, cs)
  let (items, cs) := readHyphens f {} cs.length cs
  match items.count, cs with
  | 0, ']' :: cs => (negated, items.add (.single ']') 0, f.skip cs)
  | _, cs => (negated, items, cs)

/-- One character or escape. -/
def readItem (f : Flags) : List Char → Except Fault (Escape × List Char)
  | [] => .error .unclosed
  | '\\' :: cs => Escape.read f cs
  | c :: cs => .ok (.char c false, cs)

/-- The code point of a character that stands in a class. -/
def codeOf (f : Flags) (c : Char) : Except Fault Nat :=
  if f.unicode ∨ c.toNat < 128 then .ok c.toNat else .error .unicodeNotAllowed

/-- The set of an item of a class. -/
def itemSet (f : Flags) : Escape → Except Fault CharSet
  | .char c _ => do let n ← codeOf f c; return .range n n
  | .set s => .ok s
  | .look _ => .error .invalidClass

/-- The first character that is neither blank nor starts a comment. A comment ends at its first
character that is not blank. -/
def peekSpace (inComment : Bool) : List Char → Option Char
  | [] => none
  | c :: cs =>
    if isBlank c then peekSpace inComment cs
    else if !inComment && c == '#' then peekSpace true cs
    else some c

/-- The character behind a hyphen. -/
def peek (f : Flags) (cs : List Char) : Option Char :=
  if f.verbose then peekSpace false cs else cs.head?

/-- An item or a range. A hyphen before a closing bracket or a further hyphen makes no range. -/
def readRange (f : Flags) (cs : List Char) : Except Fault (CharSet × List Char) := do
  let (first, cs) ← readItem f cs
  match f.skip cs with
  | [] => .error .unclosed
  | '-' :: cs =>
    if peek f cs = some ']' ∨ peek f cs = some '-' then return (← itemSet f first, '-' :: cs)
    else
      let (last, cs) ← readItem f (f.skip cs)
      match first, last with
      | .char a _, .char b _ =>
        let lo ← codeOf f a
        let hi ← codeOf f b
        if lo ≤ hi then return (.range lo hi, cs) else .error .invalidClass
      | _, _ => .error .invalidClass
  | cs => return (← itemSet f first, cs)

/-- Reads on to the end of the outermost bracket: the set and depth of the class, and what follows
it. Every round takes at least one character, so `fuel` may be their number. -/
def readOn (f : Flags) : Nat → List Frame → Items → List Char →
    Except Fault (CharSet × Nat × List Char)
  | 0, _, _, _ => .error .unclosed
  | fuel + 1, stack, items, cs =>
    let operation := fun (o : Op) (cs : List Char) =>
      let (left, depth, stack) := finishOperand f stack items
      readOn f fuel (.op o left depth :: stack) {} cs
    match f.skip cs with
    | [] => .error .unclosed
    | '[' :: cs =>
      match readAscii? f cs with
      | some (s, rest) => do readOn f fuel stack (items.add (← s) 0) rest
      | none =>
        let (negated, inner, rest) := readOpening f cs
        readOn f fuel (.bracket items negated :: stack) inner rest
    | ']' :: cs =>
      let (s, depth, stack) := finishOperand f stack items
      match stack with
      | .bracket outer negated :: stack => do
        let s ← Escape.finish f negated s
        if stack.isEmpty then return (s, depth + 1, cs)
        else readOn f fuel stack (outer.add s (depth + 1)) cs
      | _ => .error .unclosed
    | '&' :: '&' :: cs => operation .inter cs
    | '-' :: '-' :: cs => operation .diff cs
    | '~' :: '~' :: cs => operation .symmDiff cs
    | cs => do
      let (s, rest) ← readRange f cs
      readOn f fuel stack (items.add s 0) rest

/-- Reads a class from behind its opening bracket. -/
def read (f : Flags) (cs : List Char) : Except Fault (CharSet × Nat × List Char) :=
  let (negated, items, rest) := readOpening f cs
  readOn f (cs.length + 1) [.bracket {} negated] items rest

end Class

end KeyedState.Regex

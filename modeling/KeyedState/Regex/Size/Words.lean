import KeyedState.Regex.Size.Basic

/-!
# Sizes of alternatives of texts

Alternatives that are all plain texts share the states for the bytes that they have in common at
their starts. Where a text ends that others continue, its end comes before what is added after it,
so that the order of the alternatives is kept.
-/

namespace KeyedState.Regex.Words

/-- The ways on from a place: the bytes, and the texts behind each, the last first. -/
abbrev Ways := List (Nat × List (List Nat))

/-- The ways on, with one more text behind a byte. -/
def Ways.add (b : Nat) (text : List Nat) : Ways → Ways
  | [] => [(b, [text])]
  | (c, texts) :: ways =>
    if c = b then (c, text :: texts) :: ways else (c, texts) :: Ways.add b text ways

/-- The ways on from a place before each text that ends there, and those since. -/
structure Place where
  /-- The ways between two texts that end here, the last first. -/
  closed : List Ways := []
  /-- The ways since the last text that ended here. -/
  current : Ways := []

namespace Place

/-- Whether no text goes on. -/
def isLeaf (p : Place) : Bool := p.current.isEmpty && p.closed.all List.isEmpty

/-- The place with one more text. -/
def add (p : Place) : List Nat → Place
  | [] =>
    if p.isLeaf && !p.closed.isEmpty then p else ⟨p.current :: p.closed, []⟩
  | b :: text => { p with current := Ways.add b text p.current }

/-- The place from which texts go on. -/
def ofTexts (texts : List (List Nat)) : Place := texts.foldl add {}

/-- All ways on, in order. -/
def ways (p : Place) : List Ways := (p.current :: p.closed).reverse

end Place

/-- Grows an automaton by the states of ways on that are not separated by the end of a text. -/
def growWays (ways : Ways) (s : Size) : Size :=
  match ways with
  | [] => s
  | [_] => s.state
  | ways => s.byBytes ways.length

/-- Grows an automaton by the states for texts from a place on. `fuel` bounds the length of the
texts. -/
def growFrom : Nat → List (List Nat) → Size → Size
  | 0, _, s => s
  | fuel + 1, texts, s =>
    let ways := (Place.ofTexts texts).ways
    let further := ways.flatten.filter fun w => !w.2.all List.isEmpty
    let s := further.foldl (fun s w => growFrom fuel w.2.reverse s) s
    let s := ways.foldl (fun s w => growWays w s) s
    s.branch ((ways.filter (!·.isEmpty)).length + (ways.length - 1))

/-- Grows an automaton by alternatives that are texts. -/
def grow (texts : List (List Nat)) (s : Size) : Size :=
  growFrom ((texts.map List.length).foldl max 0 + 1) texts s.state

end KeyedState.Regex.Words

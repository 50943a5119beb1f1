import KeyedState.Error
import KeyedState.Regex.Size.Whole
import KeyedState.Regex.Token

/-!
# From patterns to regular expressions

`Regex.readTokens` reads the tokens of a pattern with a stack of the groups that are open, and
`Regex.read` the pattern itself. `Regex.compile` also refuses a pattern whose automata are too
large. `Regex.compileWhole` compiles a pattern between the conditions for the start and the end of
the text; it puts them around the text of the pattern, so the pattern is read as part of a longer
one.

A `WholePattern` is a pattern that has been compiled so, with the longer text. Two of them count as
equal when these texts are.
-/

namespace KeyedState.Regex

/-- The depth up to which a pattern may be nested. -/
def depthLimit : Nat := 250

/-- A part of a pattern: what it matches, how deeply it is nested, and its form. -/
structure Part where
  /-- The expression. -/
  regex : Regex
  /-- The depth. -/
  depth : Nat
  /-- The form. -/
  form : Form

namespace Part

/-- Nothing. -/
def empty : Part := ⟨.empty, 0, .empty⟩

/-- A character of a set. -/
def ofSet (s : CharSet) (depth : Nat) : Part := ⟨.step s, depth, .ofSet s⟩

/-- A condition on a place. -/
def ofLook (l : Look) : Part := ⟨.stay l, 0, .look l⟩

/-- The greatest depth of several parts. -/
def deepest (ps : List Part) : Nat := (ps.map depth).foldl max 0

/-- A part again and again, one level deeper. -/
def repeated (p : Part) (least : Nat) (most : Option Nat) (greedy : Bool) : Part :=
  ⟨.loop p.regex least most, p.depth + 1, p.form.repeated least most greedy⟩

/-- A part in parentheses, one level deeper. -/
def enclosed (p : Part) (capture : Bool) : Part :=
  if capture then ⟨.group p.regex, p.depth + 1, .group p.form⟩
  else { p with depth := p.depth + 1 }

end Part

/-- An element of a sequence. -/
inductive Item where
  /-- A part that matches something. -/
  | part (p : Part)
  /-- A change of flags. -/
  | flags

namespace Item

/-- The part that an item is; a change of flags matches the empty text. -/
def toPart : Item → Part
  | .part p => p
  | .flags => .empty

/-- The part that an item is, if it is one. -/
def part? : Item → Option Part
  | .part p => some p
  | .flags => none

end Item

/-- What an open group holds so far, each list in reverse order. -/
structure Group where
  /-- Whether the group captures. -/
  capture : Bool
  /-- The alternatives before the one at hand. -/
  alternatives : List Part := []
  /-- The items of the alternative at hand. -/
  items : List Item := []

namespace Group

/-- The alternative at hand as a whole. A sequence of several items is one level deep. -/
def sequence (g : Group) : Part :=
  match g.items with
  | [] => .empty
  | [i] => i.toPart
  | is =>
    let ps := is.reverse.filterMap Item.part?
    ⟨.seqAll (ps.map Part.regex), Part.deepest ps + 1, .concat (ps.map Part.form)⟩

/-- All alternatives. Several of them are one level deep. -/
def content (g : Group) : Part :=
  let last := g.sequence
  match (last :: g.alternatives).reverse with
  | [] => last
  | [p] => p
  | p :: ps =>
    ⟨.altAll p.regex (ps.map Part.regex), Part.deepest (p :: ps) + 1,
      .anyOf ((p :: ps).map Part.form)⟩

/-- The group with one more item. -/
def push (g : Group) (i : Item) : Group := { g with items := i :: g.items }

/-- The group as an item of the one around it. -/
def toItem (g : Group) : Item := .part (g.content.enclosed g.capture)

end Group

/-- One step: the innermost open group and the ones around it, after a token. -/
def readToken (g : Group) (outer : List Group) : Token → Except Fault (Group × List Group)
  | .set s depth => .ok (g.push (.part (.ofSet s depth)), outer)
  | .look l => .ok (g.push (.part (.ofLook l)), outer)
  | .flags => .ok (g.push .flags, outer)
  | .opening capture => .ok ({ capture }, g :: outer)
  | .closing =>
    match outer with
    | [] => .error .unopenedGroup
    | h :: outer => .ok (h.push g.toItem, outer)
  | .bar => .ok ({ g with alternatives := g.sequence :: g.alternatives, items := [] }, outer)
  | .repetition least most greedy =>
    match g.items with
    | .part p :: is =>
      .ok ({ g with items := .part (p.repeated least most greedy) :: is }, outer)
    | _ => .error .nothingToRepeat

/-- All steps. At the end every group must be closed. -/
def readTokens (g : Group) (outer : List Group) : List Token → Except Fault Part
  | [] => if outer.isEmpty then .ok g.content else .error .unclosed
  | t :: ts => (readToken g outer t).bind fun (g, outer) => readTokens g outer ts

/-- Reads a pattern, which may be of any size. -/
def read (pattern : String) : Except Fault Part := do
  let p ← readTokens { capture := false } [] (← Token.scan pattern.toList)
  if depthLimit < p.depth then .error .nestedTooDeeply else .ok p

/-- The expression of a pattern that is not too large. -/
def compile (pattern : String) : Except Fault Regex := do
  let p ← read pattern
  if p.form.fits then .ok p.regex else .error .tooLarge

/-- The text of a pattern between the conditions for the start and the end of the text. -/
def wholeText (pattern : String) : String := "^(?:" ++ pattern ++ ")$"

/-- The expression of a pattern between the conditions for the start and the end of the text. -/
def compileWhole (pattern : String) : Except Fault Regex := compile (wholeText pattern)

end KeyedState.Regex

/-! ## Patterns for whole texts -/

namespace KeyedState

/-- A regular expression for whole texts. -/
structure WholePattern where
  /-- The text with the conditions for the start and the end. -/
  text : String
  /-- What the text denotes. -/
  regex : Regex
deriving DecidableEq

namespace WholePattern

/-- The compiled form of a pattern. -/
def compile (pattern : String) : Except ConfigurationError WholePattern :=
  match Regex.compileWhole pattern with
  | .ok regex => .ok ⟨Regex.wholeText pattern, regex⟩
  | .error fault => .error (.invalidRegex pattern fault.message)

/-- Whether a text is accepted. -/
def accepts (p : WholePattern) (text : String) : Bool := p.regex.occursIn text

end WholePattern

end KeyedState

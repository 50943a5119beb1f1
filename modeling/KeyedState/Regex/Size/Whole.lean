import KeyedState.Regex.Form
import KeyedState.Regex.Size.Letters
import KeyedState.Regex.Size.Words

/-!
# Sizes of patterns

A pattern has two automata: one that reads a text forwards and notes where groups begin and end,
and one that reads it backwards and does not. `Form.fits` says whether neither is too large.
-/

namespace KeyedState.Regex.Form

/-- The bytes of a text. -/
def bytesOf (cs : List Nat) : List Nat := cs.flatMap Utf8.encode

/-- The bytes of a form that is a text. -/
def text? : Form → Option (List Nat)
  | .text cs => some (bytesOf cs)
  | _ => none

/-- Grows an automaton by a set of characters. Where all are ASCII characters, one state reads
them. -/
def growSet (backward : Bool) (ranges : List (Nat × Nat)) (strings : List (List (Nat × Nat)))
    (s : Size) : Size :=
  if ranges.all fun r => r.2 < 0x80 then s.state.byBytes ranges.length
  else if backward then Letters.Backward.grow strings s
  else Letters.Forward.grow strings s

/-- Grows an automaton by a repetition of what `grow` adds; `isLong` says that each round takes at
least one byte. -/
def growLoop (grow : Size → Size) (isLong : Bool) (least : Nat) (most : Option Nat) (s : Size) :
    Size :=
  match most with
  | none =>
    if 0 < least then (Size.growTimes grow least s).branch 2
    else if isLong then grow (s.branch 2)
    else (((grow s).branch 2).branch 2).state
  | some most =>
    if least = most then Size.growTimes grow least s
    else if least = 0 ∧ most = 1 then (grow (s.branch 2)).state
    else
      let start := if least = 0 then s.state else Size.growTimes grow least s
      Size.growTimes (fun s => grow (s.branch 2)) (most - least) start.state

mutual

/-- Grows an automaton by a form. -/
def grow (backward : Bool) : Form → Size → Size
  | .empty, s => s.state
  | .text cs, s => { s with states := s.states + (bytesOf cs).length }
  | .set ranges strings, s => growSet backward ranges strings s
  | .look _, s => s.state
  | .loop r least most _, s =>
    growLoop (r.grow backward) (r.traits.least.any (0 < ·)) least most s
  | .group r, s => if backward then r.grow backward s else (r.grow backward s.state).state
  | .seq fs, s => if backward then growInReverse fs s else growInOrder fs s
  | .alt fs, s =>
    match fs.mapM text? with
    | some texts => Words.grow (if backward then texts.map List.reverse else texts) s
    | none => growAny backward 0 fs.length fs s

/-- Grows an automaton by forms, from the first to the last. -/
def growInOrder : List Form → Size → Size
  | [], s => s
  | f :: fs, s => growInOrder fs (f.grow false s)

/-- Grows an automaton by forms, from the last to the first. -/
def growInReverse : List Form → Size → Size
  | [], s => s
  | f :: fs, s => f.grow true (growInReverse fs s)

/-- Grows an automaton by alternatives, of which `before` are there and `count` in all. The branch
into them, and the place where they meet, come after the first two. -/
def growAny (backward : Bool) (before count : Nat) : List Form → Size → Size
  | [], s => s
  | f :: fs, s =>
    let s := f.grow backward s
    let s := if before = 1 then (s.branch count).state else s
    growAny backward (before + 1) count fs s

end

/-- The size of the automaton of a form. It reads on to a start of the form unless every match
begins at the edge of the text where it starts to read. -/
def size (backward : Bool) (f : Form) : Size :=
  let isAnchored := if backward then f.traits.toEnd else f.traits.fromStart
  let start : Size :=
    if isAnchored then Size.state {} else ((Size.branch 2 {}).state).byBytes 1
  let whole := if backward then f.grow backward start else (f.grow backward start.state).state
  whole.state

/-- Whether neither automaton of a form is too large. -/
def fits (f : Form) : Bool := (f.size false).fits && (f.size true).fits

end KeyedState.Regex.Form

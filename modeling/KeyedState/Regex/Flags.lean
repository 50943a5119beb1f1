import KeyedState.Regex.Fault

/-!
# Flags of a pattern

Flags are switched on and off by letters between `(?` and `)` or `:`. They hold to the end of the
group at hand.
-/

namespace KeyedState.Regex

/-- The flags in force at a place of a pattern. -/
structure Flags where
  /-- Letters match in either case. -/
  ignoreCase : Bool := false
  /-- The line conditions look at lines and not at the whole text. -/
  multiLine : Bool := false
  /-- The dot matches the line feed too. -/
  dotAll : Bool := false
  /-- Classes are those of Unicode and not of ASCII. -/
  unicode : Bool := true
  /-- A carriage return also ends a line. -/
  crlf : Bool := false
  /-- Repetitions prefer few rounds, and many behind a question mark. -/
  swapGreed : Bool := false
  /-- Blanks and comments in the pattern are skipped. -/
  verbose : Bool := false
deriving DecidableEq, Inhabited

namespace Flags

/-- The flags with the flag of a letter switched; none when no flag has that letter. -/
def switch? (on : Bool) (f : Flags) : Char → Option Flags
  | 'i' => some { f with ignoreCase := on }
  | 'm' => some { f with multiLine := on }
  | 's' => some { f with dotAll := on }
  | 'u' => some { f with unicode := on }
  | 'R' => some { f with crlf := on }
  | 'U' => some { f with swapGreed := on }
  | 'x' => some { f with verbose := on }
  | _ => none

/-- Switches the flags of letters; those behind a minus sign are switched off. Each letter and the
minus sign stand at most once, and the minus sign not at the end. -/
def switchAll (on : Bool) (seen : List Char) : List Char → Flags → Except Fault Flags
  | [], f => .ok f
  | '-' :: cs, f =>
    if !on || cs.isEmpty then .error .invalidFlags else switchAll false seen cs f
  | c :: cs, f =>
    if seen.contains c then .error .invalidFlags
    else match switch? on f c with
      | none => .error .invalidFlags
      | some f => switchAll on (c :: seen) cs f

end Flags

end KeyedState.Regex

import KeyedState.Regex.Basic
import KeyedState.Unicode.Utf8

/-!
# Forms of patterns

A `Form` is what an automaton is built from: a pattern in which neighbouring characters are one
text, alternatives of single characters are one set, and what alternatives have in common at their
start stands in front of them once. `Form.concat`, `Form.anyOf`, `Form.repeated` and `Form.ofSet`
put forms together and keep it so. `Form.traits` says what is known of all texts that a form
matches.
-/

namespace KeyedState.Regex

/-- The form of a pattern. -/
inductive Form where
  /-- Nothing. -/
  | empty
  /-- The characters of these code points, one after the other. -/
  | text (cs : List Nat)
  /-- A character of a set, given by its intervals and by their parts as intervals of bytes. -/
  | set (ranges : List (Nat × Nat)) (strings : List (List (Nat × Nat)))
  /-- A condition on a place. -/
  | look (l : Look)
  /-- A form again and again; `greedy` when it prefers many rounds. -/
  | loop (r : Form) (least : Nat) (most : Option Nat) (greedy : Bool)
  /-- A capturing group. -/
  | group (r : Form)
  /-- Several forms, one after the other. -/
  | seq (fs : List Form)
  /-- Any of several forms. -/
  | alt (fs : List Form)
deriving Inhabited

namespace Form

/-! ## What is known of a form -/

/-- What is known of all texts that a form matches. -/
structure Traits where
  /-- The least number of bytes; none when the form matches nothing. -/
  least : Option Nat
  /-- Whether the form only matches the empty text. -/
  isBlank : Bool
  /-- Whether every match begins with the condition for the start of the text. -/
  fromStart : Bool
  /-- Whether every match ends with the condition for the end of the text. -/
  toEnd : Bool
deriving DecidableEq

namespace Traits

/-- Of nothing. -/
def blank : Traits := ⟨some 0, true, false, false⟩

/-- Of one form and then another one. -/
def andThen (s t : Traits) : Traits where
  least := s.least.bind fun m => t.least.map (m + ·)
  isBlank := s.isBlank && t.isBlank
  fromStart := s.fromStart || (s.isBlank && t.fromStart)
  toEnd := t.toEnd || (t.isBlank && s.toEnd)

/-- Of one form or another one. -/
def orElse (s t : Traits) : Traits where
  least := s.least.bind fun m => t.least.map (min m)
  isBlank := s.isBlank && t.isBlank
  fromStart := s.fromStart && t.fromStart
  toEnd := s.toEnd && t.toEnd

/-- Of a form again and again. -/
def repeated (t : Traits) (least : Nat) (most : Option Nat) : Traits where
  least := t.least.map (least * ·)
  isBlank := most.isSome && t.isBlank
  fromStart := least != 0 && t.fromStart
  toEnd := least != 0 && t.toEnd

end Traits

mutual

/-- What is known of a form. -/
def traits : Form → Traits
  | .empty => .blank
  | .text cs => ⟨some (cs.foldl (fun n c => n + Utf8.width c) 0), false, false, false⟩
  | .set ranges _ => ⟨ranges.head?.map fun r => Utf8.width r.1, false, false, false⟩
  | .look l => ⟨some 0, true, l = .textStart, l = .textEnd⟩
  | .loop r least most _ => r.traits.repeated least most
  | .group r => r.traits
  | .seq fs => traitsInOrder fs
  | .alt [] => ⟨none, false, false, false⟩
  | .alt (f :: fs) => traitsOfAny f.traits fs

/-- What is known of forms one after the other. -/
def traitsInOrder : List Form → Traits
  | [] => .blank
  | f :: fs => f.traits.andThen (traitsInOrder fs)

/-- What is known of a form with traits `t` or any of further ones. -/
def traitsOfAny (t : Traits) : List Form → Traits
  | [] => t
  | f :: fs => traitsOfAny (t.orElse f.traits) fs

end

mutual

/-- Whether some condition of a form satisfies a test. -/
def anyLook (test : Look → Bool) : Form → Bool
  | .look l => test l
  | .loop r _ _ _ => r.anyLook test
  | .group r => r.anyLook test
  | .seq fs => anyLookOf test fs
  | .alt fs => anyLookOf test fs
  | _ => false

/-- Whether some condition of some form satisfies a test. -/
def anyLookOf (test : Look → Bool) : List Form → Bool
  | [] => false
  | f :: fs => f.anyLook test || anyLookOf test fs

end

mutual

/-- Whether two forms are the same. A group is the same as no other one. -/
def isSame : Form → Form → Bool
  | .empty, .empty => true
  | .text cs, .text ds => cs == ds
  | .set r _, .set s _ => r == s
  | .look k, .look l => k == l
  | .loop r least most greedy, .loop r' least' most' greedy' =>
    least == least' && most == most' && greedy == greedy' && r.isSame r'
  | .seq fs, .seq gs => areSame fs gs
  | .alt fs, .alt gs => areSame fs gs
  | _, _ => false

/-- Whether forms are the same one by one. -/
def areSame : List Form → List Form → Bool
  | [], [] => true
  | f :: fs, g :: gs => f.isSame g && areSame fs gs
  | _, _ => false

end

/-! ## Putting forms together -/

/-- A character of a set. -/
def ofSet (s : CharSet) : Form :=
  match s.scalarRanges with
  | [(lo, hi)] =>
    if lo = hi then .text [lo] else .set [(lo, hi)] (Utf8.strings [(lo, hi)])
  | ranges => .set ranges (Utf8.strings ranges)

/-- The members of a sequence; any other form but the empty one is its only member. -/
def members : Form → List Form
  | .empty => []
  | .seq fs => fs
  | f => [f]

/-- Puts a form in front of others; texts next to each other become one. -/
def prepend : Form → List Form → List Form
  | .text cs, .text ds :: fs => .text (cs ++ ds) :: fs
  | f, fs => f :: fs

/-- Forms one after the other. -/
def concat (fs : List Form) : Form :=
  match (fs.flatMap members).foldr prepend [] with
  | [] => .empty
  | [f] => f
  | fs => .seq fs

/-- A form again and again. What only matches the empty text is needed once at most. -/
def repeated (r : Form) (least : Nat) (most : Option Nat) (greedy : Bool) : Form :=
  let (least, most) :=
    if r.traits.isBlank then (min least 1, some (min (most.getD 1) 1)) else (least, most)
  if least = 0 ∧ most = some 0 then .empty
  else if least = 1 ∧ most = some 1 then r
  else .loop r least most greedy

/-- The alternatives of a form; any other form is its only one. -/
def alternatives : Form → List Form
  | .alt fs => fs
  | f => [f]

/-- The code point of a text of one character. -/
def single? : Form → Option Nat
  | .text [c] => some c
  | _ => none

/-- The intervals of a set. -/
def ranges? : Form → Option (List (Nat × Nat))
  | .set ranges _ => some ranges
  | _ => none

/-- How many members two sequences have in common at their starts. -/
def commonLength : List Form → List Form → Nat
  | f :: fs, g :: gs => if f.isSame g then commonLength fs gs + 1 else 0
  | _, _ => 0

/-- The members of a sequence of several forms. -/
def sequence? : Form → Option (List Form)
  | .seq fs => some fs
  | _ => none

/-- Several sequences cut behind what they all have in common at their starts, if that is
something. -/
def splitCommon? (fs : List Form) : Option (List Form × List (List Form)) :=
  match fs.mapM sequence? with
  | none => none
  | some [] => none
  | some (first :: others) =>
    let n := others.foldl (fun n o => min n (commonLength first o)) first.length
    if n = 0 then none else some (first.take n, (first :: others).map (·.drop n))

/-- Any of several forms. What they have in common at their starts is put in front of them; `fuel`
bounds how often that is done within each other. -/
def anyOfFrom (fuel : Nat) (fs : List Form) : Form :=
  match fs.flatMap alternatives with
  | [] => .set [] []
  | [f] => f
  | fs =>
    match fs.mapM single?, fs.mapM ranges? with
    | some cs, _ => ofSet ⟨cs.map fun c => (c, c)⟩
    | none, some ranges => ofSet ⟨ranges.flatten⟩
    | none, none =>
      match fuel, splitCommon? fs with
      | fuel + 1, some (start, rests) => concat (start ++ [anyOfFrom fuel (rests.map concat)])
      | _, _ => .alt fs

/-- Any of several forms. -/
def anyOf (fs : List Form) : Form :=
  let first := (fs.flatMap alternatives).head?.getD .empty
  anyOfFrom first.members.length fs

end Form

end KeyedState.Regex

/-!
# Regular expressions over any alphabet of steps

`Regex.Expr σ ℓ` is the shape of a regular expression whose steps forward are given by `σ` and
whose conditions on the place between two steps are given by `ℓ`. Both the expression that a
pattern denotes and the moves it allows on one text have this shape.

A set of places is a natural number, read in binary: place `i` is in the set when bit `i` is one.
`Expr.reach` runs an expression from a set of places and gives the set of places where it can end.
-/

namespace KeyedState.Regex

/-- The shape of a regular expression. -/
inductive Expr (σ ℓ : Type) where
  /-- Stays where it is. -/
  | empty
  /-- One step forward. -/
  | step (s : σ)
  /-- Stays where a condition holds. -/
  | stay (l : ℓ)
  /-- One expression after the other. -/
  | seq (a b : Expr σ ℓ)
  /-- One of two expressions. -/
  | alt (a b : Expr σ ℓ)
  /-- An expression again and again, at least `least` times and at most `most` times, where there
  is a bound. -/
  | loop (r : Expr σ ℓ) (least : Nat) (most : Option Nat)
  /-- A capturing group, which matches what its expression matches. -/
  | group (r : Expr σ ℓ)
deriving DecidableEq, Inhabited

namespace Expr

variable {σ ℓ : Type}

/-- The expression with its steps and conditions replaced. -/
def map {σ' ℓ' : Type} (f : σ → σ') (g : ℓ → ℓ') : Expr σ ℓ → Expr σ' ℓ'
  | .empty => .empty
  | .step s => .step (f s)
  | .stay l => .stay (g l)
  | .seq a b => .seq (map f g a) (map f g b)
  | .alt a b => .alt (map f g a) (map f g b)
  | .loop r least most => .loop (map f g r) least most
  | .group r => .group (map f g r)

/-- All expressions in order. -/
def seqAll : List (Expr σ ℓ) → Expr σ ℓ
  | [] => .empty
  | [r] => r
  | r :: rs => .seq r (seqAll rs)

/-- Any of the expressions, of which there is at least one. -/
def altAll (r : Expr σ ℓ) : List (Expr σ ℓ) → Expr σ ℓ
  | [] => r
  | s :: rs => .alt r (altAll s rs)

end Expr

/-- Applies a function to a set of places so many times, and stops early at a set that the function
keeps. -/
def repeatTimes (f : Nat → Nat) : Nat → Nat → Nat
  | 0, places => places
  | n + 1, places =>
    let next := f places
    if next = places then places else repeatTimes f n next

/-- The places reached by up to so many applications of a function. The places of `frontier` are
those whose images are not in `reached` yet. -/
def spread (f : Nat → Nat) : Nat → Nat → Nat → Nat
  | 0, reached, _ => reached
  | n + 1, reached, frontier =>
    if frontier = 0 then reached
    else
      let next := f frontier
      -- the bits of `next` that `reached` lacks
      let fresh := next ^^^ (next &&& reached)
      spread f n (reached ||| fresh) fresh

/-- The places where an expression can end that starts at one of the given places, on a text with
so many places. A step is the set of places from which it may be taken, and a condition the set of
places at which it holds. -/
def Expr.reach (count : Nat) : Expr Nat Nat → Nat → Nat
  | .empty, places => places
  | .step s, places => (places &&& s) <<< 1
  | .stay l, places => places &&& l
  | .seq a b, places =>
    let middle := reach count a places
    if middle = 0 then 0 else reach count b middle
  | .alt a b, places => reach count a places ||| reach count b places
  | .loop r least most, places =>
    let start := repeatTimes (reach count r) least places
    let further := match most with
      | none => count
      | some n => min count (n - least)
    spread (reach count r) further start start
  | .group r, places => reach count r places

end KeyedState.Regex

import KeyedState.Decimal.Integer
import KeyedState.KeyMap.Basic

/-!
# Positions of rows

A condition on a row names the row by its position: the first, the last, or an index from zero.
`PositionMap` maps positions to values, in the order first, last, increasing indexes.
-/

namespace KeyedState

/-- The position of a row. -/
inductive ListPosition where
  /-- The first row. -/
  | first
  /-- The last row. -/
  | last
  /-- The row at an index, counted from zero. -/
  | index (n : U64)
deriving DecidableEq

namespace ListPosition

/-- Reads a position: a word, `-1` for the last row, or an index. -/
def parse (key : String) : Except IntegerFault ListPosition :=
  if key = "first" then .ok .first
  else if key = "last" ∨ key = "-1" then .ok .last
  else (readU64 key).map .index

/-- The text of a position. -/
def text : ListPosition → String
  | .first => "first"
  | .last => "last"
  | .index n => toString n.val

/-- The index of the row at a position in a list of so many rows, if there is one. -/
def resolve (length : Nat) : ListPosition → Option Nat
  | .first => if length = 0 then none else some 0
  | .last => if length = 0 then none else some (length - 1)
  | .index n => if n.val < length then some n.val else none

/-- The place of a position in the order of positions. -/
def rank : ListPosition → Nat
  | .first => 0
  | .last => 1
  | .index n => n.val + 2

/-- Different positions have different ranks. -/
theorem rank_injective : ∀ {p q : ListPosition}, p.rank = q.rank → p = q
  | .first, .first, _ => rfl
  | .last, .last, _ => rfl
  | .index _, .index _, h => congrArg index (Fin.ext (Nat.add_right_cancel h))
  | .first, .last, h => Nat.noConfusion h
  | .last, .first, h => Nat.noConfusion h
  | .first, .index _, h => Nat.noConfusion h
  | .index _, .first, h => Nat.noConfusion h
  | .last, .index _, h => Nat.noConfusion (Nat.succ.inj h)
  | .index _, .last, h => Nat.noConfusion (Nat.succ.inj h)

end ListPosition

/-- A map from positions, in the order of positions. -/
abbrev PositionMap (α : Type) := List (ListPosition × α)

namespace PositionMap

variable {α : Type}

/-- The map with a value at a position and all else unchanged. -/
def insert (p : ListPosition) (v : α) : PositionMap α → PositionMap α
  | [] => [(p, v)]
  | (q, w) :: es =>
    if p.rank < q.rank then (p, v) :: (q, w) :: es
    else if p = q then (p, v) :: es
    else (q, w) :: insert p v es

/-- The value at a position. -/
def get? (p : ListPosition) : PositionMap α → Option α
  | [] => none
  | (q, w) :: es => if p = q then some w else get? p es

@[simp] theorem get?_insert (p q : ListPosition) (v : α) (m : PositionMap α) :
    get? q (insert p v m) = if q = p then some v else get? q m := by
  induction m with
  | nil => simp [insert, get?]
  | cons e es ih =>
    obtain ⟨r, w⟩ := e
    simp only [insert]
    split
    · simp [get?]
    · split
      · rename_i h
        subst h
        simp only [get?]
        split <;> rfl
      · rename_i h
        simp only [get?, ih]
        split
        · rename_i hq
          subst hq
          rw [if_neg fun h' => h h'.symm]
        · rfl

end PositionMap

end KeyedState

import KeyedState.Decimal.Integer
import KeyedState.Error
import KeyedState.KeyMap.Basic
import KeyedState.Text.Blank

/-!
# Rows and the choice of one row

A context holds a list of rows. `ListOperation` puts a row in at either end, and `ListDeletion`
selects the row to take out: by its place, or as the first row with a given field.
-/

namespace KeyedState

/-- One row: field names and values. -/
abbrev Row := KeyMap String

/-- The insertion of a row. -/
inductive ListOperation where
  /-- Before the first row. -/
  | addFirst (row : Row)
  /-- Behind the last row. -/
  | addLast (row : Row)
deriving DecidableEq

/-- The rows after an insertion. -/
def ListOperation.apply (rows : List Row) : ListOperation → List Row
  | .addFirst row => row :: rows
  | .addLast row => rows ++ [row]

/-- The choice of the row to delete. -/
inductive ListDeletion where
  /-- The first row. -/
  | first
  /-- The last row. -/
  | last
  /-- The row at an index, counted from zero. -/
  | index (n : U64)
  /-- The first row in which a property has a value. -/
  | where_ (property value : String)
deriving DecidableEq

namespace ListDeletion

/-- The place of the chosen row, if there is one. -/
def position (rows : List Row) : ListDeletion → Option Nat
  | .first => if rows.isEmpty then none else some 0
  | .last => if rows.isEmpty then none else some (rows.length - 1)
  | .index n => if n.val < rows.length then some n.val else none
  | .where_ property value => rows.findIdx? fun row => row.get? property == some value

/-- The choice by an index given as text, with blanks around it. -/
def ofText (text : String) : Except ConfigurationError ListDeletion :=
  match readU64 (trimBlank text) with
  | .ok n => .ok (.index n)
  | .error fault => .error (.invalidListIndex text fault.message)

/-- The place of the chosen row is one of the list. -/
theorem position_lt {rows : List Row} {d : ListDeletion} {i : Nat}
    (h : d.position rows = some i) : i < rows.length := by
  cases d with
  | first =>
    cases rows with
    | nil => simp [position] at h
    | cons r rs => simp [position] at h; simp; omega
  | last =>
    cases rows with
    | nil => simp [position] at h
    | cons r rs => simp [position] at h; simp; omega
  | index n =>
    simp only [position] at h
    split at h
    · cases h; assumption
    · cases h
  | where_ p v =>
    obtain ⟨hi, -⟩ := List.findIdx?_eq_some_iff_getElem.1 h
    exact hi

end ListDeletion

end KeyedState

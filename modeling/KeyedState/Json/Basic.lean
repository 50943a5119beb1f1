import KeyedState.Decimal.Layout
import KeyedState.KeyMap.Basic

/-!
# JSON values

A number of a `Json` value is an exact integer or a finite binary floating-point number. The
members of an object stand in increasing key order, one for each key; `Json.Ordered` says so of a
value at every depth, and `Json.ofMembers` builds an object from members in any order.
-/

namespace KeyedState

/-- A JSON value. -/
inductive Json where
  /-- The null value. -/
  | null
  /-- A truth value. -/
  | bool (b : Bool)
  /-- An integer. -/
  | int (n : Int)
  /-- A floating-point number. -/
  | real (x : Binary64)
  /-- A text. -/
  | str (s : String)
  /-- A sequence of values. -/
  | array (items : List Json)
  /-- Named values, in the order of their names. -/
  | object (members : List (String × Json))
deriving Inhabited

namespace Json

/-- The object of the given members; the last value of a name wins. -/
def ofMembers (members : List (String × Json)) : Json :=
  .object (Entries.insertAll members [])

/-- The object of the entries of a map. -/
def ofMap {α : Type} (value : α → Json) (m : KeyMap α) : Json :=
  .object (m.toList.map fun e => (e.1, value e.2))

/-- The value of a member. -/
def get? (name : String) : Json → Option Json
  | .object members => Entries.get? name members
  | _ => none

/-- The text of a text value. -/
def str? : Json → Option String
  | .str s => some s
  | _ => none

mutual

/-- The members of every object in the value stand in strictly increasing order of their names. -/
def Ordered : Json → Prop
  | .array items => OrderedItems items
  | .object members => Entries.Ordered members ∧ OrderedMembers members
  | _ => True

/-- Every item is ordered. -/
def OrderedItems : List Json → Prop
  | [] => True
  | v :: vs => Ordered v ∧ OrderedItems vs

/-- The value of every member is ordered. -/
def OrderedMembers : List (String × Json) → Prop
  | [] => True
  | m :: ms => Ordered m.2 ∧ OrderedMembers ms

end

theorem orderedItems_iff {items : List Json} : OrderedItems items ↔ ∀ v ∈ items, v.Ordered := by
  induction items with
  | nil => simp [OrderedItems]
  | cons v vs ih => simp [OrderedItems, ih]

theorem orderedMembers_iff {members : List (String × Json)} :
    OrderedMembers members ↔ ∀ m ∈ members, m.2.Ordered := by
  induction members with
  | nil => simp [OrderedMembers]
  | cons m ms ih => simp [OrderedMembers, ih]

/-- How numbers are written: positionally from five places after the point to sixteen digits
before it, a whole number with a fraction of zero. -/
def numbers : Decimal.Layout := ⟨some (-5), some 16, true⟩

end Json

end KeyedState

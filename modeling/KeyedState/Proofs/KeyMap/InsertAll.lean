import KeyedState.KeyMap.Basic

/-!
# Putting in several pairs

Look-ups after pairs are put into a map one after the other: the last pair of a key counts
(`KeyMap.get?_insertAll`), so all that matters of several rounds is the pairs in order.
-/

namespace KeyedState

variable {α β : Type}

namespace Entries

theorem get?_append (k : String) (es fs : List (String × α)) :
    get? k (es ++ fs) = (get? k es).or (get? k fs) := by
  induction es with
  | nil => rfl
  | cons e es ih =>
    obtain ⟨c, v⟩ := e
    rw [List.cons_append, get?, get?, ih]
    split
    · rfl
    · rfl

/-- Values may be mapped before or after an insertion. -/
theorem insert_map (f : α → β) (k : String) (v : α) (es : List (String × α)) :
    insert k (f v) (es.map fun e => (e.1, f e.2)) =
      (insert k v es).map fun e => (e.1, f e.2) := by
  induction es with
  | nil => rfl
  | cons e es ih =>
    obtain ⟨c, w⟩ := e
    rw [List.map_cons, insert, insert, ih]
    split
    · rfl
    · split
      · rfl
      · rfl

theorem insertAll_map (f : α → β) (ps es : List (String × α)) :
    insertAll (ps.map fun p => (p.1, f p.2)) (es.map fun e => (e.1, f e.2)) =
      (insertAll ps es).map fun e => (e.1, f e.2) := by
  induction ps generalizing es with
  | nil => rfl
  | cons p ps ih =>
    have hstep := ih (insert p.1 p.2 es)
    rw [← insert_map] at hstep
    exact hstep

end Entries

namespace KeyMap

/-- The value of a key is the one that was put in last, or the one that was there before. -/
theorem get?_insertAll (m : KeyMap α) (pairs : List (String × α)) (k : String) :
    (m.insertAll pairs).get? k = (Entries.get? k pairs.reverse).or (m.get? k) := by
  induction pairs generalizing m with
  | nil => rfl
  | cons p ps ih =>
    rw [insertAll_cons, ih, get?_insert, List.reverse_cons, Entries.get?_append, Option.or_assoc]
    congr 1
    rw [Entries.get?, Entries.get?]
    split
    · rfl
    · rfl

theorem get?_ofList (pairs : List (String × α)) (k : String) :
    (ofList pairs).get? k = Entries.get? k pairs.reverse := by
  rw [ofList, get?_insertAll, get?_empty, Option.or_none]

theorem insertAll_append (m : KeyMap α) (ps qs : List (String × α)) :
    m.insertAll (ps ++ qs) = (m.insertAll ps).insertAll qs := by
  induction ps generalizing m with
  | nil => rfl
  | cons p ps ih => exact ih (m.insert p.1 p.2)

/-- A key that is in none of the pairs keeps its value. -/
theorem get?_insertAll_of_not_mem (m : KeyMap α) {pairs : List (String × α)} {k : String}
    (h : k ∉ pairs.map Prod.fst) : (m.insertAll pairs).get? k = m.get? k := by
  have hnone : Entries.get? k pairs.reverse = none := by
    rw [Entries.get?_eq_none_iff, List.map_reverse, List.mem_reverse]
    exact h
  rw [get?_insertAll, hnone, Option.none_or]

/-- A key that is in the pairs has its last value among them, whatever it had before. -/
theorem get?_insertAll_of_mem_keys (m : KeyMap α) {pairs : List (String × α)} {k : String}
    (h : k ∈ pairs.map Prod.fst) : (m.insertAll pairs).get? k = Entries.get? k pairs.reverse := by
  have hsome : Entries.get? k pairs.reverse ≠ none := by
    rw [ne_eq, Entries.get?_eq_none_iff, List.map_reverse, List.mem_reverse, Classical.not_not]
    exact h
  obtain ⟨v, hv⟩ := Option.ne_none_iff_exists'.1 hsome
  rw [get?_insertAll, hv, Option.some_or]

/-- Pairs with different keys may be put in in either order. -/
theorem insertAll_comm (m : KeyMap α) {ps qs : List (String × α)}
    (h : ∀ k ∈ ps.map Prod.fst, k ∉ qs.map Prod.fst) :
    (m.insertAll ps).insertAll qs = (m.insertAll qs).insertAll ps := by
  refine ext_get? fun k => ?_
  by_cases hp : k ∈ ps.map Prod.fst
  · rw [get?_insertAll_of_not_mem _ (h k hp), get?_insertAll_of_mem_keys _ hp,
      get?_insertAll_of_mem_keys _ hp]
  · rw [get?_insertAll_of_not_mem _ hp, get?_insertAll _ qs, get?_insertAll_of_not_mem _ hp,
      ← get?_insertAll]

theorem ofList_append (ps qs : List (String × α)) :
    ofList (ps ++ qs) = (ofList ps).insertAll qs :=
  insertAll_append ..

/-- The map of ordered pairs lists just these. -/
theorem toList_ofList {pairs : List (String × α)} (h : Entries.Ordered pairs) :
    (ofList pairs).toList = pairs :=
  congrArg toList (ofList_toList ⟨pairs, h⟩)

/-- Of ordered pairs each is found after they have been put in. -/
theorem get?_insertAll_of_mem (m : KeyMap α) {pairs : List (String × α)}
    (h : Entries.Ordered pairs) {e : String × α} (he : e ∈ pairs) :
    (m.insertAll pairs).get? e.1 = some e.2 := by
  have hpair : (ofList pairs).get? e.1 = some e.2 := by
    rw [← mem_toList, toList_ofList h]
    exact he
  rw [get?_ofList] at hpair
  rw [get?_insertAll, hpair, Option.some_or]

end KeyMap

/-- Ordered pairs stay as they are when they are put in one after the other. -/
theorem Entries.Ordered.insertAll_nil {pairs : List (String × α)} (h : Ordered pairs) :
    Entries.insertAll pairs [] = pairs :=
  KeyMap.toList_ofList h

end KeyedState

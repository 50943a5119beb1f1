import KeyedState.KeyMap.Entries

/-!
# Maps ordered by key

A `KeyMap α` is a finite map from strings to `α`. Its entries stand in strictly increasing key
order, so a map has one representation: two maps with the same look-ups are equal
(`KeyMap.ext_get?`). Each operation has a lemma that says what it does to look-ups.
-/

namespace KeyedState

/-- A finite map from strings, listed in key order. -/
structure KeyMap (α : Type) where
  /-- The entries, by increasing key. -/
  entries : List (String × α)
  /-- The keys increase strictly. -/
  ordered : Entries.Ordered entries
deriving DecidableEq

namespace KeyMap

variable {α β : Type}

/-- The map without entries. -/
def empty : KeyMap α := ⟨[], .nil⟩

instance : EmptyCollection (KeyMap α) := ⟨empty⟩

instance : Inhabited (KeyMap α) := ⟨∅⟩

/-- The value under `k`. -/
def get? (m : KeyMap α) (k : String) : Option α := Entries.get? k m.entries

/-- Whether some value stands under `k`. -/
def contains (m : KeyMap α) (k : String) : Bool := (m.get? k).isSome

/-- The map with `v` under `k` and all else unchanged. -/
def insert (m : KeyMap α) (k : String) (v : α) : KeyMap α :=
  ⟨Entries.insert k v m.entries, m.ordered.insert k v⟩

/-- The map with the pairs put in one after the other; the last value of a key wins. -/
def insertAll (m : KeyMap α) (pairs : List (String × α)) : KeyMap α :=
  ⟨Entries.insertAll pairs m.entries, m.ordered.insertAll pairs⟩

/-- The map of the given pairs; the last value of a key wins. -/
def ofList (pairs : List (String × α)) : KeyMap α := insertAll ∅ pairs

/-- The entries by increasing key. -/
def toList (m : KeyMap α) : List (String × α) := m.entries

/-- The entries that satisfy `p`. -/
def filter (m : KeyMap α) (p : String → α → Bool) : KeyMap α :=
  ⟨m.entries.filter fun e => p e.1 e.2, m.ordered.filter _⟩

/-- The map without an entry for `k`. -/
def erase (m : KeyMap α) (k : String) : KeyMap α := m.filter fun k' _ => k' ≠ k

/-- The map with `f` applied to every value. -/
def map (m : KeyMap α) (f : String → α → β) : KeyMap β :=
  ⟨m.entries.map fun e => (e.1, f e.1 e.2), m.ordered.map f⟩

/-- The keys in increasing order. -/
def keys (m : KeyMap α) : List String := m.entries.map (·.1)

/-- The number of entries. -/
def size (m : KeyMap α) : Nat := m.entries.length

/-- Whether the map has no entry. -/
def isEmpty (m : KeyMap α) : Bool := m.entries.isEmpty

/-! ## What each operation does to look-ups -/

theorem ext_get? {m n : KeyMap α} (h : ∀ k, m.get? k = n.get? k) : m = n := by
  obtain ⟨es, he⟩ := m
  obtain ⟨fs, hf⟩ := n
  have : es = fs := he.ext hf h
  subst this
  rfl

@[simp, grind =] theorem get?_empty (k : String) : (∅ : KeyMap α).get? k = none := rfl

@[simp, grind =] theorem get?_insert (m : KeyMap α) (k k' : String) (v : α) :
    (m.insert k v).get? k' = if k' = k then some v else m.get? k' :=
  Entries.get?_insert k k' v m.entries

theorem size_insert_le (m : KeyMap α) (k : String) (v : α) : (m.insert k v).size ≤ m.size + 1 :=
  Entries.length_insert_le k v m.entries

@[simp, grind =] theorem get?_filter (m : KeyMap α) (p : String → α → Bool) (k : String) :
    (m.filter p).get? k = (m.get? k).filter (p k) :=
  Entries.get?_filter m.ordered _ k

@[simp, grind =] theorem get?_erase (m : KeyMap α) (k k' : String) :
    (m.erase k).get? k' = if k' = k then none else m.get? k' := by
  rw [erase, get?_filter]
  by_cases h : k' = k
  · cases hm : m.get? k' <;> simp [h, Option.filter]
  · cases hm : m.get? k' <;> simp [h, Option.filter]

@[simp, grind =] theorem get?_map (m : KeyMap α) (f : String → α → β) (k : String) :
    (m.map f).get? k = (m.get? k).map (f k) :=
  Entries.get?_map f k m.entries

@[simp] theorem insertAll_nil (m : KeyMap α) : m.insertAll [] = m := rfl

@[simp] theorem insertAll_cons (m : KeyMap α) (p : String × α) (ps : List (String × α)) :
    m.insertAll (p :: ps) = (m.insert p.1 p.2).insertAll ps := rfl

theorem mem_toList {m : KeyMap α} {k : String} {v : α} :
    (k, v) ∈ m.toList ↔ m.get? k = some v :=
  Entries.mem_iff_get?_eq_some m.ordered

theorem mem_keys {m : KeyMap α} {k : String} : k ∈ m.keys ↔ (m.get? k).isSome := by
  rw [← Decidable.not_iff_not, keys, ← Entries.get?_eq_none_iff]
  simp [get?]

/-- No key is listed twice. -/
theorem nodup_keys (m : KeyMap α) : m.keys.Nodup := by
  rw [keys, List.Nodup, List.pairwise_map]
  exact m.ordered.imp fun h => String.ne_of_lt h

/-- A map of the entries of a map is that map again. -/
@[simp] theorem ofList_toList (m : KeyMap α) : ofList m.toList = m := by
  suffices H : ∀ (es : List (String × α)), Entries.Ordered es → ∀ n : KeyMap α,
      ∀ k, (n.insertAll es).get? k = (Entries.get? k es).or (n.get? k) by
    refine ext_get? fun k => ?_
    rw [ofList, H m.toList m.ordered ∅ k, get?_empty, Option.or_none]
    rfl
  intro es
  induction es with
  | nil => intro _ n k; simp
  | cons e es ih =>
    intro h n k
    obtain ⟨c, w⟩ := e
    have ht : Entries.Ordered es := (List.pairwise_cons.1 h).2
    rw [insertAll_cons, ih ht, get?_insert]
    by_cases hk : k = c
    · subst hk
      have hrest : Entries.get? k es = none := h.get?_head_eq_none
      simp [Entries.get?, hrest]
    · simp [Entries.get?, hk]

end KeyMap

end KeyedState

/-!
# Lists of entries in key order

Finite maps from strings are stored as lists of entries in strictly increasing key order, where
strings are compared by code point. This file holds the operations on plain lists of entries:
look-up, insertion at the place that the order gives, and what both do to look-ups and to the
order. Two ordered lists with the same look-ups are the same list (`Entries.Ordered.ext`).

Recursive types, which cannot hold a map of themselves, store such a list directly.
-/

namespace KeyedState

namespace Entries

variable {α β : Type}

/-- The value of the first entry with key `k`. -/
def get? (k : String) : List (String × α) → Option α
  | [] => none
  | (k', v) :: es => if k = k' then some v else get? k es

/-- Puts `v` under `k`, at the place that the key order gives it; a present value is replaced. -/
def insert (k : String) (v : α) : List (String × α) → List (String × α)
  | [] => [(k, v)]
  | (k', v') :: es =>
    if k < k' then (k, v) :: (k', v') :: es
    else if k = k' then (k, v) :: es
    else (k', v') :: insert k v es

/-- Puts the pairs in one after the other, so that the last value of a key wins. -/
def insertAll (pairs : List (String × α)) (es : List (String × α)) : List (String × α) :=
  pairs.foldl (fun es p => insert p.1 p.2 es) es

/-- The keys increase strictly; in particular none occurs twice. -/
def Ordered (es : List (String × α)) : Prop :=
  es.Pairwise fun a b => a.1 < b.1

instance (es : List (String × α)) : Decidable (Ordered es) :=
  inferInstanceAs (Decidable (es.Pairwise fun a b => a.1 < b.1))

/-! ## Look-ups -/

@[simp] theorem get?_nil (k : String) : get? k ([] : List (String × α)) = none := rfl

theorem get?_insert (k k' : String) (v : α) (es : List (String × α)) :
    get? k' (insert k v es) = if k' = k then some v else get? k' es := by
  induction es with
  | nil => simp [insert, get?]
  | cons e es ih =>
    obtain ⟨c, w⟩ := e
    simp only [insert]
    split
    · simp [get?]
    · split
      · subst_vars; by_cases h : k' = c <;> simp [get?, h]
      · rename_i hk
        by_cases h : k' = c
        · subst h
          rw [get?, get?, if_pos rfl, if_pos rfl, if_neg fun e => hk e.symm]
        · rw [get?, get?, if_neg h, if_neg h, ih]

/-- An insertion adds at most one entry. -/
theorem length_insert_le (k : String) (v : α) (es : List (String × α)) :
    (insert k v es).length ≤ es.length + 1 := by
  induction es with
  | nil => exact Nat.le_refl _
  | cons e es ih =>
    obtain ⟨c, w⟩ := e
    simp only [insert]
    split
    · exact Nat.le_refl _
    · split
      · exact Nat.le_succ _
      · exact Nat.succ_le_succ ih

theorem get?_eq_some_of_mem {es : List (String × α)} (h : Ordered es) {k : String} {v : α}
    (hm : (k, v) ∈ es) : get? k es = some v := by
  induction es with
  | nil => simp at hm
  | cons e es ih =>
    obtain ⟨c, w⟩ := e
    obtain ⟨hc, ht⟩ := List.pairwise_cons.1 h
    rcases List.mem_cons.1 hm with he | hm
    · cases he; simp [get?]
    · have hlt : c < k := hc _ hm
      have : k ≠ c := fun he => String.lt_irrefl c (he ▸ hlt)
      simp [get?, this, ih ht hm]

theorem mem_of_get?_eq_some {es : List (String × α)} {k : String} {v : α}
    (h : get? k es = some v) : (k, v) ∈ es := by
  induction es with
  | nil => simp at h
  | cons e es ih =>
    obtain ⟨c, w⟩ := e
    by_cases hk : k = c
    · subst hk; simp_all [get?]
    · simp only [get?, hk, if_false] at h
      exact List.mem_cons_of_mem _ (ih h)

theorem mem_iff_get?_eq_some {es : List (String × α)} (h : Ordered es) {k : String} {v : α} :
    (k, v) ∈ es ↔ get? k es = some v :=
  ⟨get?_eq_some_of_mem h, mem_of_get?_eq_some⟩

theorem get?_eq_none_iff {es : List (String × α)} {k : String} :
    get? k es = none ↔ k ∉ es.map (·.1) := by
  induction es with
  | nil => simp
  | cons e es ih =>
    obtain ⟨c, w⟩ := e
    by_cases hk : k = c <;> simp_all [get?]

/-- In an ordered list the first key occurs nowhere else. -/
theorem Ordered.get?_head_eq_none {e : String × α} {es : List (String × α)}
    (h : Ordered (e :: es)) : get? e.1 es = none :=
  get?_eq_none_iff.2 fun hm => by
    obtain ⟨e', he', hkey⟩ := List.mem_map.1 hm
    exact String.lt_irrefl _ (hkey ▸ (List.pairwise_cons.1 h).1 e' he')

theorem get?_map (f : String → α → β) (k : String) (es : List (String × α)) :
    get? k (es.map fun e => (e.1, f e.1 e.2)) = (get? k es).map (f k) := by
  induction es with
  | nil => rfl
  | cons e es ih =>
    obtain ⟨c, w⟩ := e
    by_cases hk : k = c
    · subst hk; simp [get?]
    · simp [get?, hk, ih]

theorem get?_filter {es : List (String × α)} (h : Ordered es) (p : String × α → Bool)
    (k : String) : get? k (es.filter p) = (get? k es).filter fun v => p (k, v) := by
  induction es with
  | nil => rfl
  | cons e es ih =>
    obtain ⟨c, w⟩ := e
    have ht : Ordered es := (List.pairwise_cons.1 h).2
    by_cases hk : k = c
    · subst hk
      by_cases hp : p (k, w)
      · simp [hp, get?, Option.filter]
      · have hrest : get? k es = none := h.get?_head_eq_none
        simp [hp, get?, ih ht, hrest, Option.filter]
    · by_cases hp : p (c, w) <;> simp [hp, get?, hk, ih ht]

theorem get?_filterMap {es : List (String × α)} (h : Ordered es) (f : α → Option β)
    (k : String) : get? k (es.filterMap fun e => (f e.2).map (e.1, ·)) = (get? k es).bind f := by
  induction es with
  | nil => rfl
  | cons e es ih =>
    obtain ⟨c, w⟩ := e
    have ht : Ordered es := (List.pairwise_cons.1 h).2
    rw [List.filterMap_cons, get?]
    cases hw : f w with
    | none =>
      by_cases hk : k = c
      · subst hk
        have hrest : get? k es = none := h.get?_head_eq_none
        simp [ih ht, hrest, hw]
      · simp [ih ht, hk]
    | some v => by_cases hk : k = c <;> simp [get?, ih ht, hk, hw]

/-! ## Order -/

theorem ordered_iff_keys {es : List (String × α)} :
    Ordered es ↔ (es.map (·.1)).Pairwise (· < ·) :=
  List.pairwise_map.symm

theorem Ordered.nil : Ordered ([] : List (String × α)) := List.Pairwise.nil

theorem mem_insert {k : String} {v : α} {e : String × α} {es : List (String × α)}
    (h : e ∈ insert k v es) : e = (k, v) ∨ e ∈ es := by
  induction es with
  | nil => simpa [insert] using h
  | cons c es ih =>
    obtain ⟨c, w⟩ := c
    simp only [insert] at h
    split at h
    · simpa using h
    · split at h
      · rcases List.mem_cons.1 h with h | h
        · exact .inl h
        · exact .inr (List.mem_cons_of_mem _ h)
      · rcases List.mem_cons.1 h with h | h
        · exact .inr (h ▸ List.mem_cons_self)
        · exact (ih h).imp id (List.mem_cons_of_mem _)

theorem Ordered.insert (k : String) (v : α) {es : List (String × α)} (h : Ordered es) :
    Ordered (insert k v es) := by
  induction es with
  | nil => simp [Entries.insert, Ordered]
  | cons e es ih =>
    obtain ⟨c, w⟩ := e
    obtain ⟨hc, ht⟩ := List.pairwise_cons.1 h
    simp only [Entries.insert]
    split
    case isTrue hlt =>
      refine List.pairwise_cons.2 ⟨fun e he => ?_, h⟩
      rcases List.mem_cons.1 he with rfl | he
      · exact hlt
      · exact String.lt_trans hlt (hc e he)
    case isFalse hlt =>
      split
      case isTrue heq =>
        subst heq
        exact List.pairwise_cons.2 ⟨hc, ht⟩
      case isFalse hne =>
        refine List.pairwise_cons.2 ⟨fun e he => ?_, ih ht⟩
        rcases mem_insert he with rfl | he
        · refine Classical.byContradiction fun hge => hne ?_
          exact String.le_antisymm (String.not_lt.1 hge) (String.not_lt.1 hlt)
        · exact hc e he

theorem Ordered.insertAll (pairs : List (String × α)) {es : List (String × α)} (h : Ordered es) :
    Ordered (insertAll pairs es) := by
  induction pairs generalizing es with
  | nil => exact h
  | cons p ps ih => exact ih (h.insert p.1 p.2)

theorem Ordered.filter {es : List (String × α)} (h : Ordered es) (p : String × α → Bool) :
    Ordered (es.filter p) :=
  List.Pairwise.filter p h

theorem Ordered.filterMap {es : List (String × α)} (h : Ordered es) (f : α → Option β) :
    Ordered (es.filterMap fun e => (f e.2).map (e.1, ·)) := by
  refine List.Pairwise.filterMap _ (fun a b hab c hc d hd => ?_) h
  obtain ⟨_, -, rfl⟩ := Option.map_eq_some_iff.1 hc
  obtain ⟨_, -, rfl⟩ := Option.map_eq_some_iff.1 hd
  exact hab

theorem Ordered.map (f : String → α → β) {es : List (String × α)} (h : Ordered es) :
    Ordered (es.map fun e => (e.1, f e.1 e.2)) :=
  List.Pairwise.map _ (fun _ _ h => h) h

/-- Ordered lists with the same look-ups are the same list: each must start with the least key. -/
theorem Ordered.ext {es fs : List (String × α)} (he : Ordered es) (hf : Ordered fs)
    (h : ∀ k, get? k es = get? k fs) : es = fs := by
  induction es generalizing fs with
  | nil =>
    cases fs with
    | nil => rfl
    | cons f fs => have := h f.1; simp [get?] at this
  | cons e es ih =>
    obtain ⟨c, w⟩ := e
    cases fs with
    | nil => have := h c; simp [get?] at this
    | cons f fs =>
      obtain ⟨d, x⟩ := f
      obtain ⟨hc, ht⟩ := List.pairwise_cons.1 he
      obtain ⟨hd, hu⟩ := List.pairwise_cons.1 hf
      have hcd : c = d := by
        refine Classical.byContradiction fun hne => ?_
        have h₁ : (c, w) ∈ (d, x) :: fs := mem_of_get?_eq_some ((h c).symm.trans (by simp [get?]))
        have h₂ : (d, x) ∈ (c, w) :: es := mem_of_get?_eq_some ((h d).trans (by simp [get?]))
        rcases List.mem_cons.1 h₁ with h₁ | h₁
        · exact hne (congrArg (·.1) h₁)
        rcases List.mem_cons.1 h₂ with h₂ | h₂
        · exact hne (congrArg (·.1) h₂).symm
        exact String.lt_asymm (hc _ h₂) (hd _ h₁)
      subst hcd
      have hwx : w = x := by have := h c; simpa [get?] using this
      subst hwx
      have hrest : es = fs := ih ht hu fun k => by
        by_cases hk : k = c
        · subst hk
          exact he.get?_head_eq_none.trans hf.get?_head_eq_none.symm
        · have := h k; simpa [get?, hk] using this
      rw [hrest]

end Entries

end KeyedState

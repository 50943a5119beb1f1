import KeyedState.Proofs.KeyMap.InsertAll
import KeyedState.Settings.Layer

/-!
# Merging into layers

Setting values in a table one after the other, at names or at paths, is one recursion, in which each
value lands under a key of the table (`Entries.mergeAll`). Under a key to which only the name of the
same spelling leads there stands afterwards what stood there before, or that merged with the value
of the name (`Entries.get?_mergeAll`).
-/

namespace KeyedState

namespace Entries

variable {α β : Type} {key : String → String} {new : String → Option α → β → α}

/-- What entries become when values land under keys one after the other, each as something new that
is made of it and of what stood there. -/
def mergeAll (key : String → String) (new : String → Option α → β → α) :
    List (String × β) → List (String × α) → List (String × α)
  | [], es => es
  | (name, v) :: ps, es =>
    mergeAll key new ps (insert (key name) (new name (get? (key name) es) v) es)

/-- Under a key to which only its own name leads there is what that name made of it. -/
theorem get?_mergeAll {k : String} (hk : key k = k) {ps : List (String × β)} (hps : Ordered ps)
    (honly : ∀ p ∈ ps, key p.1 = k → p.1 = k) (es : List (String × α)) :
    get? k (mergeAll key new ps es) =
      ((get? k ps).map (new k (get? k es))).or (get? k es) := by
  induction ps generalizing es with
  | nil => rfl
  | cons p ps ih =>
    obtain ⟨name, v⟩ := p
    obtain ⟨hhead, hrest⟩ := List.forall_mem_cons.1 honly
    rw [mergeAll, ih (List.pairwise_cons.1 hps).2 hrest, get?_insert]
    by_cases hname : k = name
    · subst hname
      -- names are in order, so none of the others is this one and leads there
      have hnone : get? k ps = none := hps.get?_head_eq_none
      rw [hnone, hk, get?, if_pos rfl, if_pos rfl]
      rfl
    · have hne : k ≠ key name := fun h => hname (hhead h.symm).symm
      rw [get?, if_neg hname, if_neg hne]

/-- Values that do not depend on what stood there are put in one after the other. -/
theorem mergeAll_eq_insertAll {f : β → α} {ps : List (String × β)}
    (h : ∀ p ∈ ps, ∀ old, new p.1 old p.2 = f p.2) (es : List (String × α)) :
    mergeAll key new ps es = insertAll (ps.map fun p => (key p.1, f p.2)) es := by
  induction ps generalizing es with
  | nil => rfl
  | cons p ps ih =>
    obtain ⟨name, v⟩ := p
    obtain ⟨hhead, hrest⟩ := List.forall_mem_cons.1 h
    rw [mergeAll, hhead, ih hrest]
    rfl

end Entries

namespace Setting

/-! ## Tables -/

/-- Merging entries into a table. -/
theorem mergeEntries_table (es ps : List (String × Setting)) :
    mergeEntries (.table es) ps =
      .table (Entries.mergeAll lowerCase (fun _ => mergeInto) ps es) := by
  induction ps generalizing es with
  | nil =>
    rw [mergeEntries]
    rfl
  | cons p ps ih =>
    rw [mergeEntries]
    exact ih _

/-- The name in a table under which a value lands when it is set at the path that a text spells. -/
def rootName (text : String) : String := lowerCase (pathOf text).1

/-- What stands under that name when the value is set. -/
def setUnder (text : String) (old : Option Setting) (v : Setting) : Setting :=
  match (pathOf text).2 with
  | [] => mergeInto old v
  | s :: rest => setAt v (old.getD .null) s rest

theorem set_table (es : List (String × Setting)) (text : String) (v : Setting) :
    (table es).set text v =
      .table (Entries.insert (rootName text)
        (setUnder text (Entries.get? (rootName text) es) v) es) := by
  show setAt v (table es) (.key (pathOf text).1) (pathOf text).2 = _
  rw [setUnder]
  cases (pathOf text).2 with
  | nil =>
    rw [setAt]
    rfl
  | cons s rest =>
    rw [setAt]
    rfl

/-- Setting values in a table at paths. -/
theorem setAll_table (es ps : List (String × Setting)) :
    (table es).setAll ps = .table (Entries.mergeAll rootName setUnder ps es) := by
  induction ps generalizing es with
  | nil => rfl
  | cons p ps ih =>
    rw [setAll, set_table]
    exact ih _

/-- A text without a further step is a name. -/
theorem setUnder_of_name {name : String} (h : (pathOf name).2 = []) (old : Option Setting)
    (v : Setting) : setUnder name old v = mergeInto old v := by
  rw [setUnder, h]

/-! ## Values of members -/

theorem ofMembers_eq_map (ms : List (String × Json)) :
    ofMembers ms = ms.map fun m => (m.1, ofJson m.2) := by
  induction ms with
  | nil => rfl
  | cons m ms ih =>
    rw [ofMembers, ih]
    rfl

theorem ofItems_eq_map (vs : List Json) : ofItems vs = vs.map ofJson := by
  induction vs with
  | nil => rfl
  | cons v vs ih =>
    rw [ofItems, ih]
    rfl

theorem ordered_ofMembers {ms : List (String × Json)} (h : Entries.Ordered ms) :
    Entries.Ordered (ofMembers ms) := by
  rw [ofMembers_eq_map]
  exact h.map fun _ => ofJson

theorem get?_ofMembers (k : String) (ms : List (String × Json)) :
    Entries.get? k (ofMembers ms) = (Entries.get? k ms).map ofJson := by
  rw [ofMembers_eq_map]
  exact Entries.get?_map (fun _ => ofJson) k ms

end Setting

end KeyedState

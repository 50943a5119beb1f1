import KeyedState.Proofs.Template.Rendered

/-!
# Values with all scalars spelled as texts

What is left of a value when it goes through a tree of templates: numbers and truth values are
spelled as texts, and nulls are left out of collections (`Json.spelled?`). That is what making a tree
of the value and going back comes to (`TemplateNode.map_toJson_ofJson?`).
-/

namespace KeyedState

namespace Json

mutual

/-- The value with every number and truth value spelled as a text and without every null in a
collection; nothing for null itself. -/
def spelled? : Json → Option Json
  | .null => none
  | .str s => some (.str s)
  | .bool b => some (.str (writeBool b))
  | .int n => some (.str (toString n))
  | .real x => some (.str (x.render numbers))
  | .array items => some (.array (spelledItems items))
  | .object members => some (.object (spelledMembers members))

/-- The items that are not null, spelled. -/
def spelledItems : List Json → List Json
  | [] => []
  | v :: vs =>
    match spelled? v with
    | none => spelledItems vs
    | some w => w :: spelledItems vs

/-- The members that are not null, spelled. -/
def spelledMembers : List (String × Json) → List (String × Json)
  | [] => []
  | (name, v) :: ms =>
    match spelled? v with
    | none => spelledMembers ms
    | some w => (name, w) :: spelledMembers ms

end

theorem spelledMembers_eq_filterMap (ms : List (String × Json)) :
    spelledMembers ms = ms.filterMap fun m => m.2.spelled?.map (m.1, ·) := by
  induction ms with
  | nil => rfl
  | cons m ms ih =>
    rw [spelledMembers, List.filterMap_cons, ih]
    cases m.2.spelled? <;> rfl

/-- Only null is left out. -/
theorem spelled?_eq_none_iff {v : Json} : v.spelled? = none ↔ v = .null := by
  cases v <;> simp [spelled?]

/-- A scalar is spelled as the text by which it takes part in other text. -/
theorem spelled?_of_scalarText? {v : Json} {text : String} (h : v.scalarText? = some text) :
    v.spelled? = some (.str text) := by
  cases v with
  | str s => exact congrArg (some ∘ Json.str) (Option.some.inj h)
  | bool b => exact congrArg (some ∘ Json.str) (Option.some.inj h)
  | int n => exact congrArg (some ∘ Json.str) (Option.some.inj h)
  | real x => exact congrArg (some ∘ Json.str) (Option.some.inj h)
  | _ => cases h

theorem exists_of_mem_spelledMembers {ms : List (String × Json)} {e : String × Json}
    (h : e ∈ spelledMembers ms) : ∃ v, (e.1, v) ∈ ms ∧ v.spelled? = some e.2 := by
  rw [spelledMembers_eq_filterMap] at h
  obtain ⟨m, hm, hspelled⟩ := List.mem_filterMap.1 h
  obtain ⟨w, hw, rfl⟩ := Option.map_eq_some_iff.1 hspelled
  exact ⟨m.2, hm, hw⟩

theorem get?_spelledMembers_of_none {ms : List (String × Json)} {k : String}
    (h : Entries.get? k ms = none) : Entries.get? k (spelledMembers ms) = none := by
  rw [Entries.get?_eq_none_iff] at h ⊢
  intro hk
  obtain ⟨e, he, rfl⟩ := List.mem_map.1 hk
  obtain ⟨v, hv, -⟩ := exists_of_mem_spelledMembers he
  exact h (List.mem_map.2 ⟨_, hv, rfl⟩)

/-- A value that is not null is found under its key, spelled. -/
theorem get?_spelledMembers_of_some {ms : List (String × Json)} {k : String} {v w : Json}
    (h : Entries.get? k ms = some v) (hw : v.spelled? = some w) :
    Entries.get? k (spelledMembers ms) = some w := by
  induction ms with
  | nil => cases h
  | cons m ms ih =>
    obtain ⟨name, u⟩ := m
    rw [Entries.get?] at h
    rw [spelledMembers]
    by_cases hk : k = name
    · rw [if_pos hk] at h
      cases h
      simp [hw, Entries.get?, hk]
    · rw [if_neg hk] at h
      cases u.spelled? with
      | none => exact ih h
      | some u' => simp [Entries.get?, hk, ih h]

theorem get?_spelledMembers {ms : List (String × Json)} (h : Entries.Ordered ms) (k : String) :
    Entries.get? k (spelledMembers ms) = (Entries.get? k ms).bind spelled? := by
  rw [spelledMembers_eq_filterMap, Entries.get?_filterMap h]

theorem ordered_spelledMembers {ms : List (String × Json)} (h : Entries.Ordered ms) :
    Entries.Ordered (spelledMembers ms) := by
  rw [spelledMembers_eq_filterMap]
  exact h.filterMap _

end Json

namespace TemplateNode

mutual

/-- Making a tree of a value and going back spells its scalars and leaves out nulls. -/
theorem map_toJson_ofJson? : ∀ v : Json, (ofJson? v).map toJson = v.spelled?
  | .null | .str _ | .bool _ | .int _ | .real _ => rfl
  | .array items => congrArg (some ∘ Json.array) (toItems_ofItems items)
  | .object members => congrArg (some ∘ Json.object) (toMembers_ofMembers members)

theorem toItems_ofItems : ∀ vs : List Json, toItems (ofItems vs) = Json.spelledItems vs
  | [] => rfl
  | v :: vs => by
    rw [ofItems, Json.spelledItems, ← map_toJson_ofJson? v]
    cases ofJson? v with
    | none => exact toItems_ofItems vs
    | some n => exact congrArg (n.toJson :: ·) (toItems_ofItems vs)

theorem toMembers_ofMembers :
    ∀ ms : List (String × Json), toMembers (ofMembers ms) = Json.spelledMembers ms
  | [] => rfl
  | (name, v) :: ms => by
    rw [ofMembers, Json.spelledMembers, ← map_toJson_ofJson? v]
    cases ofJson? v with
    | none => exact toMembers_ofMembers ms
    | some n => exact congrArg ((name, n.toJson) :: ·) (toMembers_ofMembers ms)

end

end TemplateNode

end KeyedState

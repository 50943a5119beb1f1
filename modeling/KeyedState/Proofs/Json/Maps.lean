import KeyedState.Json.Decode
import KeyedState.Proofs.Except

/-!
# Reading of maps

A map that is read from an object has an entry for each member, in their order
(`Decoder.exists_of_map_eq_ok`), and a map of values is the object as it stands (`Decoder.map_any`).
-/

namespace KeyedState

namespace Decoder

variable {α : Type} {read : Decoder α} {ms : List (String × Json)}

theorem keys_memberValues {es : List (String × α)} (h : memberValues read ms = .ok es) :
    es.map (·.1) = ms.map (·.1) := by
  induction ms generalizing es with
  | nil =>
    cases h
    rfl
  | cons m ms ih =>
    obtain ⟨name, v⟩ := m
    obtain ⟨a, -, h⟩ := exists_of_bind_eq_ok h
    obtain ⟨es, hes, h⟩ := exists_of_bind_eq_ok h
    cases h
    rw [List.map_cons, List.map_cons, ih hes]

theorem mem_memberValues {es : List (String × α)} (h : memberValues read ms = .ok es)
    {name : String} {v : Json} (hv : (name, v) ∈ ms) : ∃ a, read v = .ok a ∧ (name, a) ∈ es := by
  induction ms generalizing es with
  | nil => cases hv
  | cons m ms ih =>
    obtain ⟨a, ha, h⟩ := exists_of_bind_eq_ok h
    obtain ⟨es, hes, h⟩ := exists_of_bind_eq_ok h
    cases h
    rcases List.mem_cons.1 hv with rfl | hv
    · exact ⟨a, ha, List.mem_cons_self⟩
    · obtain ⟨b, hb, hmem⟩ := ih hes hv
      exact ⟨b, hb, List.mem_cons_of_mem _ hmem⟩

/-- The keys of entries that are read from ordered members are ordered. -/
theorem ordered_memberValues {es : List (String × α)} (h : memberValues read ms = .ok es)
    (hordered : Entries.Ordered ms) : Entries.Ordered es := by
  rw [Entries.ordered_iff_keys, keys_memberValues h]
  exact Entries.ordered_iff_keys.1 hordered

/-- A map that is read from ordered members has an entry for each, in their order. -/
theorem exists_of_map_eq_ok {m : KeyMap α} (h : Decoder.map read (.object ms) = .ok m)
    (hordered : Entries.Ordered ms) :
    ∃ es, memberValues read ms = .ok es ∧ m.toList = es ∧ Entries.Ordered es := by
  obtain ⟨es, hes, rfl⟩ := KeyedState.exists_of_map_eq_ok h
  have horderedEs := ordered_memberValues hes hordered
  refine ⟨es, hes, ?_, horderedEs⟩
  exact congrArg KeyMap.toList (KeyMap.ofList_toList ⟨es, horderedEs⟩)

theorem memberValues_any (ms : List (String × Json)) : memberValues any ms = .ok ms := by
  induction ms with
  | nil => rfl
  | cons m ms ih =>
    rw [memberValues, ih]
    rfl

/-- A map of values is read as it stands. -/
theorem map_any (h : Entries.Ordered ms) : map any (.object ms) = .ok ⟨ms, h⟩ := by
  rw [map, memberValues_any]
  exact congrArg Except.ok (KeyMap.ofList_toList ⟨ms, h⟩)

end Decoder

end KeyedState

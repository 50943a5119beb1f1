import KeyedState.Matching.Predicate
import KeyedState.Proofs.Json.Maps
import KeyedState.Proofs.Json.Spelled
import KeyedState.Proofs.KeyMap.InsertAll
import KeyedState.Proofs.Matching.ReadConditions

/-!
# Conditions with spelled scalars

Conditions are read from spelled members as from the members themselves, but that their descriptions
of patterns are spelled (`ContextConditions.decode_spelledMembers`). The predicates are then the same
(`PredicateSet.ofConditions_spelled`), if descriptions are read as the same matchers.
-/

namespace KeyedState

/-! ## Spelled conditions -/

/-- The descriptions of patterns, spelled. -/
def PatternConfig.spelled (config : PatternConfig) : PatternConfig :=
  ⟨Json.spelledMembers config.entries, Json.ordered_spelledMembers config.ordered⟩

/-- The conditions on rows with their descriptions spelled. -/
def ListConditions.spelled (conditions : ListConditions) : ListConditions :=
  conditions.map fun e => (e.1, e.2.spelled)

/-- The conditions with their descriptions spelled. -/
def ContextConditions.spelled (c : ContextConditions) : ContextConditions :=
  { c with property := c.property.map PatternConfig.spelled,
           list := c.list.map ListConditions.spelled }

/-! ## Fields -/

namespace Decoder

variable {β : Type}

/-- A field is read from the spelled value as from the value, up to a view of what is read; null,
which is left out, is read as the default. -/
structure Spells (read : Decoder β) (view : β → β) (d : β) : Prop where
  initial : view d = d
  null : ∀ {b}, read .null = .ok b → view b = d
  value : ∀ {v w b}, v.Ordered → v.spelled? = some w → read v = .ok b → read w = .ok (view b)

variable {read : Decoder β} {view : β → β}

/-- A field is read from spelled members as from the members. -/
theorem Spells.member {d b : β} (h : Spells read view d) {ms : List (String × Json)}
    (hordered : (Json.object ms).Ordered) {name : String}
    (hb : member read d (Entries.get? name ms) = .ok b) :
    Decoder.member read d (Entries.get? name (Json.spelledMembers ms)) = .ok (view b) := by
  rw [Json.get?_spelledMembers hordered.1]
  cases hv : Entries.get? name ms with
  | none =>
    rw [hv] at hb
    cases hb
    simp [h.initial]
  | some v =>
    rw [hv, member_some] at hb
    cases hw : v.spelled? with
    | none =>
      rw [Json.spelled?_eq_none_iff.1 hw] at hb
      simp [hw, h.null hb]
    | some w =>
      have hvOrdered : v.Ordered :=
        hordered.get? (show (Json.object ms).get? name = some v from hv)
      simp [hw, h.value hvOrdered hw hb]

theorem spells_string : Spells string id "" where
  initial := rfl
  null h := by cases h
  value {v w b} _ hw hb := by
    cases v with
    | str s =>
      cases hw
      exact hb
    | _ => cases hb

/-- An optional field is read from the spelled value as the field itself is. -/
theorem spells_optional (h : ∀ {v w b}, v.Ordered → v.spelled? = some w → read v = .ok b →
    read w = .ok (view b)) : Spells (optional read) (Option.map view) none where
  initial := rfl
  null h := by
    cases h
    rfl
  value {v w b} hordered hw hb := by
    have hread : (read v).map some = .ok b := by
      cases v with
      | null => cases hw
      | _ => exact hb
    obtain ⟨b, hv, rfl⟩ := KeyedState.exists_of_map_eq_ok hread
    have hspelled := h hordered hw hv
    cases w with
    | null => cases v <;> cases hw
    | _ => exact congrArg (Except.map some) hspelled

theorem spells_optionalString : Spells (optional string) id none := by
  have h : Spells (optional string) (Option.map id) none := spells_optional spells_string.value
  rwa [Option.map_id] at h

end Decoder

namespace ContextConditions

open Decoder (Spells)

/-- A count is spelled as it is written. -/
theorem spells_decodeCount : Spells decodeCount id none where
  initial := rfl
  null h := by
    cases h
    rfl
  value {v w b} _ hw hb := by
    cases v with
    | int n =>
      cases hw
      rw [decodeCount.eq_def] at hb
      dsimp only at hb
      split at hb
      · cases hb
      rename_i hlow
      split at hb
      · rename_i hhigh
        cases hb
        exact decodeCount_toString (Int.not_lt.1 hlow) hhigh
      · cases hb
    | str s =>
      cases hw
      exact hb
    | null => cases hw
    | _ => cases hb

theorem decodePatterns_spelled {v w : Json} {config : PatternConfig} (hordered : v.Ordered)
    (hw : v.spelled? = some w) (h : decodePatterns v = .ok config) :
    decodePatterns w = .ok config.spelled := by
  cases v with
  | object ms =>
    cases hw
    rw [decodePatterns, Decoder.map_any hordered.1] at h
    cases h
    exact Decoder.map_any (Json.ordered_spelledMembers hordered.1)
  | _ => cases h

theorem memberValues_decodePatterns_spelled {ms : List (String × Json)}
    (hordered : Json.OrderedMembers ms) {es : List (String × PatternConfig)}
    (h : Decoder.memberValues decodePatterns ms = .ok es) :
    Decoder.memberValues decodePatterns (Json.spelledMembers ms) =
      .ok (es.map fun e => (e.1, e.2.spelled)) := by
  induction ms generalizing es with
  | nil =>
    cases h
    rfl
  | cons m ms ih =>
    obtain ⟨name, v⟩ := m
    obtain ⟨config, hconfig, h⟩ := exists_of_bind_eq_ok h
    obtain ⟨es, hes, h⟩ := exists_of_bind_eq_ok h
    cases h
    rw [Json.spelledMembers]
    cases hw : v.spelled? with
    | none =>
      -- null is no map of descriptions
      rw [Json.spelled?_eq_none_iff.1 hw] at hconfig
      cases hconfig
    | some w =>
      have hhead := decodePatterns_spelled hordered.1 hw hconfig
      simp [Decoder.memberValues, hhead, ih hordered.2 hes]

theorem insert_spelled (p : ListPosition) (config : PatternConfig) (rows : ListConditions) :
    ListConditions.spelled (PositionMap.insert p config rows) =
      PositionMap.insert p config.spelled rows.spelled := by
  unfold ListConditions.spelled
  induction rows with
  | nil => rfl
  | cons e es ih =>
    obtain ⟨q, c⟩ := e
    simp only [PositionMap.insert, List.map_cons]
    split
    · rfl
    · split
      · rfl
      · rw [List.map_cons, ih]

theorem byPosition_spelled {conditions rows : ListConditions}
    {es : List (String × PatternConfig)} (h : byPosition conditions es = .ok rows) :
    byPosition conditions.spelled (es.map fun e => (e.1, e.2.spelled)) = .ok rows.spelled := by
  induction es generalizing conditions with
  | nil =>
    cases h
    rfl
  | cons e es ih =>
    obtain ⟨key, config⟩ := e
    rw [byPosition] at h
    rw [List.map_cons, byPosition]
    split at h
    · cases h
    · rename_i p hp
      rw [hp]
      dsimp only
      rw [← insert_spelled]
      exact ih h

theorem decodeList_spelled {v w : Json} {rows : ListConditions} (hordered : v.Ordered)
    (hw : v.spelled? = some w) (h : decodeList v = .ok rows) :
    decodeList w = .ok rows.spelled := by
  obtain ⟨m, hm, hrows⟩ := exists_of_bind_eq_ok h
  cases v with
  | object ms =>
    cases hw
    obtain ⟨es, hes, rfl, hesOrdered⟩ := Decoder.exists_of_map_eq_ok hm hordered.1
    have hspelled := memberValues_decodePatterns_spelled hordered.2 hes
    have hto : (KeyMap.ofList (m.toList.map fun e => (e.1, e.2.spelled))).toList =
        m.toList.map fun e => (e.1, e.2.spelled) :=
      KeyMap.toList_ofList (hesOrdered.map fun _ config => PatternConfig.spelled config)
    rw [decodeList, Decoder.map, hspelled, map_ok, ok_bind, hto]
    exact byPosition_spelled hrows
  | _ => cases hm

/-- **Conditions are read from spelled members as from the members**, with spelled descriptions. -/
theorem decode_spelledMembers {ms : List (String × Json)} (hordered : (Json.object ms).Ordered)
    {c : ContextConditions} (h : decode (.object ms) = .ok c) :
    decode (.object (Json.spelledMembers ms)) = .ok c.spelled := by
  obtain ⟨hsome, hread⟩ := (decode_object_iff hordered.1).1 h
  refine (decode_object_iff (Json.ordered_spelledMembers hordered.1)).2 ⟨?_, ?_⟩
  · obtain ⟨v, hv⟩ := Option.isSome_iff_exists.1 hsome
    have hstring := hread.hasContext
    rw [hv] at hstring
    cases v with
    | str s => exact Option.isSome_iff_exists.2 ⟨_, Json.get?_spelledMembers_of_some hv rfl⟩
    | _ => cases hstring
  · exact {
      hasContext := Decoder.spells_string.member hordered hread.hasContext
      hasProperty := Decoder.spells_optionalString.member hordered hread.hasProperty
      hasNotProperty := Decoder.spells_optionalString.member hordered hread.hasNotProperty
      property := (Decoder.spells_optional decodePatterns_spelled).member hordered hread.property
      list := (Decoder.spells_optional decodeList_spelled).member hordered hread.list
      updateCountEqualTo := spells_decodeCount.member hordered hread.updateCountEqualTo
      updateCountLessThan := spells_decodeCount.member hordered hread.updateCountLessThan
      updateCountMoreThan := spells_decodeCount.member hordered hread.updateCountMoreThan
      listSizeEqualTo := spells_decodeCount.member hordered hread.listSizeEqualTo
      listSizeLessThan := spells_decodeCount.member hordered hread.listSizeLessThan
      listSizeMoreThan := spells_decodeCount.member hordered hread.listSizeMoreThan }

end ContextConditions

/-! ## Predicates -/

/-- Descriptions are read as the same matchers once their scalars are spelled. -/
def ReadsSpelled (parser : PatternParser) : Prop :=
  ∀ description m, parser description = .ok m →
    ∃ description', description.spelled? = some description' ∧ parser description' = .ok m

section

variable {parser : PatternParser} (hparser : ReadsSpelled parser)
include hparser

theorem FieldPatterns.ofEntries_spelledMembers {es : List (String × Json)}
    {patterns : FieldPatterns} (h : ofEntries parser es = .ok patterns) :
    ofEntries parser (Json.spelledMembers es) = .ok patterns := by
  induction es generalizing patterns with
  | nil => exact h
  | cons e es ih =>
    obtain ⟨field, description⟩ := e
    obtain ⟨m, hm, h⟩ := exists_of_bind_eq_ok h
    obtain ⟨ms, hms, h⟩ := exists_of_bind_eq_ok h
    cases h
    obtain ⟨description', hspelled, hm'⟩ := hparser description m hm
    simp [Json.spelledMembers, hspelled, ofEntries, hm', ih hms]

theorem FieldPatterns.ofConfig_spelled {config : PatternConfig} {patterns : FieldPatterns}
    (h : ofConfig parser config = .ok patterns) : ofConfig parser config.spelled = .ok patterns :=
  ofEntries_spelledMembers hparser h

theorem Predicate.ofRows_spelled {conditions : ListConditions}
    {rows : List (ListPosition × FieldPatterns)} (h : ofRows parser conditions = .ok rows) :
    ofRows parser conditions.spelled = .ok rows := by
  induction conditions generalizing rows with
  | nil => exact h
  | cons e es ih =>
    obtain ⟨position, config⟩ := e
    obtain ⟨patterns, hpatterns, h⟩ := exists_of_bind_eq_ok h
    obtain ⟨rest, hrest, h⟩ := exists_of_bind_eq_ok h
    cases h
    have htail := ih hrest
    have hhead := FieldPatterns.ofConfig_spelled hparser hpatterns
    unfold ListConditions.spelled at htail ⊢
    simp [ofRows, hhead, htail]

theorem ConditionKind.extract_spelled {conditions : ContextConditions} {kind : ConditionKind}
    {predicate : Option Predicate} (h : kind.extract parser conditions = .ok predicate) :
    kind.extract parser conditions.spelled = .ok predicate := by
  cases kind with
  | property =>
    rw [extract] at h ⊢
    unfold ContextConditions.spelled
    generalize conditions.property = o at h ⊢
    cases o with
    | none => exact h
    | some config =>
      obtain ⟨patterns, hpatterns, rfl⟩ := exists_of_map_eq_ok h
      simp [FieldPatterns.ofConfig_spelled hparser hpatterns]
  | list =>
    rw [extract] at h ⊢
    unfold ContextConditions.spelled
    generalize conditions.list = o at h ⊢
    cases o with
    | none => exact h
    | some rows =>
      obtain ⟨patterns, hpatterns, rfl⟩ := exists_of_map_eq_ok h
      simp [Predicate.ofRows_spelled hparser hpatterns]
  | _ => exact h

theorem PredicateSet.ofConditions_spelled {conditions : ContextConditions} {ps : PredicateSet}
    (h : ofConditions parser conditions = .ok ps) :
    ofConditions parser conditions.spelled = .ok ps := by
  unfold ofConditions at h ⊢
  generalize ConditionKind.all = kinds at h ⊢
  induction kinds generalizing ps with
  | nil => exact h
  | cons kind kinds ih =>
    obtain ⟨predicate, hp, h⟩ := exists_of_bind_eq_ok h
    obtain ⟨rest, hrest, h⟩ := exists_of_bind_eq_ok h
    rw [collect, ConditionKind.extract_spelled hparser hp, ih hrest]
    exact h

end

end KeyedState

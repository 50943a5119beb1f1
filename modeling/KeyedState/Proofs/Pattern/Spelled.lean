import KeyedState.Pattern.Basic
import KeyedState.Proofs.Except
import KeyedState.Proofs.Json.Spelled

/-!
# Descriptions with spelled scalars

An operand may be a number or a truth value, or the text that spells it. A description that is read
as a pattern is read as the same pattern once its scalars are spelled (`Pattern.parser_spelled?`).
-/

namespace KeyedState

namespace Pattern

variable {members : List (String × Json)} {name : String} {v : Json}

theorem operandText_spelled {text : String} (h : operandText name v = .ok text) :
    v.spelled? = some (.str text) := by
  rw [operandText] at h
  split at h
  · rename_i t ht
    cases h
    exact Json.spelled?_of_scalarText? ht
  · cases h

/-- A truth value and the text that spells it are the same flag. -/
theorem operandFlag_spelled {b : Bool} (h : operandFlag name v = .ok b) :
    ∃ text, v.spelled? = some (.str text) ∧ operandFlag name (.str text) = .ok b := by
  cases v with
  | bool c =>
    cases h
    exact ⟨_, rfl, by cases b <;> rfl⟩
  | str text => exact ⟨text, rfl, h⟩
  | _ => cases h

theorem ignoresCase_spelledMembers {b : Bool} (h : ignoresCase members = .ok b) :
    ignoresCase (Json.spelledMembers members) = .ok b := by
  rw [ignoresCase] at h
  split at h
  · rename_i hnone
    rw [ignoresCase, Json.get?_spelledMembers_of_none hnone]
    exact h
  · rename_i flag hflag
    obtain ⟨text, hspelled, hread⟩ := operandFlag_spelled h
    rw [ignoresCase, Json.get?_spelledMembers_of_some hflag hspelled]
    exact hread

/-- An operator takes the spelled operand as it takes the operand. -/
theorem ofOperator_spelled {o : Operator} {operand : Json} {p : Pattern}
    (h : ofOperator members o operand = .ok p) :
    ∃ text, operand.spelled? = some (.str text) ∧
      ofOperator (Json.spelledMembers members) o (.str text) = .ok p := by
  cases o with
  | equalTo =>
    obtain ⟨expected, hexpected, h⟩ := exists_of_bind_eq_ok h
    obtain ⟨ignore, hignore, h⟩ := exists_of_bind_eq_ok h
    refine ⟨expected, operandText_spelled hexpected, ?_⟩
    rw [ofOperator, ignoresCase_spelledMembers hignore]
    exact h
  | contains =>
    obtain ⟨text, htext, rfl⟩ := exists_of_map_eq_ok h
    exact ⟨text, operandText_spelled htext, rfl⟩
  | doesNotContain =>
    obtain ⟨text, htext, rfl⟩ := exists_of_map_eq_ok h
    exact ⟨text, operandText_spelled htext, rfl⟩
  | «matches» =>
    obtain ⟨text, htext, h⟩ := exists_of_bind_eq_ok h
    exact ⟨text, operandText_spelled htext, h⟩
  | doesNotMatch =>
    obtain ⟨text, htext, h⟩ := exists_of_bind_eq_ok h
    exact ⟨text, operandText_spelled htext, h⟩
  | absent =>
    obtain ⟨flag, hflag, rfl⟩ := exists_of_map_eq_ok h
    obtain ⟨text, hspelled, hread⟩ := operandFlag_spelled hflag
    refine ⟨text, hspelled, ?_⟩
    rw [ofOperator, hread]
    rfl

/-- Spelling keeps the operators and spells their operands. -/
theorem operators_spelledMembers (members : List (String × Json)) :
    operators (Json.spelledMembers members) =
      (operators members).filterMap fun e => e.2.spelled?.map (e.1, ·) := by
  induction members with
  | nil => rfl
  | cons m ms ih =>
    obtain ⟨name, v⟩ := m
    unfold operators at ih ⊢
    rw [Json.spelledMembers]
    cases hv : v.spelled? with
    | none => cases hname : Operator.named? name <;> simp [ih, hv, hname]
    | some w => cases hname : Operator.named? name <;> simp [ih, hv, hname]

theorem ofJson_spelledMembers {p : Pattern} (h : ofJson (.object members) = .ok p) :
    ofJson (.object (Json.spelledMembers members)) = .ok p := by
  rw [ofJson] at h
  split at h
  · cases h
  · cases h
  rename_i o operand hoperators
  split at h
  · cases h
  rename_i hknown
  split at h
  · cases h
  rename_i hcase
  obtain ⟨text, hspelled, hread⟩ := ofOperator_spelled h
  have hoperators' : operators (Json.spelledMembers members) = [(o, .str text)] := by
    rw [operators_spelledMembers, hoperators]
    simp [hspelled]
  -- spelling brings in no key
  have hknown' : (Json.spelledMembers members).find?
      (fun m => (Operator.named? m.1).isNone && m.1 != caseInsensitive) = none := by
    rw [List.find?_eq_none] at hknown ⊢
    intro e he
    obtain ⟨v, hv, -⟩ := Json.exists_of_mem_spelledMembers he
    exact hknown (e.1, v) hv
  have hcase' : ¬ (o ≠ .equalTo ∧
      (Entries.get? caseInsensitive (Json.spelledMembers members)).isSome) := by
    rintro ⟨ho, hsome⟩
    refine hcase ⟨ho, ?_⟩
    cases hget : Entries.get? caseInsensitive members with
    | none => simp [Json.get?_spelledMembers_of_none hget] at hsome
    | some v => rfl
  rw [ofJson, hoperators']
  simp only [hknown', if_neg hcase', hread]

/-- What is read as a matcher is read as the same matcher once its scalars are spelled. -/
theorem parser_spelled? {description : Json} {m : Matcher} (h : parser description = .ok m) :
    ∃ description', description.spelled? = some description' ∧ parser description' = .ok m := by
  obtain ⟨p, hp, rfl⟩ := exists_of_map_eq_ok h
  cases description with
  | object members =>
    refine ⟨_, rfl, ?_⟩
    rw [parser, ofJson_spelledMembers hp]
    rfl
  | _ => cases hp

end Pattern

end KeyedState

import KeyedState.Proofs.Json.Maps
import KeyedState.Proofs.KeyMap.InsertAll
import KeyedState.Proofs.Matching.Meaning
import KeyedState.Proofs.Matching.ReadConditions
import KeyedState.Proofs.Template.Renders

/-!
# Descriptions of equality

A description that asks for equality with a text is rendered to one that asks for equality with what
the text renders to (`Pattern.renders_equality`), and is then matched by just that
(`PatternConfig.isMatched_equalities`).
-/

namespace KeyedState

namespace Pattern

/-- The description of what equals an operand. -/
def equality (operand : Json) : Json := .object [("equalTo", operand)]

theorem test_equalTo {expected : String} {value : Option String} :
    test (.equalTo expected false) value = true ↔ value = some expected := by
  cases value with
  | none => simp [test]
  | some actual => simpa [test] using eq_comm

/-- A text is all that the description of its equality accepts. -/
theorem exists_matcher_equality {expected : String} {value : Option String} :
    (∃ m, parser (equality (.str expected)) = .ok m ∧ m value = true) ↔ value = some expected := by
  have hread : parser (equality (.str expected)) = .ok (test (.equalTo expected false)) := rfl
  simp [hread, test_equalTo]

theorem renders_equality {f : String → Except StateError String}
    (hname : f "equalTo" = .ok "equalTo") {operand : Json} {text : String}
    (h : Renders f operand (.str text)) : Renders f (equality operand) (equality (.str text)) :=
  .object (.cons ⟨hname, h⟩ .nil) (List.pairwise_singleton ..)

end Pattern

/-- The descriptions of fields by texts that they equal. -/
def PatternConfig.equalities (texts : KeyMap String) : PatternConfig :=
  texts.map fun _ text => Pattern.equality (.str text)

/-- Fields are matched by the texts that they equal. -/
theorem PatternConfig.isMatched_equalities {texts fields : KeyMap String} :
    (equalities texts).IsMatched Pattern.parser fields ↔
      ∀ field text, texts.get? field = some text → fields.get? field = some text := by
  unfold IsMatched equalities
  simp only [KeyMap.get?_map, Option.map_eq_some_iff]
  constructor
  · intro h field text htext
    exact Pattern.exists_matcher_equality.1 (h field _ ⟨text, htext, rfl⟩)
  · rintro h field _ ⟨text, htext, rfl⟩
    exact Pattern.exists_matcher_equality.2 (h field text htext)

/-- The description of one field by a text that it equals. -/
def PatternConfig.equalTo (field text : String) : PatternConfig :=
  .equalities (.ofList [(field, text)])

theorem PatternConfig.isMatched_equalTo {field text : String} {fields : KeyMap String}
    (h : fields.get? field = some text) : (equalTo field text).IsMatched Pattern.parser fields := by
  refine isMatched_equalities.2 fun name value hvalue => ?_
  rw [← KeyMap.mem_toList, KeyMap.toList_ofList (List.pairwise_singleton ..),
    List.mem_singleton] at hvalue
  cases hvalue
  exact h

theorem PatternConfig.renders_equalTo {f : String → Except StateError String}
    (hname : f "equalTo" = .ok "equalTo") {field template text : String}
    (hfield : f field = .ok field) (htext : f template = .ok text) :
    Renders f (.object [(field, Pattern.equality (.str template))])
      (.object (equalTo field text).entries) :=
  .object (.cons ⟨hfield, Pattern.renders_equality hname (.str htext)⟩ .nil)
    (equalTo field text).ordered

end KeyedState

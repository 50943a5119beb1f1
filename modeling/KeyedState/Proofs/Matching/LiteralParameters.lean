import KeyedState.Proofs.Matching.Meaning
import KeyedState.Proofs.Matching.Spelled
import KeyedState.Proofs.Pattern.Spelled
import KeyedState.Proofs.Template.Literal

/-!
# Parameters without placeholders

Rendering turns numbers and truth values into texts and leaves out nulls, and only then are the
parameters read. For parameters in which no placeholder is complete that makes no difference: what is
evaluated is what the parameters are read as where they stand (`StateMatcher.matchRequest_of_literal`).
-/

namespace KeyedState

theorem Pattern.readsSpelled_parser : ReadsSpelled Pattern.parser :=
  fun _ _ h => parser_spelled? h

namespace StateMatcher

/-- **Rendering does not change the meaning of parameters without placeholders.** If the parameters
are read as conditions and these as predicates, a match against a visible context is answered, and
says whether the predicates hold of that context. -/
theorem matchRequest_of_literal (wall : Instant) (s : MemoryStore Context)
    (request parameters : Json) (id : String) (x : Context) (c : ContextConditions)
    (p : PredicateSet) (hordered : parameters.Ordered)
    (hliteral : parameters.AllTexts Template.IsLiteral)
    (hid : parameters.get? "hasContext" = some (.str id)) (hne : id ≠ "")
    (hno : parameters.get? "hasNotContext" = none)
    (hc : ContextConditions.ofJson parameters = .ok c)
    (hp : PredicateSet.ofConditions Pattern.parser c = .ok p) (hx : s.get? id = some x) :
    (({} : StateMatcher).matchRequest request parameters).run MemoryStore.backend wall s =
      (.ok (p.evaluate x), s) := by
  cases parameters with
  | object members =>
    have hidLiteral : Template.IsLiteral id :=
      (hliteral.of_mem (Entries.mem_of_get?_eq_some hid)).2
    have hrendered := renderJson_of_literal hordered hliteral (contextModel request x)
    have hread : ContextConditions.ofJson (.object (Json.spelledMembers members)) = .ok c.spelled :=
      mapError_eq_ok_iff.2
        (ContextConditions.decode_spelledMembers hordered (mapError_eq_ok_iff.1 hc))
    have hpredicates := PredicateSet.ofConditions_spelled Pattern.readsSpelled_parser hp
    rw [run_matchRequest_of_visible hid hno (hidLiteral.render_eq _) hne hx]
    simp only [conditionsHold, hrendered, Json.spelled?, Option.getD_some, hread, hpredicates,
      mapError_ok, ok_bind, pure_eq_ok]
  | _ => cases hid

/-- The question whether the order is open and has two rows and few updates, with a number, a truth
value, a null and a count that is written as a text. -/
def openQuestion : Json :=
  .object
    [("hasContext", .str "order-7"), ("hasProperty", .null), ("listSizeEqualTo", .int 2),
     ("property", .object
       [("state", .object [("caseInsensitive", .bool true), ("equalTo", .str "Open")])]),
     ("updateCountLessThan", .str " 3 ")]

/-- The order matches: the number, the truth value, the null and the count are read the same after
rendering, where the first two are texts and the null is gone. -/
theorem matchRequest_openQuestion :
    openQuestion.Ordered ∧ openQuestion.AllTexts Template.IsLiteral ∧
      ∃ c p x, ContextConditions.ofJson openQuestion = .ok c ∧
        PredicateSet.ofConditions Pattern.parser c = .ok p ∧ openOrder.get? "order-7" = some x ∧
        (({} : StateMatcher).matchRequest orderRequest openQuestion).run MemoryStore.backend .epoch
          openOrder = (.ok (p.evaluate x), openOrder) ∧ p.evaluate x = true := by
  have hordered : openQuestion.Ordered := by
    simp only [openQuestion, Json.Ordered, Json.OrderedMembers]
    decide
  have hliteral : openQuestion.AllTexts Template.IsLiteral := by
    simp [openQuestion, Json.AllTexts, Json.AllTextsMembers, Template.isLiteral_of_not_mem]
  refine ⟨hordered, hliteral, _, _, _, rfl, rfl, rfl, ?_, ?_⟩
  · exact matchRequest_of_literal .epoch openOrder orderRequest openQuestion "order-7" _ _ _ hordered
      hliteral rfl (by decide) rfl rfl rfl rfl
  · decide +kernel

end StateMatcher

end KeyedState

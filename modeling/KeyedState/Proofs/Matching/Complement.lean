import KeyedState.Proofs.Matching.Meaning
import KeyedState.Proofs.Template.Literal
import KeyedState.Proofs.Template.Models
import KeyedState.Proofs.Template.Renders

/-!
# The two questions of existence

Whether a context exists and whether it does not are opposite questions, though the first one renders
its parameters a second time, with more in view, and evaluates what they are then read as
(`StateMatcher.matchRequest_hasNotContext`). The second rendering cannot fail where the first did not,
and it leaves nothing to be evaluated.
-/

namespace KeyedState

namespace StateMatcher

/-- The question whether a context exists. -/
def existence (template : String) : Json := .object [("hasContext", .str template)]

/-- The question whether a context does not exist. -/
def absence (template : String) : Json := .object [("hasNotContext", .str template)]

/-- Where a context exists whose id could be rendered, the question of its existence is affirmed. -/
theorem conditionsHold_existence (parser : PatternParser) {request : Json} {template id : String}
    (hid : Template.render (requestModel request) template = .ok id) (c : Context) :
    ({ parser } : StateMatcher).conditionsHold request (existence template) c = .ok true := by
  obtain ⟨text, htext⟩ := Template.exists_render hid (contextModel request c)
  have hkey := Template.render_of_not_mem "hasContext" (by decide) (contextModel request c)
  have hrendered : Renders (Template.render (contextModel request c)) (existence template)
      (existence text) :=
    .object (.cons ⟨hkey, .str htext⟩ .nil) (List.pairwise_singleton ..)
  exact conditionsHold_of_holdIn (renderJson_of_renders hrendered) rfl
    (ContextConditions.holdIn_of_existence parser text c)

/-- **The questions whether a context exists and whether it does not are complementary.** Whatever
storage is asked, in whatever state, they fail in the same way, or both are answered and the answers
are opposite. -/
theorem matchRequest_hasNotContext {σ : Type} (b : Backend σ) (wall : Instant) (s : σ)
    (parser : PatternParser) (request : Json) (template : String) :
    ((({ parser } : StateMatcher).matchRequest request (absence template)).run b wall s).1 =
      ((({ parser } : StateMatcher).matchRequest request (existence template)).run b wall s).1.map
        not := by
  have hexistence : MatchQuestion.ofJson (existence template) = .ok (.hasContext template) := rfl
  have habsence : MatchQuestion.ofJson (absence template) = .ok (.hasNotContext template) := rfl
  rw [matchRequest, matchRequest, hexistence, habsence]
  simp only [Call.run_bind, Call.run_check, mapError_ok, Call.run_lift]
  cases hid : Template.render (requestModel request) template with
  | error e => rfl
  | ok id =>
    simp only [ContextStore.has, Call.run_bind]
    -- both read the context once
    generalize (ContextStore.get id).run b wall s = read
    obtain ⟨e | found, s'⟩ := read
    · rfl
    · cases found with
      | none => rfl
      | some c =>
        simp only [Call.run_lift, conditionsHold_existence parser hid]
        rfl

end StateMatcher

end KeyedState

import KeyedState.Proofs.Template.Models
import KeyedState.Template.Node

/-!
# The templates of a configuration

Rendering a tree renders its templates in order: the leaves, and the keys before what stands under
them (`TemplateNode.templates`). It succeeds when each of them is rendered, and otherwise fails as
the first one that fails (`TemplateNode.outcome_render`), whatever is made of the others. With
templates of paths no model has a say in that (`renderJson_same_failure`).
-/

namespace KeyedState

namespace TemplateNode

/-- A property of all trees is shown of leaves, of lists of trees that have it and of maps to trees
that have it. -/
@[elab_as_elim]
theorem induct {motive : TemplateNode → Prop} (leaf : ∀ text, motive (.leaf text))
    (sequence : ∀ items, (∀ n ∈ items, motive n) → motive (.sequence items))
    (mapping : ∀ entries, (∀ e ∈ entries, motive e.2) → motive (.mapping entries)) :
    ∀ n, motive n
  | .leaf text => leaf text
  | .sequence items => sequence items fun n _ => induct leaf sequence mapping n
  | .mapping entries => mapping entries fun e _ => induct leaf sequence mapping e.2
termination_by n => sizeOf n
decreasing_by
  · have := List.sizeOf_lt_of_mem ‹n ∈ items›
    simp only [TemplateNode.sequence.sizeOf_spec]
    omega
  · have := List.sizeOf_lt_of_mem ‹e ∈ entries›
    obtain ⟨key, n⟩ := e
    simp only [TemplateNode.mapping.sizeOf_spec, Prod.mk.sizeOf_spec] at this ⊢
    omega

mutual

/-- The leaves and keys of a tree in the order in which they are rendered, each key before what
stands under it. -/
def templates : TemplateNode → List String
  | .leaf text => [text]
  | .sequence items => itemTemplates items
  | .mapping entries => entryTemplates entries

/-- The templates of items in order. -/
def itemTemplates : List TemplateNode → List String
  | [] => []
  | n :: ns => templates n ++ itemTemplates ns

/-- The templates of entries in order. -/
def entryTemplates : List (String × TemplateNode) → List String
  | [] => []
  | (key, n) :: es => key :: templates n ++ entryTemplates es

end

variable {f : String → Except StateError String}

theorem outcome_renderItems {ns : List TemplateNode}
    (h : ∀ n ∈ ns, outcome (n.render f) = forM n.templates fun s => outcome (f s)) :
    outcome (renderItems f ns) = forM (itemTemplates ns) fun s => outcome (f s) := by
  induction ns with
  | nil => rfl
  | cons n ns ih =>
    obtain ⟨hn, hns⟩ := List.forall_mem_cons.1 h
    rw [renderItems, itemTemplates, List.forM_append, ← hn, ← ih hns]
    exact outcome_bind fun m => outcome_bind_ok ..

theorem outcome_renderEntries {es : List (String × TemplateNode)}
    (h : ∀ e ∈ es, outcome (e.2.render f) = forM e.2.templates fun s => outcome (f s)) :
    outcome (renderEntries f es) = forM (entryTemplates es) fun s => outcome (f s) := by
  induction es with
  | nil => rfl
  | cons e es ih =>
    obtain ⟨key, n⟩ := e
    obtain ⟨hn, hes⟩ := List.forall_mem_cons.1 h
    rw [renderEntries, entryTemplates, List.cons_append, List.forM_cons, List.forM_append, ← hn,
      ← ih hes]
    exact outcome_bind fun k => outcome_bind fun m => outcome_bind_ok ..

/-- Rendering a tree goes as rendering its templates in order goes. -/
theorem outcome_render (n : TemplateNode) :
    outcome (n.render f) = forM n.templates fun s => outcome (f s) := by
  induction n using induct with
  | leaf text =>
    rw [render, outcome_map, templates, List.forM_cons]
    rcases f text with e | t
    · rfl
    · rfl
  | sequence items ih =>
    rw [render, outcome_map, templates, outcome_renderItems ih]
  | mapping entries ih =>
    rw [render, outcome_map, templates, outcome_renderEntries ih]

/-- A tree is rendered when all its templates are, also those whose result is then replaced. -/
theorem exists_render_iff {n : TemplateNode} :
    (∃ m, n.render f = .ok m) ↔ ∀ s ∈ n.templates, ∃ t, f s = .ok t := by
  simp only [← outcome_eq_ok_iff, outcome_render, forM_eq_ok_iff]

end TemplateNode

/-! ## Configurations -/

/-- The templates of a configuration in the order in which they are rendered: those of its tree. -/
def Json.templates (config : Json) : List String :=
  ((TemplateNode.ofJson? config).map TemplateNode.templates).getD []

theorem outcome_renderJson (render : Renderer) (model config : Json) :
    outcome (renderJson render model config) =
      forM config.templates fun template => outcome (render model template) := by
  rw [renderJson, Json.templates]
  cases TemplateNode.ofJson? config with
  | none => rfl
  | some tree => exact (outcome_map ..).trans tree.outcome_render

/-- **Whether a configuration can be rendered does not depend on the data.** With two models a
configuration is rendered both times, as all its templates can be with every model, or it fails both
times in the same way: as the first of its templates that fails, with every model, in the order of
rendering. -/
theorem renderJson_same_failure (config model model' : Json) :
    (∀ template ∈ config.templates, ∀ m, ∃ text, Template.render m template = .ok text) ∧
        (∃ v, renderJson Template.render model config = .ok v) ∧
        (∃ v, renderJson Template.render model' config = .ok v) ∨
      ∃ e before bad after, config.templates = before ++ bad :: after ∧
        (∀ template ∈ before, ∀ m, ∃ text, Template.render m template = .ok text) ∧
        (∀ m, Template.render m bad = .error e) ∧
        renderJson Template.render model config = .error e ∧
        renderJson Template.render model' config = .error e := by
  have hrendered : ∀ {template}, Template.check template = .ok () →
      ∀ m, ∃ text, Template.render m template = .ok text := fun hcheck m => by
    rwa [← outcome_eq_ok_iff, Template.outcome_render]
  have houtcome : ∀ m, outcome (renderJson Template.render m config) =
      forM config.templates Template.check := fun m => by
    simp only [outcome_renderJson, Template.outcome_render]
  cases hchecks : forM config.templates Template.check with
  | ok u =>
    have hconfig : ∀ m, ∃ v, renderJson Template.render m config = .ok v := fun m => by
      rw [← outcome_eq_ok_iff, houtcome, hchecks]
    exact .inl ⟨fun template h => hrendered (forM_eq_ok_iff.1 hchecks template h), hconfig model,
      hconfig model'⟩
  | error e =>
    have hconfig : ∀ m, renderJson Template.render m config = .error e := fun m => by
      rw [← outcome_eq_error_iff, houtcome, hchecks]
    obtain ⟨before, bad, after, htemplates, hbefore, hbad⟩ := forM_eq_error_iff.1 hchecks
    refine .inr ⟨e, before, bad, after, htemplates,
      fun template h => hrendered (hbefore template h), fun m => ?_, hconfig model, hconfig model'⟩
    rw [← outcome_eq_error_iff, Template.outcome_render, hbad]

end KeyedState

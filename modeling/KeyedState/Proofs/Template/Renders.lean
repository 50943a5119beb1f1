import KeyedState.Proofs.KeyMap.InsertAll
import KeyedState.Proofs.Template.Rendered
import Mathlib.Data.List.Forall2

/-!
# Rendering part by part

What a configuration is rendered to, put together from what its parts are rendered to: a scalar is
rendered as a template, and an object member by member (`Renders.scalar`, `Renders.object`).
-/

namespace KeyedState

/-- A value is rendered to a value by a rendering of its keys and texts. -/
def Renders (f : String → Except StateError String) (v w : Json) : Prop :=
  ∃ tree tree', TemplateNode.ofJson? v = some tree ∧ tree.render f = .ok tree' ∧ tree'.toJson = w

/-- A member is rendered: its key, and its value. -/
def RendersMember (f : String → Except StateError String) (m w : String × Json) : Prop :=
  f m.1 = .ok w.1 ∧ Renders f m.2 w.2

variable {f : String → Except StateError String} {v w : Json} {ms ws : List (String × Json)}

theorem renderJson_of_renders {render : Renderer} {model : Json} (h : Renders (render model) v w) :
    renderJson render model v = .ok w := by
  obtain ⟨tree, tree', htree, hrender, rfl⟩ := h
  simp [renderJson, htree, hrender]

theorem Renders.scalar {template text : String} (hv : v.scalarText? = some template)
    (htext : f template = .ok text) : Renders f v (.str text) := by
  refine ⟨.leaf template, .leaf text, ?_, by simp [TemplateNode.render, htext], rfl⟩
  cases v with
  | null => cases hv
  | array items => cases hv
  | object members => cases hv
  | _ => exact congrArg (some ∘ TemplateNode.leaf) (Option.some.inj hv)

theorem Renders.str {template text : String} (htext : f template = .ok text) :
    Renders f (.str template) (.str text) :=
  .scalar rfl htext

theorem renderEntries_of_rendersMembers (h : List.Forall₂ (RendersMember f) ms ws) :
    ∃ es, TemplateNode.renderEntries f (TemplateNode.ofMembers ms) = .ok es ∧
      TemplateNode.toMembers es = ws := by
  induction h with
  | nil => exact ⟨[], rfl, rfl⟩
  | @cons m w ms ws hm _ ih =>
    obtain ⟨hkey, tree, tree', htree, hrender, hvalue⟩ := hm
    obtain ⟨es, hes, rfl⟩ := ih
    refine ⟨(w.1, tree') :: es, ?_, by rw [TemplateNode.toMembers, hvalue]⟩
    simp [TemplateNode.ofMembers, htree, TemplateNode.renderEntries, hkey, hrender, hes]

/-- An object is rendered member by member; as the rendered members are ordered, none is lost. -/
theorem Renders.object (h : List.Forall₂ (RendersMember f) ms ws) (hordered : Entries.Ordered ws) :
    Renders f (.object ms) (.object ws) := by
  obtain ⟨es, hes, rfl⟩ := renderEntries_of_rendersMembers h
  have hentries : Entries.Ordered es := by
    rw [TemplateNode.toMembers_eq_map] at hordered
    simpa [Entries.Ordered, List.pairwise_map] using hordered
  refine ⟨.mapping (TemplateNode.ofMembers ms), .mapping es, rfl, ?_, rfl⟩
  rw [TemplateNode.render, hes, map_ok, hentries.insertAll_nil]

end KeyedState

import KeyedState.Proofs.Template.Literal
import KeyedState.Proofs.Template.Rendered
import KeyedState.Proofs.Template.Traversal

/-!
# Trees of templates as normal forms of values

A tree of templates has one value, and making a tree of that value gives the tree back. So trees
are the normal forms of values: without nulls (`Json.withoutNulls`) and with all other scalars as
texts (`Json.withTexts`). Rendering with a renderer that keeps every text puts a value into its
normal form, and a second rendering changes nothing (`TemplateNode.ofJson?_retraction`).
-/

namespace KeyedState

namespace Json

/-! ## Normal forms -/

mutual

/-- The value without the nulls that stand in its arrays and objects, at any depth. -/
def withoutNulls : Json → Json
  | .array items => .array (itemsWithoutNulls items)
  | .object members => .object (membersWithoutNulls members)
  | v => v

/-- The items that are not null, in their order. -/
def itemsWithoutNulls : List Json → List Json
  | [] => []
  | .null :: vs => itemsWithoutNulls vs
  | v :: vs => v.withoutNulls :: itemsWithoutNulls vs

/-- The members that are not null, in their order. -/
def membersWithoutNulls : List (String × Json) → List (String × Json)
  | [] => []
  | (_, .null) :: ms => membersWithoutNulls ms
  | (name, v) :: ms => (name, v.withoutNulls) :: membersWithoutNulls ms

end

mutual

/-- The value with the text of each number and truth value in its place, at any depth. -/
def withTexts : Json → Json
  | .bool b => .str (writeBool b)
  | .int n => .str (toString n)
  | .real x => .str (x.render numbers)
  | .array items => .array (itemsWithTexts items)
  | .object members => .object (membersWithTexts members)
  | v => v

/-- The items with texts for numbers and truth values. -/
def itemsWithTexts : List Json → List Json
  | [] => []
  | v :: vs => v.withTexts :: itemsWithTexts vs

/-- The members with texts for numbers and truth values. -/
def membersWithTexts : List (String × Json) → List (String × Json)
  | [] => []
  | (name, v) :: ms => (name, v.withTexts) :: membersWithTexts ms

end

mutual

/-- At no depth of the value stands a null, a number or a truth value. -/
def OnlyTexts : Json → Prop
  | .str _ => True
  | .array items => OnlyTextsItems items
  | .object members => OnlyTextsMembers members
  | _ => False

/-- Every item has only texts. -/
def OnlyTextsItems : List Json → Prop
  | [] => True
  | v :: vs => v.OnlyTexts ∧ OnlyTextsItems vs

/-- The value of every member has only texts. -/
def OnlyTextsMembers : List (String × Json) → Prop
  | [] => True
  | (_, v) :: ms => v.OnlyTexts ∧ OnlyTextsMembers ms

end

mutual

/-- What holds of all texts holds of those of a value. -/
theorem allTexts_of_forall {P : String → Prop} (h : ∀ text, P text) : ∀ v : Json, v.AllTexts P
  | .str s => h s
  | .array items => allTextsItems_of_forall h items
  | .object members => allTextsMembers_of_forall h members
  | .null | .bool _ | .int _ | .real _ => trivial

theorem allTextsItems_of_forall {P : String → Prop} (h : ∀ text, P text) :
    ∀ vs : List Json, AllTextsItems P vs
  | [] => trivial
  | v :: vs => ⟨allTexts_of_forall h v, allTextsItems_of_forall h vs⟩

theorem allTextsMembers_of_forall {P : String → Prop} (h : ∀ text, P text) :
    ∀ ms : List (String × Json), AllTextsMembers P ms
  | [] => trivial
  | (name, v) :: ms => ⟨h name, allTexts_of_forall h v, allTextsMembers_of_forall h ms⟩

end

mutual

/-- A value that is not null is spelled by leaving out nulls and then writing scalars as texts. -/
theorem spelled?_eq_some : ∀ v : Json, v ≠ .null → v.spelled? = some v.withoutNulls.withTexts
  | .null, h => absurd rfl h
  | .str _, _ | .bool _, _ | .int _, _ | .real _, _ => rfl
  | .array items, _ => congrArg (some ∘ Json.array) (spelledItems_eq items)
  | .object members, _ => congrArg (some ∘ Json.object) (spelledMembers_eq members)

theorem spelledItems_eq : ∀ vs : List Json,
    spelledItems vs = itemsWithTexts (itemsWithoutNulls vs)
  | [] => rfl
  | v :: vs => by
    by_cases h : v = .null
    · subst h
      exact spelledItems_eq vs
    · rw [spelledItems, spelled?_eq_some v h, spelledItems_eq vs, itemsWithoutNulls, itemsWithTexts]
      exact h

theorem spelledMembers_eq : ∀ ms : List (String × Json),
    spelledMembers ms = membersWithTexts (membersWithoutNulls ms)
  | [] => rfl
  | (name, v) :: ms => by
    by_cases h : v = .null
    · subst h
      exact spelledMembers_eq ms
    · rw [spelledMembers, spelled?_eq_some v h, spelledMembers_eq ms, membersWithoutNulls,
        membersWithTexts]
      exact h

end

end Json

namespace TemplateNode

/-! ## Trees and their values -/

mutual

/-- The tree of the value of a tree is that tree. -/
theorem ofJson?_toJson : ∀ n : TemplateNode, ofJson? n.toJson = some n
  | .leaf _ => rfl
  | .sequence items => congrArg (some ∘ sequence) (ofItems_toItems items)
  | .mapping entries => congrArg (some ∘ mapping) (ofMembers_toMembers entries)

theorem ofItems_toItems : ∀ ns : List TemplateNode, ofItems (toItems ns) = ns
  | [] => rfl
  | n :: ns => by rw [toItems, ofItems, ofJson?_toJson n, ofItems_toItems ns]

theorem ofMembers_toMembers :
    ∀ es : List (String × TemplateNode), ofMembers (toMembers es) = es
  | [] => rfl
  | (key, n) :: es => by rw [toMembers, ofMembers, ofJson?_toJson n, ofMembers_toMembers es]

end

mutual

theorem onlyTexts_toJson : ∀ n : TemplateNode, n.toJson.OnlyTexts
  | .leaf _ => trivial
  | .sequence items => onlyTexts_toItems items
  | .mapping entries => onlyTexts_toMembers entries

theorem onlyTexts_toItems : ∀ ns : List TemplateNode, Json.OnlyTextsItems (toItems ns)
  | [] => trivial
  | n :: ns => ⟨onlyTexts_toJson n, onlyTexts_toItems ns⟩

theorem onlyTexts_toMembers :
    ∀ es : List (String × TemplateNode), Json.OnlyTextsMembers (toMembers es)
  | [] => trivial
  | (_, n) :: es => ⟨onlyTexts_toJson n, onlyTexts_toMembers es⟩

end

/-- Only null has no tree. -/
theorem ofJson?_eq_none_iff {v : Json} : ofJson? v = none ↔ v = .null := by
  rw [← Json.spelled?_eq_none_iff, ← map_toJson_ofJson?, Option.map_eq_none_iff]

/-! ## Rendering that keeps every text -/

/-- The tree of a value whose objects are ordered is kept by a renderer that keeps every text. -/
theorem render_ok_of_ordered {v : Json} (hv : v.Ordered) {n : TemplateNode}
    (hn : ofJson? v = some n) : n.render .ok = .ok n :=
  render_ofJson? (P := fun _ => True) (fun _ _ => trivial) (fun _ _ => rfl) v hv
    (Json.allTexts_of_forall (fun _ => trivial) v) n hn

end TemplateNode

/-- The renderer that keeps every text, whatever the model. -/
def Renderer.identity : Renderer := fun _ text => .ok text

theorem renderJson_of_ofJson? {v : Json} {n : TemplateNode} (h : TemplateNode.ofJson? v = some n)
    (render : Renderer) (model : Json) :
    renderJson render model v = (n.render (render model)).map TemplateNode.toJson := by
  rw [renderJson, h]

/-- A renderer that keeps every text puts a value into its normal form. -/
theorem renderJson_identity {v : Json} (hv : v.Ordered) (hne : v ≠ .null) (model : Json) :
    renderJson Renderer.identity model v = .ok v.withoutNulls.withTexts := by
  have hnormal := TemplateNode.map_toJson_ofJson? v
  rw [Json.spelled?_eq_some v hne] at hnormal
  obtain ⟨n, hn, hvalue⟩ := Option.map_eq_some_iff.1 hnormal
  have hkept : n.render (Renderer.identity model) = .ok n :=
    TemplateNode.render_ok_of_ordered hv hn
  rw [renderJson_of_ofJson? hn, hkept, map_ok, hvalue]

/-- What is rendered is the value of a tree, so rendering it while keeping every text changes
nothing. -/
theorem renderJson_identity_of_rendered {render : Renderer} {model model' v w : Json}
    (h : renderJson render model v = .ok w) : renderJson Renderer.identity model' w = .ok w := by
  have hw := renderJson_ordered h
  rw [renderJson] at h
  split at h
  · cases h
    rfl
  · obtain ⟨n, -, rfl⟩ := exists_of_map_eq_ok h
    have hkept : n.render (Renderer.identity model') = .ok n :=
      TemplateNode.render_ok_of_ordered hw n.ofJson?_toJson
    rw [renderJson_of_ofJson? n.ofJson?_toJson, hkept, map_ok]

theorem onlyTexts_of_renderJson {render : Renderer} {model v w : Json} (hne : v ≠ .null)
    (h : renderJson render model v = .ok w) : w.OnlyTexts := by
  rw [renderJson] at h
  split at h
  · rename_i hnone
    exact absurd (TemplateNode.ofJson?_eq_none_iff.1 hnone) hne
  · obtain ⟨n, -, rfl⟩ := exists_of_map_eq_ok h
    exact n.onlyTexts_toJson

theorem exists_renderJson_identity (model v : Json) :
    ∃ w, renderJson Renderer.identity model v = .ok w := by
  rw [← outcome_eq_ok_iff, outcome_renderJson, forM_eq_ok_iff]
  exact fun _ _ => rfl

/-- **Trees of templates are the normal forms of values.** The tree of the value of a tree is that
tree. Only null has no tree, and the tree of any other value has the value without nulls in its
arrays and objects, at any depth and otherwise in order, and with a text for each number and truth
value. So rendering with a renderer that keeps every text is idempotent, and what comes of a value
other than null has only texts; it is the normal form of a value whose objects have their members in
order. -/
theorem TemplateNode.ofJson?_retraction (n : TemplateNode) (v model model' : Json) :
    ofJson? n.toJson = some n ∧ (ofJson? v = none ↔ v = .null) ∧
    (v ≠ .null → (ofJson? v).map toJson = some v.withoutNulls.withTexts) ∧
    ∃ w, renderJson Renderer.identity model v = .ok w ∧
      renderJson Renderer.identity model' w = .ok w ∧
      (v ≠ .null → w.OnlyTexts ∧ (v.Ordered → w = v.withoutNulls.withTexts)) := by
  refine ⟨n.ofJson?_toJson, ofJson?_eq_none_iff, fun hne => ?_, ?_⟩
  · rw [map_toJson_ofJson?, Json.spelled?_eq_some v hne]
  · obtain ⟨w, hw⟩ := exists_renderJson_identity model v
    refine ⟨w, hw, renderJson_identity_of_rendered hw, fun hne => ⟨?_, fun hv => ?_⟩⟩
    · exact onlyTexts_of_renderJson hne hw
    · exact Except.ok.inj (hw.symm.trans (renderJson_identity hv hne model))

/-- A value with nulls between other items, and with scalars that are no texts. -/
def gappy : Json :=
  .object [("a", .array [.null, .int 1, .null, .object [("x", .null), ("y", .bool true)]]),
    ("b", .null), ("c", .str "null")]

/-- The value keeps what stands around its nulls. -/
theorem TemplateNode.ofJson?_retraction_gappy :
    gappy ≠ .null ∧ gappy.Ordered ∧
      renderJson Renderer.identity .null gappy = .ok (.object
        [("a", .array [.str "1", .object [("y", .str "true")]]), ("c", .str "null")]) := by
  have hne : gappy ≠ .null := nofun
  have hordered : gappy.Ordered := by
    have houter : ["a", "b", "c"].Pairwise (· < ·) := by decide
    have hinner : ["x", "y"].Pairwise (· < ·) := by decide
    simp only [gappy, Json.Ordered, Json.OrderedItems, Json.OrderedMembers,
      Entries.ordered_iff_keys, List.map_cons, List.map_nil, houter, hinner, and_self]
  obtain ⟨-, -, -, w, hw, -, htexts⟩ := ofJson?_retraction (.leaf "") gappy .null .null
  refine ⟨hne, hordered, ?_⟩
  rw [hw, (htexts hne).2 hordered]
  rfl

end KeyedState

import KeyedState.Proofs.Except
import KeyedState.Template.Node

/-!
# Rendered configurations

Whatever a renderer makes of the keys of a configuration, the members of every object that results
stand in order, one for each key (`renderJson_ordered`).
-/

namespace KeyedState

namespace TemplateNode

mutual

/-- The entries of every mapping in the tree stand in strictly increasing order of their keys. -/
def Ordered : TemplateNode → Prop
  | .leaf _ => True
  | .sequence items => OrderedItems items
  | .mapping entries => Entries.Ordered entries ∧ OrderedEntries entries

/-- Every item is ordered. -/
def OrderedItems : List TemplateNode → Prop
  | [] => True
  | n :: ns => Ordered n ∧ OrderedItems ns

/-- The tree of every entry is ordered. -/
def OrderedEntries : List (String × TemplateNode) → Prop
  | [] => True
  | e :: es => Ordered e.2 ∧ OrderedEntries es

end

theorem orderedEntries_iff {es : List (String × TemplateNode)} :
    OrderedEntries es ↔ ∀ e ∈ es, e.2.Ordered := by
  induction es with
  | nil => simp [OrderedEntries]
  | cons e es ih => simp [OrderedEntries, ih]

theorem OrderedEntries.insertAll {es fs : List (String × TemplateNode)} (hes : OrderedEntries es)
    (hfs : OrderedEntries fs) : OrderedEntries (Entries.insertAll es fs) := by
  induction es generalizing fs with
  | nil => exact hfs
  | cons e es ih =>
    refine ih hes.2 (orderedEntries_iff.2 fun f hf => ?_)
    rcases Entries.mem_insert hf with rfl | hf
    · exact hes.1
    · exact orderedEntries_iff.1 hfs f hf

mutual

theorem render_ordered {f : String → Except StateError String} :
    ∀ (n : TemplateNode) {m : TemplateNode}, n.render f = .ok m → m.Ordered
  | .leaf s, m, h => by
    obtain ⟨t, -, rfl⟩ := exists_of_map_eq_ok h
    trivial
  | .sequence items, m, h => by
    obtain ⟨items', hitems, rfl⟩ := exists_of_map_eq_ok h
    exact renderItems_ordered items hitems
  | .mapping entries, m, h => by
    obtain ⟨entries', hentries, rfl⟩ := exists_of_map_eq_ok h
    exact ⟨Entries.Ordered.insertAll _ .nil,
      (renderEntries_ordered entries hentries).insertAll trivial⟩

theorem renderItems_ordered {f : String → Except StateError String} :
    ∀ (ns : List TemplateNode) {ms : List TemplateNode},
      renderItems f ns = .ok ms → OrderedItems ms
  | [], ms, h => by
    cases h
    trivial
  | n :: ns, ms, h => by
    obtain ⟨m, hm, h⟩ := exists_of_bind_eq_ok h
    obtain ⟨ms, hms, h⟩ := exists_of_bind_eq_ok h
    cases h
    exact ⟨render_ordered n hm, renderItems_ordered ns hms⟩

theorem renderEntries_ordered {f : String → Except StateError String} :
    ∀ (es : List (String × TemplateNode)) {fs : List (String × TemplateNode)},
      renderEntries f es = .ok fs → OrderedEntries fs
  | [], fs, h => by
    cases h
    trivial
  | (key, n) :: es, fs, h => by
    obtain ⟨k, -, h⟩ := exists_of_bind_eq_ok h
    obtain ⟨m, hm, h⟩ := exists_of_bind_eq_ok h
    obtain ⟨fs, hfs, h⟩ := exists_of_bind_eq_ok h
    cases h
    exact ⟨render_ordered n hm, renderEntries_ordered es hfs⟩

end

theorem toMembers_eq_map (es : List (String × TemplateNode)) :
    toMembers es = es.map fun e => (e.1, e.2.toJson) := by
  induction es with
  | nil => rfl
  | cons e es ih => rw [toMembers, ih, List.map_cons]

mutual

theorem toJson_ordered : ∀ n : TemplateNode, n.Ordered → n.toJson.Ordered
  | .leaf _, _ => trivial
  | .sequence items, h => toItems_ordered items h
  | .mapping entries, h => by
    refine ⟨?_, toMembers_ordered entries h.2⟩
    rw [toMembers_eq_map]
    exact h.1.map fun _ n => n.toJson

theorem toItems_ordered : ∀ ns : List TemplateNode, OrderedItems ns →
    Json.OrderedItems (toItems ns)
  | [], _ => trivial
  | n :: ns, h => ⟨toJson_ordered n h.1, toItems_ordered ns h.2⟩

theorem toMembers_ordered : ∀ es : List (String × TemplateNode), OrderedEntries es →
    Json.OrderedMembers (toMembers es)
  | [], _ => trivial
  | (_, n) :: es, h => ⟨toJson_ordered n h.1, toMembers_ordered es h.2⟩

end

end TemplateNode

/-- The objects of a rendered configuration have ordered members. -/
theorem renderJson_ordered {render : Renderer} {model config v : Json}
    (h : renderJson render model config = .ok v) : v.Ordered := by
  rw [renderJson] at h
  split at h
  · cases h
    trivial
  · obtain ⟨n, hn, rfl⟩ := exists_of_map_eq_ok h
    exact n.toJson_ordered (TemplateNode.render_ordered _ hn)

/-- What a rendered configuration has under a name is ordered too. -/
theorem Json.Ordered.get? {v w : Json} (h : v.Ordered) {name : String} (hw : v.get? name = some w) :
    w.Ordered := by
  cases v with
  | object members => exact Json.orderedMembers_iff.1 h.2 _ (Entries.mem_of_get?_eq_some hw)
  | _ => cases hw

end KeyedState

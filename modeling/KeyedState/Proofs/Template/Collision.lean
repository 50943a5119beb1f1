import KeyedState.Proofs.KeyMap.InsertAll
import KeyedState.Proofs.Template.Rendered
import KeyedState.Proofs.Template.Traversal

/-!
# What a tree is rendered to

Rendering applies a partial function to every leaf and every key of a tree. Keys of one mapping may
be rendered to the same text, and then the greatest of them decides what stands under it
(`TemplateNode.RendersTo`). The rest of the tree keeps its shape, and nothing else is ever the
result (`TemplateNode.render_iff_rendersTo`).
-/

namespace KeyedState

namespace TemplateNode

variable {f : String → Except StateError String}

/-- Of the keys of entries that are rendered to a text, a key is the greatest. -/
structure IsGreatestKey (f : String → Except StateError String)
    (es : List (String × TemplateNode)) (k r : String) : Prop where
  mem : k ∈ es.map Prod.fst
  renders : f k = .ok r
  greatest : ∀ k' ∈ es.map Prod.fst, f k' = .ok r → k' ≤ k

/-- What a tree is rendered to: each leaf is replaced by its image and each sequence item by item.
The keys of a mapping are replaced by their images, and under each image stands what the value of
the greatest of its keys is rendered to. -/
inductive RendersTo (f : String → Except StateError String) :
    TemplateNode → TemplateNode → Prop where
  | leaf {s t : String} (h : f s = .ok t) : RendersTo f (.leaf s) (.leaf t)
  | sequence {ns ms : List TemplateNode} (hlength : ms.length = ns.length)
      (hitem : ∀ (i : Nat) (n m : TemplateNode), ns[i]? = some n → ms[i]? = some m →
        RendersTo f n m) :
      RendersTo f (.sequence ns) (.sequence ms)
  | mapping {es fs : List (String × TemplateNode)} (hordered : Entries.Ordered fs)
      (hkeys : ∀ r, r ∈ fs.map Prod.fst ↔ ∃ k ∈ es.map Prod.fst, f k = .ok r)
      (hvalue : ∀ k n r m, (k, n) ∈ es → IsGreatestKey f es k r → (r, m) ∈ fs → RendersTo f n m) :
      RendersTo f (.mapping es) (.mapping fs)

/-! ## The parts of a tree -/

theorem renderItems_eq_ok_iff {ns ms : List TemplateNode} :
    renderItems f ns = .ok ms ↔ List.Forall₂ (fun n m => n.render f = .ok m) ns ms := by
  have hmapM : renderItems f ns = ns.mapM (render f) := by
    induction ns with
    | nil => rfl
    | cons n ns ih => rw [renderItems, List.mapM_cons, ih]
  rw [hmapM, mapM_eq_ok_iff]

/-- An entry is rendered: its key, and what stands under it. -/
def RendersEntry (f : String → Except StateError String) (e e' : String × TemplateNode) : Prop :=
  f e.1 = .ok e'.1 ∧ e.2.render f = .ok e'.2

theorem forall₂_of_renderEntries {es fs : List (String × TemplateNode)}
    (h : renderEntries f es = .ok fs) : List.Forall₂ (RendersEntry f) es fs := by
  induction es generalizing fs with
  | nil =>
    cases h
    exact .nil
  | cons e es ih =>
    obtain ⟨key, n⟩ := e
    obtain ⟨k, hk, h⟩ := exists_of_bind_eq_ok h
    obtain ⟨m, hm, h⟩ := exists_of_bind_eq_ok h
    obtain ⟨rest, hrest, h⟩ := exists_of_bind_eq_ok h
    cases h
    exact .cons ⟨hk, hm⟩ (ih hrest)

variable {es fs : List (String × TemplateNode)}

/-- The rendered keys are the images of the keys. -/
theorem mem_keys_iff_of_forall₂ (h : List.Forall₂ (RendersEntry f) es fs) {r : String} :
    r ∈ fs.map Prod.fst ↔ ∃ k ∈ es.map Prod.fst, f k = .ok r := by
  induction h with
  | nil => simp
  | @cons e e' es fs he _ ih =>
    have hhead : r = e'.1 ↔ f e.1 = .ok r := by
      rw [he.1, Except.ok.injEq, eq_comm]
    simp only [List.map_cons, List.mem_cons, ih, hhead, exists_eq_or_imp]

/-- Of the keys with one image there is a greatest, as the keys are in order. -/
theorem exists_isGreatestKey (hordered : Entries.Ordered es) {k r : String}
    (hk : k ∈ es.map Prod.fst) (hr : f k = .ok r) : ∃ e ∈ es, IsGreatestKey f es e.1 r := by
  induction es generalizing k with
  | nil => cases hk
  | cons e es ih =>
    obtain ⟨hlt, hes⟩ := List.pairwise_cons.1 hordered
    by_cases hlater : ∃ k' ∈ es.map Prod.fst, f k' = .ok r
    · obtain ⟨k', hk', hr'⟩ := hlater
      obtain ⟨last, hlast, hgreatest⟩ := ih hes hk' hr'
      refine ⟨last, List.mem_cons_of_mem _ hlast, List.mem_cons_of_mem _ hgreatest.mem,
        hgreatest.renders, List.forall_mem_cons.2 ⟨fun _ => ?_, hgreatest.greatest⟩⟩
      exact String.not_lt.1 (String.lt_asymm (hlt last hlast))
    · have hke : k = e.1 := by
        rcases List.mem_cons.1 hk with hke | hk
        · exact hke
        · exact absurd ⟨k, hk, hr⟩ hlater
      refine ⟨e, List.mem_cons_self, List.mem_cons_self, hke ▸ hr,
        List.forall_mem_cons.2 ⟨fun _ => String.le_refl _, fun k' hk' hr' => ?_⟩⟩
      exact absurd ⟨k', hk', hr'⟩ hlater

/-- The last of the rendered entries with an image is that of the greatest key. -/
theorem exists_get?_reverse_of_forall₂ (h : List.Forall₂ (RendersEntry f) es fs)
    (hordered : Entries.Ordered es) {k r : String} {n : TemplateNode} (hn : (k, n) ∈ es)
    (hk : IsGreatestKey f es k r) :
    ∃ m, n.render f = .ok m ∧ Entries.get? r fs.reverse = some m := by
  induction h with
  | nil => cases hn
  | @cons e e' es fs he hrest ih =>
    obtain ⟨hlt, hes⟩ := List.pairwise_cons.1 hordered
    rw [List.reverse_cons, Entries.get?_append]
    rcases List.mem_cons.1 hn with rfl | hn
    · -- all other keys are greater, so none of them has the image
      have hnone : Entries.get? r fs.reverse = none := by
        rw [Entries.get?_eq_none_iff, List.map_reverse, List.mem_reverse,
          mem_keys_iff_of_forall₂ hrest]
        rintro ⟨k', hk', hr'⟩
        obtain ⟨later, hlater, rfl⟩ := List.mem_map.1 hk'
        have hle := hk.greatest _ (List.mem_cons_of_mem _ hk') hr'
        exact String.not_lt.2 hle (hlt later hlater)
      have hkey : e'.1 = r := Except.ok.inj (he.1.symm.trans hk.renders)
      exact ⟨e'.2, he.2, by simp [hnone, Entries.get?, hkey]⟩
    · have hgreatest : IsGreatestKey f es k r :=
        ⟨List.mem_map_of_mem hn, hk.renders, (List.forall_mem_cons.1 hk.greatest).2⟩
      obtain ⟨m, hm, hget⟩ := ih hes hn hgreatest
      exact ⟨m, hm, by rw [hget, Option.some_or]⟩

/-- What is found among rendered entries after they have been put in is what was put in last. -/
theorem get?_insertAll_nil (es : List (String × TemplateNode)) (r : String) :
    Entries.get? r (Entries.insertAll es []) = Entries.get? r es.reverse :=
  KeyMap.get?_ofList es r

theorem mem_keys_insertAll_nil (es : List (String × TemplateNode)) (r : String) :
    r ∈ (Entries.insertAll es []).map Prod.fst ↔ r ∈ es.map Prod.fst := by
  rw [← Decidable.not_iff_not, ← Entries.get?_eq_none_iff, get?_insertAll_nil,
    Entries.get?_eq_none_iff, List.map_reverse, List.mem_reverse]

theorem orderedItems_iff {ns : List TemplateNode} : OrderedItems ns ↔ ∀ n ∈ ns, n.Ordered := by
  induction ns with
  | nil => simp [OrderedItems]
  | cons n ns ih => simp [OrderedItems, ih]

/-! ## The whole tree -/

theorem rendersTo_of_render {n : TemplateNode} (hordered : n.Ordered) {m : TemplateNode}
    (h : n.render f = .ok m) : RendersTo f n m := by
  induction n using induct generalizing m with
  | leaf s =>
    obtain ⟨t, ht, rfl⟩ := exists_of_map_eq_ok h
    exact .leaf ht
  | sequence ns ih =>
    obtain ⟨ms, hms, rfl⟩ := exists_of_map_eq_ok h
    have hall := renderItems_eq_ok_iff.1 hms
    refine .sequence hall.length_eq.symm fun i n m hn hm => ?_
    obtain ⟨hi, rfl⟩ := List.getElem?_eq_some_iff.1 hn
    obtain ⟨hi', rfl⟩ := List.getElem?_eq_some_iff.1 hm
    have hmem := List.getElem_mem hi
    exact ih _ hmem (orderedItems_iff.1 hordered _ hmem) (hall.get hi hi')
  | mapping es ih =>
    obtain ⟨fs, hfs, rfl⟩ := exists_of_map_eq_ok h
    have hall := forall₂_of_renderEntries hfs
    have hresult : Entries.Ordered (Entries.insertAll fs []) := Entries.Ordered.insertAll _ .nil
    refine .mapping hresult (fun r => ?_) fun k n r m hn hk hm => ?_
    · rw [mem_keys_insertAll_nil, mem_keys_iff_of_forall₂ hall]
    · obtain ⟨m', hm', hget⟩ := exists_get?_reverse_of_forall₂ hall hordered.1 hn hk
      rw [← get?_insertAll_nil, Entries.get?_eq_some_of_mem hresult hm] at hget
      cases hget
      exact ih (k, n) hn (orderedEntries_iff.1 hordered.2 _ hn) hm'

/-- A tree is rendered to one tree only. -/
theorem RendersTo.unique {n m m' : TemplateNode} (h : RendersTo f n m) (hordered : n.Ordered)
    (h' : RendersTo f n m') : m = m' := by
  induction h generalizing m' with
  | leaf ht =>
    cases h' with
    | leaf ht' => exact congrArg TemplateNode.leaf (Except.ok.inj (ht.symm.trans ht'))
  | @sequence ns ms hlength _ ih =>
    cases h' with
    | @sequence _ ms' hlength' hitem' =>
      refine congrArg TemplateNode.sequence (List.ext_getElem (hlength.trans hlength'.symm) ?_)
      intro i hi hi'
      have hn : i < ns.length := hlength ▸ hi
      exact ih i ns[i] _ (List.getElem?_eq_getElem hn) (List.getElem?_eq_getElem hi)
        (orderedItems_iff.1 hordered _ (List.getElem_mem hn))
        (hitem' i _ _ (List.getElem?_eq_getElem hn) (List.getElem?_eq_getElem hi'))
  | @mapping es fs hfs hkeys _ ih =>
    cases h' with
    | @mapping _ fs' hfs' hkeys' hvalue' =>
      refine congrArg TemplateNode.mapping (hfs.ext hfs' fun r => ?_)
      by_cases hr : ∃ k ∈ es.map Prod.fst, f k = .ok r
      · obtain ⟨e, he, rfl⟩ := List.mem_map.1 ((hkeys r).2 hr)
        obtain ⟨e', he', hkey⟩ := List.mem_map.1 ((hkeys' e.1).2 hr)
        obtain ⟨k, hk, hke⟩ := hr
        obtain ⟨last, hlast, hgreatest⟩ := exists_isGreatestKey hordered.1 hk hke
        have he'' : (e.1, e'.2) ∈ fs' := hkey ▸ he'
        rw [Entries.get?_eq_some_of_mem hfs he, Entries.get?_eq_some_of_mem hfs' he'']
        exact congrArg some (ih last.1 last.2 e.1 e.2 hlast hgreatest he
          (orderedEntries_iff.1 hordered.2 _ hlast)
          (hvalue' last.1 last.2 e.1 e'.2 hlast hgreatest he''))
      · rw [Entries.get?_eq_none_iff.2 (mt (hkeys r).1 hr),
          Entries.get?_eq_none_iff.2 (mt (hkeys' r).1 hr)]

/-- **Rendering a tree is rendering all its leaves and keys.** Whatever partial function renders
texts, a tree is rendered exactly when each leaf and each key at any depth is, and it is rendered to
the tree with the images in their places, where the greatest of the keys with one image decides what
stands under it. -/
theorem render_iff_rendersTo (f : String → Except StateError String) (tree : TemplateNode)
    (hordered : tree.Ordered) :
    ((∃ m, tree.render f = .ok m) ↔ ∀ s ∈ tree.templates, ∃ t, f s = .ok t) ∧
      ∀ m, tree.render f = .ok m ↔
        (∀ s ∈ tree.templates, ∃ t, f s = .ok t) ∧ RendersTo f tree m := by
  refine ⟨exists_render_iff, fun m => ⟨fun h => ?_, fun ⟨hall, hm⟩ => ?_⟩⟩
  · exact ⟨exists_render_iff.1 ⟨m, h⟩, rendersTo_of_render hordered h⟩
  · obtain ⟨m', hm'⟩ := exists_render_iff.2 hall
    rw [hm', hm.unique hordered (rendersTo_of_render hordered hm')]

/-- The first letter of a text, if it has one. -/
def firstLetter (text : String) : Except StateError String :=
  match text.toList with
  | [] => .error (.internal "no letter")
  | c :: _ => .ok (String.ofList [c])

/-- A tree with two keys that have one first letter. -/
def sameLetterTree (text : String) : TemplateNode :=
  .mapping [("ab", .sequence [.leaf "xy", .leaf text]), ("ac", .mapping [("key", .leaf "vw")]),
    ("b", .leaf "yes")]

/-- The greater of two keys with one image decides, but what stands under the other key must be
rendered too. -/
theorem rendersTo_sameLetterTree :
    (∀ text, (sameLetterTree text).Ordered) ∧
      RendersTo firstLetter (sameLetterTree "z")
        (.mapping [("a", .mapping [("k", .leaf "v")]), ("b", .leaf "y")]) ∧
      ¬ ∃ m, (sameLetterTree "").render firstLetter = .ok m := by
  have hordered : ∀ text, (sameLetterTree text).Ordered := fun text => by
    have hkeys : ["ab", "ac", "b"].Pairwise (· < ·) := by decide
    simp only [sameLetterTree, Ordered, OrderedItems, OrderedEntries, and_true, true_and]
    exact ⟨Entries.ordered_iff_keys.2 hkeys, List.pairwise_singleton ..⟩
  refine ⟨hordered, ?_, fun h => ?_⟩
  · exact (((render_iff_rendersTo firstLetter _ (hordered "z")).2 _).1 rfl).2
  · obtain ⟨t, ht⟩ := (render_iff_rendersTo firstLetter _ (hordered "")).1.1 h "" (by decide)
    cases ht

end TemplateNode

end KeyedState

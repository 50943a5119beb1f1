import KeyedState.Proofs.Matching.RowConditions

/-!
# Conditions extracted kind by kind

The predicates of conditions are those that the kinds extract one by one: together they can be built
when each kind can extract its own, they stand in the order of the kinds, and they hold when each of
them holds (`PredicateSet.ofConditions_kind_by_kind`). If they cannot be built, then because of the
first description, in the order of the places where descriptions stand, that is no pattern
(`PatternPlace.Before`). Whatever reads the descriptions, it is only asked about these.
-/

namespace KeyedState

/-! ## Positions in order -/

namespace PositionMap

variable {α : Type} {m : PositionMap α} {p : ListPosition} {v : α}

/-- The positions increase strictly: the first, the last, and the indexes by size. -/
def Ordered (m : PositionMap α) : Prop := m.Pairwise fun a b => a.1.rank < b.1.rank

theorem mem_insert {e : ListPosition × α} (h : e ∈ insert p v m) : e = (p, v) ∨ e ∈ m := by
  induction m with
  | nil => exact .inl (List.mem_singleton.1 h)
  | cons c es ih =>
    obtain ⟨q, w⟩ := c
    rw [insert] at h
    split at h
    · exact List.mem_cons.1 h
    · split at h
      · exact (List.mem_cons.1 h).imp_right (List.mem_cons_of_mem _)
      · rcases List.mem_cons.1 h with rfl | h
        · exact .inr List.mem_cons_self
        · exact (ih h).imp_right (List.mem_cons_of_mem _)

theorem Ordered.insert (h : m.Ordered) : Ordered (PositionMap.insert p v m) := by
  induction m with
  | nil => exact List.pairwise_singleton _ _
  | cons c es ih =>
    obtain ⟨q, w⟩ := c
    obtain ⟨hq, hes⟩ := List.pairwise_cons.1 h
    rw [PositionMap.insert]
    split
    case isTrue hlt =>
      refine List.pairwise_cons.2 ⟨fun e he => ?_, h⟩
      rcases List.mem_cons.1 he with rfl | he
      · exact hlt
      · exact hlt.trans (hq e he)
    case isFalse hlt =>
      split
      case isTrue heq =>
        subst heq
        exact List.pairwise_cons.2 ⟨hq, hes⟩
      case isFalse hne =>
        refine List.pairwise_cons.2 ⟨fun e he => ?_, ih hes⟩
        rcases mem_insert he with rfl | he
        · exact lt_of_le_of_ne (Nat.le_of_not_lt hlt) fun heq =>
            hne (ListPosition.rank_injective heq.symm)
        · exact hq e he

theorem Ordered.get?_eq_some_iff (h : m.Ordered) : get? p m = some v ↔ (p, v) ∈ m := by
  refine ⟨mem_of_get?_eq_some, fun hmem => ?_⟩
  induction m with
  | nil => cases hmem
  | cons c es ih =>
    obtain ⟨q, w⟩ := c
    obtain ⟨hq, hes⟩ := List.pairwise_cons.1 h
    rw [get?]
    rcases List.mem_cons.1 hmem with heq | hrest
    · cases heq
      exact if_pos rfl
    · have hne : p ≠ q := by
        rintro rfl
        exact (hq _ hrest).false
      rw [if_neg hne]
      exact ih hes hrest

end PositionMap

/-- The positions of the conditions on rows stand in order. -/
def ContextConditions.RowsOrdered (c : ContextConditions) : Prop :=
  ∀ rows ∈ c.list, PositionMap.Ordered rows

namespace ContextConditions

theorem ordered_byPosition {conditions rows : ListConditions} {es : List (String × PatternConfig)}
    (h : byPosition conditions es = .ok rows) (hordered : PositionMap.Ordered conditions) :
    PositionMap.Ordered rows := by
  induction es generalizing conditions with
  | nil => exact Except.ok.inj h ▸ hordered
  | cons e es ih =>
    rw [byPosition] at h
    split at h
    · cases h
    · exact ih h hordered.insert

theorem ordered_of_decodeList {v : Json} {rows : ListConditions} (h : decodeList v = .ok rows) :
    PositionMap.Ordered rows := by
  obtain ⟨m, -, h⟩ := exists_of_bind_eq_ok h
  exact ordered_byPosition h List.Pairwise.nil

theorem fieldsKeep_rowsOrdered : Decoder.FieldsKeep fields RowsOrdered := by
  intro f hf v c c' h hc
  simp only [fields, List.mem_cons, List.not_mem_nil, or_false] at hf
  rcases hf with rfl | rfl | rfl | rfl | rfl | rfl | rfl | rfl | rfl | rfl | rfl
  case inr.inr.inr.inr.inl =>
    obtain ⟨list, hlist, rfl⟩ := exists_of_map_eq_ok h
    rintro rows ⟨⟩
    exact ordered_of_decodeList (Decoder.eq_ok_of_optional hlist)
  all_goals
    obtain ⟨_, -, rfl⟩ := exists_of_map_eq_ok h
    exact hc

/-- In all conditions that are read, the rows stand in the order of their positions. -/
theorem rowsOrdered_of_ofJson {v : Json} {c : ContextConditions} (h : ofJson v = .ok c) :
    c.RowsOrdered :=
  fieldsKeep_rowsOrdered.record (mapError_eq_ok_iff.1 h) nofun

end ContextConditions

/-! ## Places of descriptions -/

/-- Where the description of a pattern stands among conditions. -/
inductive PatternPlace where
  /-- At a property. -/
  | property (name : String)
  /-- At a field of the row at a position. -/
  | row (position : ListPosition) (field : String)

namespace PatternPlace

/-- The order of places: the properties by name, then the rows by position, and the fields of one
row by name. -/
inductive Before : PatternPlace → PatternPlace → Prop
  | properties {a b : String} (h : a < b) : Before (.property a) (.property b)
  | propertyRow {a f : String} {p : ListPosition} : Before (.property a) (.row p f)
  | rows {p q : ListPosition} {f g : String} (h : p.rank < q.rank) : Before (.row p f) (.row q g)
  | fields {p : ListPosition} {f g : String} (h : f < g) : Before (.row p f) (.row p g)

theorem Before.asymm {a b : PatternPlace} (h : a.Before b) : ¬ b.Before a := by
  intro h'
  cases h with
  | properties h =>
    cases h' with
    | properties h' => exact String.lt_asymm h h'
  | propertyRow => cases h'
  | rows h =>
    cases h' with
    | rows h' => exact Nat.lt_asymm h h'
    | fields h' => exact h.false
  | fields h =>
    cases h' with
    | rows h' => exact h'.false
    | fields h' => exact String.lt_asymm h h'

end PatternPlace

/-- The description that stands at a place. -/
def ContextConditions.descriptionAt (c : ContextConditions) : PatternPlace → Option Json
  | .property name => c.property.bind (·.get? name)
  | .row position field => (c.list.bind (PositionMap.get? position)).bind (·.get? field)

/-- The descriptions for fields, each at its place. -/
def PatternConfig.placed (place : String → PatternPlace) (config : PatternConfig) :
    List (PatternPlace × Json) :=
  config.toList.map fun e => (place e.1, e.2)

/-- The descriptions that a kind reads, in the order in which it does. -/
def ConditionKind.placed (c : ContextConditions) : ConditionKind → List (PatternPlace × Json)
  | .property => c.property.toList.flatMap (·.placed .property)
  | .list => c.list.toList.flatMap fun rows => rows.flatMap fun e => e.2.placed (.row e.1)
  | _ => []

/-- The descriptions that all kinds read, in the order in which they do. -/
def ContextConditions.placed (c : ContextConditions) : List (PatternPlace × Json) :=
  ConditionKind.all.flatMap (·.placed c)

/-- Only two kinds read descriptions. -/
theorem ContextConditions.placed_eq (c : ContextConditions) :
    c.placed = ConditionKind.property.placed c ++ ConditionKind.list.placed c := by
  simp [placed, ConditionKind.all, ConditionKind.placed]

theorem PatternConfig.mem_placed {place : String → PatternPlace} {config : PatternConfig}
    {d : PatternPlace × Json} :
    d ∈ config.placed place ↔ ∃ field, place field = d.1 ∧ config.get? field = some d.2 := by
  rw [placed, List.mem_map]
  constructor
  · rintro ⟨e, he, rfl⟩
    exact ⟨e.1, rfl, KeyMap.mem_toList.1 he⟩
  · rintro ⟨field, hplace, hget⟩
    exact ⟨(field, d.2), KeyMap.mem_toList.2 hget, Prod.ext hplace rfl⟩

theorem PatternConfig.pairwise_placed {place : String → PatternPlace}
    (h : ∀ {f g : String}, f < g → (place f).Before (place g)) (config : PatternConfig) :
    (config.placed place).Pairwise fun a b => a.1.Before b.1 :=
  List.pairwise_map.2 (config.ordered.imp h)

namespace ContextConditions

variable {c : ContextConditions}

/-- The descriptions that are read are those that stand at the places. -/
theorem mem_placed (hc : c.RowsOrdered) {place : PatternPlace} {description : Json} :
    (place, description) ∈ c.placed ↔ c.descriptionAt place = some description := by
  rw [placed_eq, List.mem_append, ConditionKind.placed, ConditionKind.placed]
  simp only [List.mem_flatMap, Option.mem_toList, PatternConfig.mem_placed]
  cases place with
  | property name =>
    simp only [descriptionAt, Option.bind_eq_some_iff]
    constructor
    · rintro (⟨config, hconfig, field, hfield, hget⟩ | ⟨_, _, _, _, _, hfield, _⟩)
      · cases hfield
        exact ⟨config, hconfig, hget⟩
      · cases hfield
    · rintro ⟨config, hconfig, hget⟩
      exact .inl ⟨config, hconfig, name, rfl, hget⟩
  | row position field =>
    simp only [descriptionAt, Option.bind_eq_some_iff]
    constructor
    · rintro (⟨_, _, _, hfield, _⟩ | ⟨rows, hrows, e, he, name, hname, hget⟩)
      · cases hfield
      · cases hname
        exact ⟨e.2, ⟨rows, hrows, (hc rows hrows).get?_eq_some_iff.2 he⟩, hget⟩
    · rintro ⟨config, ⟨rows, hrows, hposition⟩, hget⟩
      exact .inr ⟨rows, hrows, (position, config), PositionMap.mem_of_get?_eq_some hposition, field,
        rfl, hget⟩

/-- Descriptions are read in the order of their places. -/
theorem pairwise_placed (hc : c.RowsOrdered) :
    c.placed.Pairwise fun a b => a.1.Before b.1 := by
  have hproperty : (ConditionKind.property.placed c).Pairwise fun a b => a.1.Before b.1 := by
    rw [ConditionKind.placed]
    cases c.property with
    | none => exact List.Pairwise.nil
    | some config =>
      rw [Option.toList_some, List.flatMap_singleton]
      exact PatternConfig.pairwise_placed .properties config
  have hlist : (ConditionKind.list.placed c).Pairwise fun a b => a.1.Before b.1 := by
    rw [ConditionKind.placed]
    cases hrows : c.list with
    | none => exact List.Pairwise.nil
    | some rows =>
      rw [Option.toList_some, List.flatMap_singleton, List.pairwise_flatMap]
      refine ⟨fun e _ => PatternConfig.pairwise_placed .fields e.2, ?_⟩
      refine (hc rows hrows).imp fun hlt a ha b hb => ?_
      obtain ⟨_, hplace, -⟩ := PatternConfig.mem_placed.1 ha
      obtain ⟨_, hplace', -⟩ := PatternConfig.mem_placed.1 hb
      rw [← hplace, ← hplace']
      exact .rows hlt
  rw [placed_eq, List.pairwise_append]
  refine ⟨hproperty, hlist, fun a ha b hb => ?_⟩
  simp only [ConditionKind.placed, List.mem_flatMap, PatternConfig.mem_placed] at ha hb
  obtain ⟨_, -, _, hplace, -⟩ := ha
  obtain ⟨_, -, _, -, _, hplace', -⟩ := hb
  rw [← hplace, ← hplace']
  exact .propertyRow

end ContextConditions

/-! ## What can be built -/

variable {parser : PatternParser} {c : ContextConditions}

theorem FieldPatterns.outcome_ofConfig (place : String → PatternPlace) (config : PatternConfig) :
    outcome (ofConfig parser config) =
      forM (config.placed place) fun d => outcome (parser d.2) := by
  rw [PatternConfig.placed, List.forM_map, ofConfig]
  induction config.toList with
  | nil => rfl
  | cons e es ih =>
    rw [ofEntries, List.forM_cons, ← ih]
    exact outcome_bind fun m => outcome_bind_ok ..

theorem Predicate.outcome_ofRows (rows : ListConditions) :
    outcome (ofRows parser rows) =
      forM (rows.flatMap fun e => e.2.placed (.row e.1)) fun d => outcome (parser d.2) := by
  rw [forM_flatMap]
  induction rows with
  | nil => rfl
  | cons e es ih =>
    rw [ofRows, List.forM_cons, ← ih, ← FieldPatterns.outcome_ofConfig]
    exact outcome_bind fun patterns => outcome_bind_ok ..

namespace ConditionKind

/-- A kind fails as the first of its descriptions that is no pattern. -/
theorem outcome_extract (kind : ConditionKind) :
    outcome (kind.extract parser c) = forM (kind.placed c) fun d => outcome (parser d.2) := by
  cases kind with
  | property =>
    rw [extract, placed]
    cases c.property with
    | none => rfl
    | some config =>
      rw [Option.toList_some, List.flatMap_singleton, ← FieldPatterns.outcome_ofConfig]
      exact outcome_map ..
  | list =>
    rw [extract, placed]
    cases c.list with
    | none => rfl
    | some rows =>
      rw [Option.toList_some, List.flatMap_singleton, ← Predicate.outcome_ofRows]
      exact outcome_map ..
  | _ => rfl

/-- Whether conditions configure a kind. -/
def isConfigured (c : ContextConditions) : ConditionKind → Bool
  | .property => c.property.isSome
  | .list => c.list.isSome
  | .hasProperty => c.hasProperty.isSome
  | .hasNotProperty => c.hasNotProperty.isSome
  | .updateCountEqualTo => c.updateCountEqualTo.isSome
  | .updateCountLessThan => c.updateCountLessThan.isSome
  | .updateCountMoreThan => c.updateCountMoreThan.isSome
  | .listSizeEqualTo => c.listSizeEqualTo.isSome
  | .listSizeLessThan => c.listSizeLessThan.isSome
  | .listSizeMoreThan => c.listSizeMoreThan.isSome

/-- A kind extracts a predicate when it is configured. -/
theorem isSome_of_extract {kind : ConditionKind} {p : Option Predicate}
    (h : kind.extract parser c = .ok p) : p.isSome = kind.isConfigured c := by
  cases kind with
  | property =>
    rw [extract] at h
    rw [isConfigured]
    split at h
    · rename_i hnone
      cases h
      rw [hnone]
      rfl
    · rename_i config hconfig
      obtain ⟨_, -, rfl⟩ := exists_of_map_eq_ok h
      rw [hconfig]
      rfl
  | list =>
    rw [extract] at h
    rw [isConfigured]
    split at h
    · rename_i hnone
      cases h
      rw [hnone]
      rfl
    · rename_i rows hrows
      obtain ⟨_, -, rfl⟩ := exists_of_map_eq_ok h
      rw [hrows]
      rfl
  | _ =>
    cases h
    exact Option.isSome_map

end ConditionKind

namespace PredicateSet

/-- Collecting fails as the first kind that fails. -/
theorem outcome_collect (kinds : List ConditionKind) :
    outcome (collect parser c kinds) = forM kinds fun kind => outcome (kind.extract parser c) := by
  induction kinds with
  | nil => rfl
  | cons kind kinds ih =>
    rw [collect, List.forM_cons, ← ih]
    exact outcome_bind fun p => outcome_bind_ok ..

theorem outcome_ofConditions :
    outcome (ofConditions parser c) = forM c.placed fun d => outcome (parser d.2) := by
  rw [ofConditions, outcome_collect, ContextConditions.placed, forM_flatMap]
  simp only [ConditionKind.outcome_extract]

/-- The predicates that are collected are those of the kinds that are configured, in the order of
the kinds, and each is the one that its kind extracts. -/
theorem of_collect {kinds : List ConditionKind} {ps : PredicateSet}
    (h : collect parser c kinds = .ok ps) :
    ps.kinds = kinds.filter (·.isConfigured c) ∧
      ∀ e ∈ ps, e.1.extract parser c = .ok (some e.2) := by
  induction kinds generalizing ps with
  | nil =>
    cases h
    exact ⟨rfl, List.forall_mem_nil _⟩
  | cons kind kinds ih =>
    obtain ⟨p, hp, h⟩ := exists_of_bind_eq_ok h
    obtain ⟨rest, hrest, h⟩ := exists_of_bind_eq_ok h
    obtain ⟨hkinds, hextract⟩ := ih hrest
    have hconfigured := ConditionKind.isSome_of_extract hp
    cases p with
    | none =>
      cases h
      rw [List.filter_cons_of_neg (by simp [← hconfigured])]
      exact ⟨hkinds, hextract⟩
    | some p =>
      cases h
      rw [List.filter_cons_of_pos hconfigured.symm]
      exact ⟨congrArg (kind :: ·) hkinds, List.forall_mem_cons.2 ⟨hp, hextract⟩⟩

/-- Predicates that each kind extracts hold together when each of them holds. -/
theorem evaluate_iff {ps : PredicateSet} (h : ∀ e ∈ ps, e.1.extract parser c = .ok (some e.2))
    (x : Context) :
    ps.evaluate x = true ↔
      ∀ kind ∈ ps.kinds, ∃ p, kind.extract parser c = .ok (some p) ∧ p.evaluate x = true := by
  rw [evaluate, List.all_eq_true, kinds, List.forall_mem_map]
  refine forall₂_congr fun e he => ?_
  rw [h e he]
  constructor
  · exact fun hold => ⟨e.2, rfl, hold⟩
  · rintro ⟨p, hp, hold⟩
    cases hp
    exact hold

/-- **Predicates are built kind by kind.** Whatever reads the patterns, the predicates of conditions
can be built exactly if each kind can extract its own. Then they are those of the kinds that are
configured, in the order of all kinds and none twice, and they hold of a context exactly if for each
of these kinds the predicate that it extracts does. With the rows in order, as in all conditions
that are read, they fail exactly with the failure of the first description that cannot be read, in
the order of the properties by name, the rows by position, and the fields of a row by name. -/
theorem ofConditions_kind_by_kind (parser : PatternParser) (c : ContextConditions) :
    ((∃ ps, ofConditions parser c = .ok ps) ↔
      ∀ kind : ConditionKind, ∃ p, kind.extract parser c = .ok p) ∧
    (∀ ps, ofConditions parser c = .ok ps →
      ps.kinds = ConditionKind.all.filter (·.isConfigured c) ∧ ps.kinds.Nodup ∧
      ∀ x, ps.evaluate x = true ↔
        ∀ kind ∈ ps.kinds, ∃ p, kind.extract parser c = .ok (some p) ∧ p.evaluate x = true) ∧
    (c.RowsOrdered → ∀ e, ofConditions parser c = .error e ↔
      ∃ place description, c.descriptionAt place = some description ∧
        parser description = .error e ∧
        ∀ earlier d, PatternPlace.Before earlier place → c.descriptionAt earlier = some d →
          ∃ m, parser d = .ok m) := by
  refine ⟨?_, fun ps hps => ?_, fun hc e => ?_⟩
  · rw [← outcome_eq_ok_iff, ofConditions, outcome_collect, forM_eq_ok_iff]
    simp only [outcome_eq_ok_iff]
    exact ⟨fun h kind => h kind kind.mem_all, fun h kind _ => h kind⟩
  · obtain ⟨hkinds, hextract⟩ := of_collect hps
    have hnodup : ConditionKind.all.Nodup := by decide
    exact ⟨hkinds, hkinds ▸ hnodup.filter _, evaluate_iff hextract⟩
  · rw [← outcome_eq_error_iff, outcome_ofConditions,
      forM_eq_error_iff_of_pairwise (fun _ _ => PatternPlace.Before.asymm)
        (ContextConditions.pairwise_placed hc)]
    simp only [Prod.exists, Prod.forall, ContextConditions.mem_placed hc, outcome_eq_ok_iff,
      outcome_eq_error_iff]
    refine exists₂_congr fun place description => and_congr_right fun _ => and_congr_right fun _ =>
      forall₂_congr fun earlier d => ?_
    exact ⟨fun h hbefore hd => h hd hbefore, fun h hd hbefore => h hbefore hd⟩

/-- Conditions as they are written, with a fault at the row `0` and one at the last row. -/
def faultyParameters : Json :=
  .ofMembers
    [("hasContext", .str "a"),
     ("list", .ofMembers
      [("0", .ofMembers [("item", .int 1)]),
       ("last", .ofMembers [("item", .ofMembers [("equalTo", .str "tea")]), ("size", .null)])]),
     ("property", .ofMembers [("state", .ofMembers [("equalTo", .str "open")])])]

/-- The same conditions as they are read. -/
def faultyConditions : ContextConditions where
  hasContext := "a"
  property := some (.ofList [("state", .ofMembers [("equalTo", .str "open")])])
  list := some
    [(.last, .ofList [("item", .ofMembers [("equalTo", .str "tea")]), ("size", .null)]),
     (.index .zero, .ofList [("item", .int 1)])]

/-- The fault of the last row counts, which in the order of the keys is the second. -/
theorem ofConditions_kind_by_kind_faulty :
    ContextConditions.ofJson faultyParameters = .ok faultyConditions ∧
      faultyConditions.RowsOrdered ∧
      ofConditions Pattern.parser faultyConditions =
        .error (.invalidPattern "expected an object, got null") := by
  have hread : ContextConditions.ofJson faultyParameters = .ok faultyConditions := rfl
  have hrows := ContextConditions.rowsOrdered_of_ofJson hread
  refine ⟨hread, hrows, ((ofConditions_kind_by_kind Pattern.parser faultyConditions).2.2 hrows _).2
    ⟨.row .last "size", .null, rfl, rfl, fun earlier d hbefore hd => ?_⟩⟩
  cases hbefore with
  | propertyRow =>
    cases List.mem_singleton.1 (KeyMap.mem_toList.2 hd)
    exact ⟨_, rfl⟩
  | @rows p _ _ _ hp =>
    -- there are no conditions on the first row
    cases p with
    | first => cases hd
    | last => exact absurd hp (lt_irrefl _)
    | index n => exact absurd hp (by simp [ListPosition.rank])
  | fields hlt =>
    rcases List.mem_cons.1 (KeyMap.mem_toList.2 hd) with h | h
    · cases h
      exact ⟨_, rfl⟩
    · cases List.mem_singleton.1 h
      exact absurd hlt (String.lt_irrefl _)

end PredicateSet

end KeyedState

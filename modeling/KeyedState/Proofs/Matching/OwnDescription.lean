import KeyedState.Proofs.Matching.Equality
import KeyedState.Proofs.Matching.RowConditions
import KeyedState.Proofs.Template.Literal
import KeyedState.Proofs.Template.Placeholder

/-!
# A context matches its own description

Templates can ask of a property, or of a field of a row, that it equals itself as the context shows
it. Every context satisfies that, whatever its values are (`StateMatcher.matchRequest_ownDescription`):
the path leads to just the value, the value is put in without being read again, and the rendered
description is read back as equality with it.
-/

namespace KeyedState

namespace Template

/-- The template of a property of the context. -/
def ofProperty (name : String) : String :=
  "\x7b\x7bcontext.properties." ++ name ++ "\x7d\x7d"

/-- The template of a field of a row of the context. -/
def ofField (n : U64) (field : String) : String :=
  "\x7b\x7bcontext.list.[" ++ toString n.val ++ "]." ++ field ++ "\x7d\x7d"

theorem ofProperty_eq (name : String) :
    ofProperty name = placeholder [.key "context", .key "properties", .key name] := by
  have hbefore : "\x7b\x7bcontext.properties.".toList =
      opening ++ ("context".toList ++ '.' :: ("properties".toList ++ ['.'])) :=
    rfl
  have hafter : "\x7d\x7d".toList = closing := rfl
  unfold ofProperty
  rw [← String.toList_inj, toList_placeholder, String.toList_append, String.toList_append, hbefore,
    hafter]
  simp [Path.written, Segment.written, List.intercalate_cons_cons]

theorem ofField_eq (n : U64) (field : String) :
    ofField n field = placeholder [.key "context", .key "list", .index n.val, .key field] := by
  have hbefore : "\x7b\x7bcontext.list.[".toList =
      opening ++ ("context".toList ++ '.' :: ("list".toList ++ ['.', '['])) :=
    rfl
  have hbetween : "].".toList = [']', '.'] := rfl
  have hafter : "\x7d\x7d".toList = closing := rfl
  unfold ofField
  rw [← String.toList_inj, toList_placeholder, Nat.toString_eq_ofList_toDigits]
  simp only [String.toList_append, hbefore, hbetween, hafter]
  simp [Path.written, Segment.written, List.intercalate_cons_cons]

/-- What a path leads to among texts that are shown by their names. -/
theorem follow_textsToJson {texts : KeyMap String} {name value : String}
    (h : texts.get? name = some value) :
    Path.follow [.key name] (Context.textsToJson texts) = some (.str value) := by
  have hget : Entries.get? name (texts.toList.map fun e => (e.1, Json.str e.2)) =
      some (.str value) := by
    rw [Entries.get?_map fun _ => Json.str]
    exact congrArg (Option.map Json.str) h
  simp [Path.follow, Segment.follow, Context.textsToJson, Json.ofMap, hget]

variable {request : Json} {c : Context}

/-- The template of a property renders to its value, whatever that is. -/
theorem render_ofProperty {name value : String} (hname : IsPathName name)
    (hvalue : c.properties.get? name = some value) :
    render (StateMatcher.contextModel request c) (ofProperty name) = .ok value := by
  have hfollow : Path.follow [.key "context", .key "properties", .key name]
      (StateMatcher.contextModel request c) = some (.str value) :=
    follow_textsToJson hvalue
  rw [ofProperty_eq, render_placeholder (List.cons_ne_nil _ _), hfollow]
  · rfl
  · intro s hs
    simp only [List.mem_cons, List.not_mem_nil, or_false] at hs
    rcases hs with rfl | rfl | rfl
    · exact isPathName_of_letters (by decide) (by decide)
    · exact isPathName_of_letters (by decide) (by decide)
    · exact hname

/-- The template of a field of a row renders to its value, whatever that is. -/
theorem render_ofField {n : U64} {row : Row} {field value : String} (hfield : IsPathName field)
    (hrow : c.rows[n.val]? = some row) (hvalue : row.get? field = some value) :
    render (StateMatcher.contextModel request c) (ofField n field) = .ok value := by
  have hfollow : Path.follow [.key "context", .key "list", .index n.val, .key field]
      (StateMatcher.contextModel request c) = some (.str value) := by
    have hitem : (c.rows.map Context.textsToJson)[n.val]? = some (Context.textsToJson row) := by
      rw [List.getElem?_map, hrow]
      rfl
    have hlist : Path.follow [.key "context", .key "list", .index n.val, .key field]
        (StateMatcher.contextModel request c) =
          (c.rows.map Context.textsToJson)[n.val]?.bind (Path.follow [.key field]) :=
      rfl
    rw [hlist, hitem]
    exact follow_textsToJson hvalue
  rw [ofField_eq, render_placeholder (List.cons_ne_nil _ _), hfollow]
  · rfl
  · intro s hs
    simp only [List.mem_cons, List.not_mem_nil, or_false] at hs
    rcases hs with rfl | rfl | rfl | rfl
    · exact isPathName_of_letters (by decide) (by decide)
    · exact isPathName_of_letters (by decide) (by decide)
    · exact Nat.le_of_lt_succ n.isLt
    · exact hfield

end Template

/-- Conditions on one row are read under a key that names its position. -/
theorem ContextConditions.decodeList_of_namedBy {position : ListPosition} {key : String}
    (h : position.NamedBy key) (config : PatternConfig) :
    decodeList (.object [(key, .object config.entries)]) = .ok [(position, config)] := by
  have hread : decodePatterns (.object config.entries) = .ok config :=
    Decoder.map_any config.ordered
  have hentries : (KeyMap.ofList [(key, config)]).toList = [(key, config)] :=
    KeyMap.toList_ofList (List.pairwise_singleton ..)
  simp [decodeList, Decoder.map, Decoder.memberValues, hread, hentries, byPosition,
    ListPosition.parse_eq_ok_iff.2 h, PositionMap.insert]

namespace StateMatcher

/-- The question whether a property of a context and a field of one of its rows are what the context
shows of them. -/
def ownDescription (id name : String) (n : U64) (field : String) : Json :=
  .object
    [("hasContext", .str id),
     ("list", .object
       [(toString n.val, .object [(field, Pattern.equality (.str (Template.ofField n field)))])]),
     ("property", .object [(name, Pattern.equality (.str (Template.ofProperty name)))])]

theorem conditionsHold_ownDescription {request : Json} {c : Context} {name value : String} {n : U64}
    {row : Row} {field fieldValue : String} (hid : Template.IsLiteral c.id)
    (hname : IsPathName name) (hvalue : c.property name = some value) (hfield : IsPathName field)
    (hrow : c.rows[n.val]? = some row) (hfieldValue : row.get? field = some fieldValue) :
    ({} : StateMatcher).conditionsHold request (ownDescription c.id name n field) c = .ok true := by
  have hword := fun text h => Template.render_of_not_mem text h (contextModel request c)
  have hkey := fun {text} (h : IsPathName text) =>
    (Template.isLiteral_of_not_mem_closing h.no_brace).render_eq (contextModel request c)
  have hindex := Template.render_of_not_mem (toString n.val)
    (fun hc => (isNumeral_toString_nat n.val _ hc).ne_brace rfl) (contextModel request c)
  let rows := Json.object [(toString n.val, .object (PatternConfig.equalTo field fieldValue).entries)]
  let members := [("hasContext", Json.str c.id), ("list", rows),
    ("property", .object (PatternConfig.equalTo name value).entries)]
  have hmembers : Entries.Ordered members :=
    Entries.ordered_iff_keys.2 (show ["hasContext", "list", "property"].Pairwise (· < ·) by decide)
  have hrendered : Renders (Template.render (contextModel request c))
      (ownDescription c.id name n field) (.object members) := by
    have hrows := PatternConfig.renders_equalTo (hword "equalTo" (by decide)) (hkey hfield)
      (Template.render_ofField hfield hrow hfieldValue)
    have hproperty := PatternConfig.renders_equalTo (hword "equalTo" (by decide)) (hkey hname)
      (Template.render_ofProperty hname hvalue)
    refine .object (.cons ⟨hword "hasContext" (by decide), .str (hid.render_eq _)⟩ ?_) hmembers
    refine .cons ⟨hword "list" (by decide), ?_⟩ (.cons ⟨hword "property" (by decide), hproperty⟩ .nil)
    exact .object (.cons ⟨hindex, hrows⟩ .nil) (List.pairwise_singleton ..)
  have hconditions : ContextConditions.ofJson (.object members) =
      .ok { hasContext := c.id, property := some (.equalTo name value),
            list := some [(.index n, .equalTo field fieldValue)] } := by
    refine mapError_eq_ok_iff.2 ((ContextConditions.decode_object_iff hmembers).2 ⟨rfl, ?_⟩)
    have hlist : ContextConditions.decodeList rows =
        .ok [(.index n, .equalTo field fieldValue)] :=
      ContextConditions.decodeList_of_namedBy (.index (Integer.spells_toString n.val)) _
    rw [ContextConditions.areRead_iff]
    simp [members, Entries.get?, Decoder.string, Decoder.optional, hlist,
      ContextConditions.decodePatterns, Decoder.map_any (PatternConfig.equalTo name value).ordered]
  refine conditionsHold_of_holdIn (renderJson_of_renders hrendered) hconditions fun kind => ?_
  cases kind with
  | property => exact forall_mem_some.2 (PatternConfig.isMatched_equalTo hvalue)
  | list =>
    refine forall_mem_some.2 (List.forall_mem_singleton.2 ?_)
    exact ⟨row, hrow, PatternConfig.isMatched_equalTo hfieldValue⟩
  | _ => exact forall_mem_none _

/-- **A context matches its own description.** Of every context that the store shows under a literal
id, a property and a field of a row are matched by the equality with what a template shows of them,
whatever their values are, if their names can stand in a path. -/
theorem matchRequest_ownDescription (wall : Instant) (s : MemoryStore Context) (request : Json)
    (c : Context) (name value : String) (n : U64) (row : Row) (field fieldValue : String)
    (hstored : ((ContextStore.get c.id).run MemoryStore.backend wall s).1 = .ok (some c))
    (hid : Template.IsLiteral c.id) (hname : IsPathName name)
    (hvalue : c.property name = some value) (hfield : IsPathName field)
    (hrow : c.rows[n.val]? = some row) (hfieldValue : row.get? field = some fieldValue) :
    (({} : StateMatcher).matchRequest request (ownDescription c.id name n field)).run
      MemoryStore.backend wall s = (.ok true, s) := by
  have hvisible := ContextStore.get?_of_run_get hstored
  have hne : c.id ≠ "" := by
    rintro hempty
    rw [hempty] at hstored
    cases hstored
  rw [ownDescription, run_matchRequest_of_visible rfl rfl (hid.render_eq _) hne hvisible]
  exact congrArg (·, s) (conditionsHold_ownDescription hid hname hvalue hfield hrow hfieldValue)

/-- A context whose values look like templates and like descriptions. -/
def oddContext : Context :=
  ⟨"note \x7b\x7b7", .ofList [("text", "\x7b\x7bcontext.id\x7d\x7d\n")],
    [∅, .ofList [("\x7b\x7bno", "\"\x7d\x7d, \"absent\": true")]], .zero, none⟩

/-- It matches its own description, under a name that is itself half a placeholder. -/
theorem matchRequest_oddContext :
    ((ContextStore.get oddContext.id).run MemoryStore.backend .epoch
        ((MemoryStore.new .epoch).setSlot oddContext.id ⟨oddContext, none⟩)).1 =
          .ok (some oddContext) ∧
      (({} : StateMatcher).matchRequest orderRequest
        (ownDescription oddContext.id "text" ⟨1, by decide⟩ "\x7b\x7bno")).run MemoryStore.backend
          .epoch ((MemoryStore.new .epoch).setSlot oddContext.id ⟨oddContext, none⟩) =
            (.ok true, (MemoryStore.new .epoch).setSlot oddContext.id ⟨oddContext, none⟩) := by
  have hstored : ((ContextStore.get oddContext.id).run MemoryStore.backend .epoch
      ((MemoryStore.new .epoch).setSlot oddContext.id ⟨oddContext, none⟩)).1 =
        .ok (some oddContext) :=
    rfl
  have hfield : IsPathName "\x7b\x7bno" :=
    ⟨by decide, by decide, by decide, by simp [isBlank], fun inner h => by simp at h⟩
  refine ⟨hstored, ?_⟩
  exact matchRequest_ownDescription .epoch _ orderRequest oddContext "text" _ ⟨1, by decide⟩ _
    "\x7b\x7bno" _ hstored (Template.isLiteral_of_not_mem_closing (by decide))
    (isPathName_of_letters (by decide) (by decide)) rfl hfield rfl rfl

end StateMatcher

end KeyedState

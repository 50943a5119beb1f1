import KeyedState.Proofs.KeyMap.InsertAll
import KeyedState.Settings.Json

/-!
# Settings in a value

What settings that are read from a document say about the value of that document. Each part of a
record is written at its place in the value, or it is the default where nothing stands there
(`Document.SetAt.gives`); so a document of settings with a value has them written in that value
(`Settings.writtenIn_of_record`).
-/

namespace KeyedState

namespace Json

variable {α β : Type}

/-- What stands in a value at a name or, in an array, at an index. -/
def field? (v : Json) (name : String) (i : Nat) : Option Json :=
  match v with
  | .object ms => Entries.get? name ms
  | .array vs => vs[i]?
  | _ => none

/-- What may stand somewhere stands for `b`, which is the default where nothing stands. -/
def Gives (stands : Json → β → Prop) (default : β) : Option Json → β → Prop
  | none, b => b = default
  | some v, b => stands v b

namespace Document

/-! ## Fields of records -/

/-- Setting a field stores what is read. -/
def Field.Stores (f : Field α) (read : Document → Option β) (get : α → β) : Prop :=
  ∀ d r r', f.set d r = some r' → read d = some (get r')

/-- Setting a field leaves a part of the record alone. -/
def Field.Keeps (f : Field α) (get : α → β) : Prop := ∀ d r r', f.set d r = some r' → get r' = get r

/-- A part of a record belongs to the field of a name at an index. -/
inductive SetAt (name : String) (read : Document → Option β) (get : α → β) :
    Nat → List (Field α) → Prop
  /-- The field stands first. -/
  | here {f : Field α} {fs : List (Field α)} (hname : f.name = name) (hf : f.Stores read get)
      (hfs : ∀ g ∈ fs, g.name ≠ name ∧ g.Keeps get) : SetAt name read get 0 (f :: fs)
  /-- Another field stands first. -/
  | there {f : Field α} {fs : List (Field α)} {i : Nat} (hname : f.name ≠ name) (hf : f.Keeps get)
      (hfs : SetAt name read get i fs) : SetAt name read get (i + 1) (f :: fs)

variable {name : String} {read : Document → Option β} {get : α → β} {i depth : Nat}
  {fields : List (Field α)} {stands : Json → β → Prop}

theorem SetAt.find?_self (h : SetAt name read get i fields) :
    ∃ f, fields.find? (·.name == name) = some f ∧ f.Stores read get := by
  induction h with
  | here hname hf _ => exact ⟨_, List.find?_cons_of_pos (beq_iff_eq.2 hname), hf⟩
  | there hname _ _ ih =>
    obtain ⟨f, hfound, hf⟩ := ih
    rw [← beq_eq_false_iff_ne] at hname
    exact ⟨f, by rw [List.find?_cons, hname, hfound], hf⟩

theorem SetAt.keeps_of_find? (h : SetAt name read get i fields) {n : String} (hn : n ≠ name)
    {f : Field α} (hf : fields.find? (·.name == n) = some f) : f.Keeps get := by
  have hmem := List.mem_of_find?_eq_some hf
  have hname := List.find?_some hf
  rw [beq_iff_eq] at hname
  clear hf
  induction h with
  | here hself _ hothers =>
    rcases List.mem_cons.1 hmem with rfl | hmem
    · exact absurd (hname.symm.trans hself) hn
    · exact (hothers f hmem).2
  | there _ hkeeps _ ih =>
    rcases List.mem_cons.1 hmem with rfl | hmem
    · exact hkeeps
    · exact ih hmem

/-! ## Objects -/

theorem memberValues?_cons {n : String} {d : Document} {ms : List (Option String × Document)}
    {vs : List (String × Json)} (h : memberValues? depth ((some n, d) :: ms) = some vs) :
    ∃ v rest, value? depth d = some v ∧ memberValues? depth ms = some rest ∧
      vs = (n, v) :: rest := by
  unfold memberValues? at h
  split at h
  · rename_i name v rest hname hv hrest
    cases hname
    exact ⟨v, rest, hv, hrest, (Option.some.inj h).symm⟩
  · cases h

/-- A name that stood before does not stand again. -/
theorem SetAt.setNamed_of_seen (h : SetAt name read get i fields)
    {ms : List (Option String × Document)} {vs : List (String × Json)}
    (hvs : memberValues? depth ms = some vs) {seen : List String} (hseen : name ∈ seen) {r r' : α}
    (hr : setNamed fields seen ms r = some r') :
    Entries.get? name vs.reverse = none ∧ get r' = get r := by
  induction ms generalizing vs seen r with
  | nil =>
    cases hvs
    cases hr
    exact ⟨rfl, rfl⟩
  | cons m ms ih =>
    obtain ⟨_ | n, d⟩ := m
    · cases hr
    obtain ⟨v, rest, -, hrest, rfl⟩ := memberValues?_cons hvs
    rw [setNamed] at hr
    have hother : n ≠ name → Entries.get? name [(n, v)] = none := fun hn => by
      rw [Entries.get?, if_neg (Ne.symm hn)]
      rfl
    rw [List.reverse_cons, Entries.get?_append]
    split at hr
    · rename_i hnone
      have hn : n ≠ name := by
        rintro rfl
        obtain ⟨f, hf, -⟩ := h.find?_self
        rw [hnone] at hf
        cases hf
      obtain ⟨hget, hkeep⟩ := ih hrest hseen hr
      rw [hget, hother hn]
      exact ⟨rfl, hkeep⟩
    · rename_i f hf
      split at hr
      · cases hr
      · rename_i hnew
        have hn : n ≠ name := by
          rintro rfl
          exact hnew (List.contains_iff_mem.2 hseen)
        obtain ⟨r₁, hset, hr⟩ := Option.bind_eq_some_iff.1 hr
        obtain ⟨hget, hkeep⟩ := ih hrest (List.mem_cons_of_mem _ hseen) hr
        rw [hget, hother hn]
        exact ⟨rfl, hkeep.trans (h.keeps_of_find? hn hf d r r₁ hset)⟩

theorem SetAt.setNamed (h : SetAt name read get i fields)
    (hread : ∀ d v b, value? depth d = some v → read d = some b → stands v b)
    {ms : List (Option String × Document)} {vs : List (String × Json)}
    (hvs : memberValues? depth ms = some vs) {seen : List String} {r r' : α}
    (hr : setNamed fields seen ms r = some r') :
    Gives stands (get r) (Entries.get? name vs.reverse) (get r') := by
  induction ms generalizing vs seen r with
  | nil =>
    cases hvs
    cases hr
    rfl
  | cons m ms ih =>
    obtain ⟨_ | n, d⟩ := m
    · cases hr
    obtain ⟨v, rest, hv, hrest, rfl⟩ := memberValues?_cons hvs
    rw [List.reverse_cons, Entries.get?_append, Entries.get?]
    by_cases hn : name = n
    · subst hn
      -- a second member of this name would be refused, so the part keeps what is stored here
      obtain ⟨f, hf, hstores⟩ := h.find?_self
      rw [Document.setNamed, hf] at hr
      simp only at hr
      split at hr
      · cases hr
      · obtain ⟨r₁, hset, hr⟩ := Option.bind_eq_some_iff.1 hr
        obtain ⟨hget, hkeep⟩ := h.setNamed_of_seen hrest List.mem_cons_self hr
        rw [hget, if_pos rfl, hkeep]
        exact hread d v _ hv (hstores d r r₁ hset)
    · rw [if_neg hn, Entries.get?_nil, Option.or_none]
      rw [Document.setNamed] at hr
      split at hr
      · exact ih hrest hr
      · rename_i f hf
        split at hr
        · cases hr
        · obtain ⟨r₁, hset, hr⟩ := Option.bind_eq_some_iff.1 hr
          rw [← h.keeps_of_find? (Ne.symm hn) hf d r r₁ hset]
          exact ih hrest hr

/-! ## Arrays -/

theorem values?_cons {d : Document} {ds : List Document} {vs : List Json}
    (h : values? depth (d :: ds) = some vs) :
    ∃ v rest, value? depth d = some v ∧ values? depth ds = some rest ∧ vs = v :: rest := by
  unfold values? at h
  split at h
  · rename_i v rest hv hrest
    exact ⟨v, rest, hv, hrest, (Option.some.inj h).symm⟩
  · cases h

theorem setPositional_of_keeps (h : ∀ f ∈ fields, f.Keeps get) {ds : List Document} {r r' : α}
    (hr : setPositional fields ds r = some r') : get r' = get r := by
  induction fields generalizing ds r with
  | nil =>
    cases ds with
    | nil => cases hr; rfl
    | cons d ds => cases hr
  | cons f fs ih =>
    cases ds with
    | nil => cases hr; rfl
    | cons d ds =>
      obtain ⟨hf, hfs⟩ := List.forall_mem_cons.1 h
      obtain ⟨r₁, hset, hr⟩ := Option.bind_eq_some_iff.1 hr
      exact (ih hfs hr).trans (hf d r r₁ hset)

theorem SetAt.setPositional (h : SetAt name read get i fields)
    (hread : ∀ d v b, value? depth d = some v → read d = some b → stands v b)
    {ds : List Document} {vs : List Json} (hvs : values? depth ds = some vs) {r r' : α}
    (hr : setPositional fields ds r = some r') : Gives stands (get r) vs[i]? (get r') := by
  induction h generalizing ds vs r with
  | here _ hstores hothers =>
    cases ds with
    | nil => cases hvs; cases hr; rfl
    | cons d ds =>
      obtain ⟨v, rest, hv, -, rfl⟩ := values?_cons hvs
      obtain ⟨r₁, hset, hr⟩ := Option.bind_eq_some_iff.1 hr
      rw [setPositional_of_keeps (fun f hf => (hothers f hf).2) hr]
      exact hread d v _ hv (hstores d r r₁ hset)
  | there _ hkeeps _ ih =>
    cases ds with
    | nil => cases hvs; cases hr; rfl
    | cons d ds =>
      obtain ⟨v, rest, -, hrest, rfl⟩ := values?_cons hvs
      obtain ⟨r₁, hset, hr⟩ := Option.bind_eq_some_iff.1 hr
      rw [List.getElem?_cons_succ, ← hkeeps d r r₁ hset]
      exact ih hrest hr

/-- A part of a record that is read from a document is what stands at its place in the value of the
document. -/
theorem SetAt.gives (h : SetAt name read get i fields)
    (hread : ∀ depth d v b, value? depth d = some v → read d = some b → stands v b)
    {d : Document} {v : Json} (hv : value? depth d = some v) {r r' : α}
    (hr : record fields r d = some r') : Gives stands (get r) (v.field? name i) (get r') := by
  cases d with
  | object ms =>
    cases depth with
    | zero => cases hv
    | succ depth =>
      obtain ⟨vs, hvs, rfl⟩ := Option.map_eq_some_iff.1 hv
      have hlast : Entries.get? name (Entries.insertAll vs []) = Entries.get? name vs.reverse :=
        KeyMap.get?_ofList vs name
      have hgives := h.setNamed (hread depth) hvs hr
      rw [← hlast] at hgives
      exact hgives
  | array ds =>
    cases depth with
    | zero => cases hv
    | succ depth =>
      obtain ⟨vs, hvs, rfl⟩ := Option.map_eq_some_iff.1 hv
      exact h.setPositional (hread depth) hvs hr
  | _ => cases hr

/-! ## Values of what is read -/

theorem Field.stores_map {n : String} {put : β → α → α} (h : ∀ b r, get (put b r) = b) :
    Field.Stores ⟨n, fun d r => (read d).map fun b => put b r⟩ read get := by
  intro d r r' hr
  obtain ⟨b, hb, rfl⟩ := Option.map_eq_some_iff.1 hr
  rw [hb, h]

theorem Field.keeps_map {γ : Type} {n : String} {read : Document → Option γ} {put : γ → α → α}
    (h : ∀ c r, get (put c r) = get r) :
    Field.Keeps ⟨n, fun d r => (read d).map fun c => put c r⟩ get := by
  intro d r r' hr
  obtain ⟨c, -, rfl⟩ := Option.map_eq_some_iff.1 hr
  exact h c r

variable {d : Document} {v : Json}

theorem eq_str_of_text? {s : String} (hv : value? depth d = some v) (h : text? d = some s) :
    v = .str s := by
  cases d with
  | text t =>
    rw [text?] at h
    rw [value?, h] at hv
    exact (Option.some.inj hv).symm
  | _ => cases h

theorem eq_bool_of_bool? {b : Bool} (hv : value? depth d = some v) (h : bool? d = some b) :
    v = .bool b := by
  cases d with
  | bool c =>
    cases h
    exact (Option.some.inj hv).symm
  | _ => cases h

theorem eq_of_optionalU64 {t : Option U64} (hv : value? depth d = some v)
    (h : optionalU64 d = some t) : v = Settings.optionalToJson t := by
  cases d with
  | null =>
    cases h
    exact (Option.some.inj hv).symm
  | number l =>
    obtain ⟨n, hn, rfl⟩ := Option.map_eq_some_iff.1 h
    obtain ⟨m, hm, hn⟩ := Option.bind_eq_some_iff.1 hn
    rw [value?, Literal.value?, hm, U64.ofInt?_eq_some_iff.1 hn] at hv
    exact (Option.some.inj hv).symm
  | _ => cases h

theorem eq_map_of_textMembers? {ms : List (Option String × Document)} {vs : List (String × Json)}
    {ps : List (String × String)} (hvs : memberValues? depth ms = some vs)
    (h : textMembers? ms = some ps) : vs = ps.map fun p => (p.1, .str p.2) := by
  induction ms generalizing vs ps with
  | nil =>
    cases hvs
    cases h
    rfl
  | cons m ms ih =>
    obtain ⟨name, d⟩ := m
    unfold textMembers? at h
    split at h
    · rename_i n s rest hs hrest
      cases h
      obtain ⟨v, us, hv, hus, rfl⟩ := memberValues?_cons hvs
      rw [List.map_cons, ih hus hrest, eq_str_of_text? hv hs]
    · cases h

theorem eq_ofMap_of_texts? {m : KeyMap String} (hv : value? depth d = some v)
    (h : texts? d = some m) : v = .ofMap .str m := by
  cases d with
  | object ms =>
    obtain ⟨ps, hps, rfl⟩ := Option.map_eq_some_iff.1 h
    cases depth with
    | zero => cases hv
    | succ depth =>
      obtain ⟨vs, hvs, rfl⟩ := Option.map_eq_some_iff.1 hv
      rw [eq_map_of_textMembers? hvs hps]
      exact congrArg Json.object (Entries.insertAll_map Json.str ps [])
  | _ => cases h

/-- The value of a record is an object, whose members are in order, or an array. -/
theorem collection_of_record {fields : List (Field α)} {r r' : α} (hv : value? depth d = some v)
    (hr : record fields r d = some r') :
    (∃ ms, v = .object ms ∧ Entries.Ordered ms) ∨ ∃ vs, v = .array vs := by
  cases d with
  | object ms =>
    cases depth with
    | zero => cases hv
    | succ depth =>
      obtain ⟨vs, -, rfl⟩ := Option.map_eq_some_iff.1 hv
      exact .inl ⟨_, rfl, Entries.Ordered.nil.insertAll vs⟩
  | array ds =>
    cases depth with
    | zero => cases hv
    | succ depth =>
      obtain ⟨vs, -, rfl⟩ := Option.map_eq_some_iff.1 hv
      exact .inr ⟨vs, rfl⟩
  | _ => cases hr

end Document

end Json

/-! ## Settings -/

open Json (Document)

/-- The settings of a log are written in a value: an object, whose members are in order, or an
array. -/
structure LogSettings.WrittenIn (v : Json) (s : LogSettings) : Prop where
  /-- The value is an object or an array. -/
  collection : (∃ ms, v = .object ms ∧ Entries.Ordered ms) ∨ ∃ vs, v = .array vs
  /-- The level. -/
  level : Json.Gives (fun v l => v = .str l) "info" (v.field? "level" 0) s.level
  /-- The format. -/
  format : Json.Gives (fun v f => v = .str f) "text" (v.field? "format" 1) s.format
  /-- Whether the output is colored. -/
  color : Json.Gives (fun v b => v = .bool b) true (v.field? "color" 2) s.color
  /-- The levels of modules. -/
  modules : Json.Gives (fun v m => v = .ofMap .str m) ∅ (v.field? "modules" 3) s.modules

/-- Settings are written in members. -/
structure Settings.WrittenIn (ms : List (String × Json)) (s : Settings) : Prop where
  /-- The time that a context lives. -/
  defaultTtl : Json.Gives (fun v t => v = optionalToJson t) none
    (Entries.get? "default_ttl_ms" ms) s.defaultTtlMillis
  /-- The time between two sweeps. -/
  sweepInterval : Json.Gives (fun v t => v = optionalToJson t) none
    (Entries.get? "sweep_interval_ms" ms) s.sweepIntervalMillis
  /-- The settings of the log. -/
  logging : Json.Gives LogSettings.WrittenIn {} (Entries.get? "logging" ms) s.logging

namespace LogSettings

open Json.Document

theorem setAt_level : SetAt "level" text? (·.level) 0 documentFields :=
  .here rfl (Field.stores_map fun _ _ => rfl) (by simp [Field.keeps_map])

theorem setAt_format : SetAt "format" text? (·.format) 1 documentFields :=
  .there (by decide) (Field.keeps_map fun _ _ => rfl)
    (.here rfl (Field.stores_map fun _ _ => rfl) (by simp [Field.keeps_map]))

theorem setAt_color : SetAt "color" bool? (·.color) 2 documentFields :=
  .there (by decide) (Field.keeps_map fun _ _ => rfl)
    (.there (by decide) (Field.keeps_map fun _ _ => rfl)
      (.here rfl (Field.stores_map fun _ _ => rfl) (by simp [Field.keeps_map])))

theorem setAt_modules : SetAt "modules" texts? (·.modules) 3 documentFields :=
  .there (by decide) (Field.keeps_map fun _ _ => rfl)
    (.there (by decide) (Field.keeps_map fun _ _ => rfl)
      (.there (by decide) (Field.keeps_map fun _ _ => rfl)
        (.here rfl (Field.stores_map fun _ _ => rfl) (List.forall_mem_nil _))))

/-- Settings of a log that are read from a document are written in its value. -/
theorem writtenIn_of_record {depth : Nat} {d : Document} {v : Json} {s : LogSettings}
    (hv : value? depth d = some v) (hs : record documentFields {} d = some s) : WrittenIn v s where
  collection := collection_of_record hv hs
  level := setAt_level.gives (fun _ _ _ _ => eq_str_of_text?) hv hs
  format := setAt_format.gives (fun _ _ _ _ => eq_str_of_text?) hv hs
  color := setAt_color.gives (fun _ _ _ _ => eq_bool_of_bool?) hv hs
  modules := setAt_modules.gives (fun _ _ _ _ => eq_ofMap_of_texts?) hv hs

end LogSettings

namespace Settings

open Json.Document

theorem setAt_defaultTtl : SetAt "default_ttl_ms" optionalU64 (·.defaultTtlMillis) 0
    documentFields :=
  .here rfl (Field.stores_map fun _ _ => rfl) (by simp [Field.keeps_map])

theorem setAt_sweepInterval : SetAt "sweep_interval_ms" optionalU64 (·.sweepIntervalMillis) 1
    documentFields :=
  .there (by decide) (Field.keeps_map fun _ _ => rfl)
    (.here rfl (Field.stores_map fun _ _ => rfl) (by simp [Field.keeps_map]))

theorem setAt_logging : SetAt "logging" (record LogSettings.documentFields {}) (·.logging) 2
    documentFields :=
  .there (by decide) (Field.keeps_map fun _ _ => rfl)
    (.there (by decide) (Field.keeps_map fun _ _ => rfl)
      (.here rfl (Field.stores_map fun _ _ => rfl) (List.forall_mem_nil _)))

/-- Settings that are read from a text are written in its value, if that is an object. -/
theorem writtenIn_of_ofText? {text : String} {s : Settings} {ms : List (String × Json)}
    (hs : ofText? text = some s) (hms : Json.parse? text = some (.object ms)) :
    Entries.Ordered ms ∧ WrittenIn ms s := by
  obtain ⟨d, hd, hs⟩ := Option.bind_eq_some_iff.1 hs
  rw [Json.parse?, hd, Option.bind_some] at hms
  have hordered : Entries.Ordered ms := by
    rcases collection_of_record hms hs with ⟨_, hobject, hordered⟩ | ⟨_, harray⟩
    · cases hobject
      exact hordered
    · cases harray
  exact ⟨hordered,
    { defaultTtl := setAt_defaultTtl.gives (fun _ _ _ _ => eq_of_optionalU64) hms hs
      sweepInterval := setAt_sweepInterval.gives (fun _ _ _ _ => eq_of_optionalU64) hms hs
      logging := setAt_logging.gives (fun _ _ _ _ => LogSettings.writtenIn_of_record) hms hs }⟩

end Settings

end KeyedState

import KeyedState.Proofs.Settings.Layers
import KeyedState.Proofs.Settings.Times
import KeyedState.Proofs.Settings.Written
import KeyedState.Proofs.Unicode.LowerCase
import KeyedState.Settings.Load

/-!
# The two readers of settings

Settings are read from a text at once (`Settings.ofText?`) or loaded from a file in layers
(`Settings.load?`). Between the two stands the value of the text: what is read from the text is
written in its value (`Settings.writtenIn_of_ofText?`), and members in which settings are written
are read from the layers with times as a layer holds them and names of modules in lower case
(`Settings.ofSetting?_of_writtenIn`). So the two readers agree on texts for which neither makes a
difference (`Settings.load?_of_ofText?`).

A layer knows names only in lower case, and names at the root also as paths. Members whose names
are other spellings of names of settings are passed over in a text, but not in layers, and are
excluded here (`Settings.SoleNames`).
-/

namespace KeyedState

open Json (Gives)

/-! ## Names in lower case -/

/-- The entries under their names in lower case. Of names that agree there the last one counts. -/
def KeyMap.lowered {α : Type} (m : KeyMap α) : KeyMap α :=
  ofList (m.toList.map fun e => (lowerCase e.1, e.2))

theorem KeyMap.lowered_eq_self_iff {α : Type} {m : KeyMap α} :
    m.lowered = m ↔ ∀ name ∈ m.keys, lowerCase name = name := by
  constructor
  · intro h name hname
    rw [← h, mem_keys, lowered, get?_ofList, Option.isSome_iff_ne_none, Ne,
      Entries.get?_eq_none_iff, not_not, List.map_reverse, List.mem_reverse, List.map_map] at hname
    obtain ⟨e, -, rfl⟩ := List.mem_map.1 hname
    exact lowerCase_lowerCase e.1
  · intro h
    have hmap : (m.toList.map fun e => (lowerCase e.1, e.2)) = m.toList := by
      conv_rhs => rw [← List.map_id m.toList]
      refine List.map_congr_left fun e he => ?_
      rw [h e.1 (List.mem_map_of_mem he)]
      rfl
    rw [lowered, hmap, ofList_toList]

/-- The names of the settings of a log. -/
def LogSettings.names : List String := documentFields.map (·.name)

/-- The settings with the names of modules in lower case. -/
def LogSettings.lowered (s : LogSettings) : LogSettings := { s with modules := s.modules.lowered }

theorem LogSettings.lowered_eq_self_iff {s : LogSettings} :
    s.lowered = s ↔ ∀ name ∈ s.modules.keys, lowerCase name = name := by
  rw [← KeyMap.lowered_eq_self_iff]
  constructor
  · exact fun h => congrArg modules h
  · intro h
    rw [lowered, h]

namespace Setting

/-! ## What values become in layers -/

theorem mergeInto_ofJson_str (old : Option Setting) (s : String) :
    mergeInto old (ofJson (.str s)) = .text s := by
  rw [ofJson, mergeInto]

theorem mergeInto_ofJson_bool (old : Option Setting) (b : Bool) :
    mergeInto old (ofJson (.bool b)) = .bool b := by
  rw [ofJson, mergeInto]

theorem mergeInto_ofJson_int (old : Option Setting) (n : Int) :
    mergeInto old (ofJson (.int n)) = ofJson (.int n) := by
  rw [ofJson]
  split
  · rw [mergeInto]
  · rw [mergeInto]

theorem toOptionalU64?_of_toU64? {v : Setting} {n : U64} (h : v.toU64? = some n) :
    v.toOptionalU64? = some (some n) := by
  unfold toOptionalU64?
  split
  · cases h
  · rw [h]
    rfl

/-- A time is read from a layer as the layer holds it, whatever stood there before. -/
theorem toOptionalU64?_mergeInto (old : Option Setting) (t : Option U64) :
    (mergeInto old (ofJson (Settings.optionalToJson t))).toOptionalU64? =
      some (t.map U64.inLayer) := by
  cases t with
  | none =>
    rw [Settings.optionalToJson, ofJson, mergeInto]
    rfl
  | some n =>
    rw [Settings.optionalToJson, mergeInto_ofJson_int]
    exact toOptionalU64?_of_toU64? (toU64?_ofJson_int n)

end Setting

namespace Settings

open Setting

theorem texts?_map (ps : List (String × String)) :
    texts? (ps.map fun p => (p.1, .text p.2)) = some ps := by
  induction ps with
  | nil => rfl
  | cons p ps ih =>
    rw [List.map_cons, texts?, ih]
    rfl

/-- The levels of modules as they stand in a list. -/
theorem modules?_ofJson_ofMap (m : KeyMap String) : modules? (ofJson (.ofMap .str m)) = some m := by
  have hmembers : ofJson (.ofMap .str m) =
      .table (m.toList.map fun e => (e.1, .text e.2)) := by
    rw [Json.ofMap, ofJson, ofMembers_eq_map, List.map_map]
    rfl
  rw [hmembers, modules?, texts?_map, Option.map_some, KeyMap.ofList_toList]

/-- The levels of modules as they are merged into a table. -/
theorem modules?_mergeInto_ofMap (m : KeyMap String) :
    modules? (mergeInto none (ofJson (.ofMap .str m))) = some m.lowered := by
  have hmembers : mergeInto none (ofJson (.ofMap .str m)) =
      .table ((Entries.insertAll (m.toList.map fun e => (lowerCase e.1, e.2)) []).map
        fun e => (e.1, .text e.2)) := by
    have htexts : ∀ e ∈ ofMembers (m.toList.map fun e => (e.1, .str e.2)), ∀ old,
        mergeInto old e.2 = id e.2 := by
      intro e he old
      rw [ofMembers_eq_map, List.map_map] at he
      obtain ⟨e, -, rfl⟩ := List.mem_map.1 he
      exact mergeInto_ofJson_str old e.2
    rw [Json.ofMap, ofJson, mergeInto, Option.getD_none, mergeEntries_table,
      Entries.mergeAll_eq_insertAll htexts, ← Entries.insertAll_map, ofMembers_eq_map]
    simp only [List.map_map]
    rfl
  rw [hmembers, modules?, texts?_map, Option.map_some]
  exact congrArg some (KeyMap.ofList_toList (.ofList _))

/-! ## Reading from layers -/

/-- What may be missing is read as it stands, or from what stands below it. -/
theorem valueOr_of_gives {β : Type} {stands : Json → β → Prop} {default b : β} {found : Option Json}
    (h : Gives stands default found b) {read : Setting → Option β} {f : Json → Setting} {g : β → β}
    (hread : ∀ v b, stands v b → read (f v) = some (g b)) {below : Option Setting}
    (hbelow : valueOr default read below = some (g default)) :
    valueOr default read ((found.map f).or below) = some (g b) := by
  cases found with
  | none =>
    cases h
    exact hbelow
  | some v => exact hread v b h

/-- What stands in a setting at a name or, in a list, at an index. -/
def field? (v : Setting) (name : String) (i : Nat) : Option Setting :=
  match v with
  | .table es => Entries.get? name es
  | .list vs => vs[i]?
  | _ => none

theorem logging?_eq_some {v : Setting} (hv : (∃ es, v = .table es) ∨ ∃ vs, v = .list vs)
    {s : LogSettings} (hlevel : valueOr "info" toText? (field? v "level" 0) = some s.level)
    (hformat : valueOr "text" toText? (field? v "format" 1) = some s.format)
    (hcolor : valueOr true toBool? (field? v "color" 2) = some s.color)
    (hmodules : valueOr ∅ modules? (field? v "modules" 3) = some s.modules) :
    logging? v = some s := by
  rcases hv with ⟨es, rfl⟩ | ⟨vs, rfl⟩
  · simp only [field?] at hlevel hformat hcolor hmodules
    simp [logging?, hlevel, hformat, hcolor, hmodules]
  · simp only [field?] at hlevel hformat hcolor hmodules
    simp [logging?, hlevel, hformat, hcolor, hmodules]

/-- Settings of a log in an array are read as they are written. -/
theorem logging?_of_array {vs : List Json} {s : LogSettings}
    (h : LogSettings.WrittenIn (.array vs) s) : logging? (.list (ofItems vs)) = some s := by
  have hfield : ∀ name i, field? (.list (ofItems vs)) name i =
      (((Json.array vs).field? name i).map ofJson).or none := fun name i => by
    rw [Option.or_none, ofItems_eq_map]
    exact List.getElem?_map
  refine logging?_eq_some (.inr ⟨_, rfl⟩) ?_ ?_ ?_ ?_
  · rw [hfield]
    exact valueOr_of_gives h.level (g := id) (fun v l hv => by rw [hv]; rfl) rfl
  · rw [hfield]
    exact valueOr_of_gives h.format (g := id) (fun v f hv => by rw [hv]; rfl) rfl
  · rw [hfield]
    exact valueOr_of_gives h.color (g := id) (fun v b hv => by rw [hv]; rfl) rfl
  · rw [hfield]
    exact valueOr_of_gives h.modules (g := id)
      (fun v m hv => by rw [hv, modules?_ofJson_ofMap]; rfl) rfl

/-! ## Layers -/

theorem get?_mergeAll_ofMembers {key : String → String}
    {new : String → Option Setting → Setting → Setting} {ms : List (String × Json)}
    (hms : Entries.Ordered ms) {name : String} (hname : key name = name)
    (hsole : ∀ m ∈ ms, key m.1 = name → key m.1 = m.1) (es : List (String × Setting)) :
    Entries.get? name (Entries.mergeAll key new (ofMembers ms) es) =
      ((Entries.get? name ms).map fun v => new name (Entries.get? name es) (ofJson v)).or
        (Entries.get? name es) := by
  have honly : ∀ p ∈ ofMembers ms, key p.1 = name → p.1 = name := by
    intro p hp hkey
    rw [ofMembers_eq_map] at hp
    obtain ⟨m, hm, rfl⟩ := List.mem_map.1 hp
    exact (hsole m hm hkey).symm.trans hkey
  rw [Entries.get?_mergeAll hname (ordered_ofMembers hms) honly, get?_ofMembers, Option.map_map]
  rfl

/-- The defaults of a log as they stand in the lowest layer. -/
def logDefaults : List (String × Setting) := [("format", .text "text"), ("level", .text "info")]

/-- Settings of a log in an object are read with the names of modules in lower case, if each part
stands under no other name than its own. -/
theorem logging?_of_object {ms : List (String × Json)} {s : LogSettings}
    (hms : Entries.Ordered ms) (h : LogSettings.WrittenIn (.object ms) s)
    (hsole : ∀ m ∈ ms, lowerCase m.1 ∈ LogSettings.names → lowerCase m.1 = m.1) :
    logging? (mergeInto (some (.table logDefaults)) (ofJson (.object ms))) = some s.lowered := by
  have hmerged : mergeInto (some (.table logDefaults)) (ofJson (.object ms)) =
      .table (Entries.mergeAll lowerCase (fun _ => mergeInto) (ofMembers ms) logDefaults) := by
    rw [ofJson, mergeInto, Option.getD_some, mergeEntries_table]
  have hlower : ∀ name ∈ LogSettings.names, lowerCase name = name := by decide +kernel
  have hfield : ∀ name ∈ LogSettings.names, ∀ i,
      field? (mergeInto (some (.table logDefaults)) (ofJson (.object ms))) name i =
        (((Json.object ms).field? name i).map fun v =>
          mergeInto (Entries.get? name logDefaults) (ofJson v)).or
            (Entries.get? name logDefaults) := by
    intro name hname i
    rw [hmerged]
    exact get?_mergeAll_ofMembers hms (hlower name hname)
      (fun m hm hkey => hsole m hm (hkey ▸ hname)) logDefaults
  refine logging?_eq_some (.inl ⟨_, hmerged⟩) ?_ ?_ ?_ ?_
  · rw [hfield _ (by decide)]
    exact valueOr_of_gives h.level (g := id) (fun v l hv => by rw [hv, mergeInto_ofJson_str]; rfl)
      rfl
  · rw [hfield _ (by decide)]
    exact valueOr_of_gives h.format (g := id) (fun v f hv => by rw [hv, mergeInto_ofJson_str]; rfl)
      rfl
  · rw [hfield _ (by decide)]
    exact valueOr_of_gives h.color (g := id) (fun v b hv => by rw [hv, mergeInto_ofJson_bool]; rfl)
      rfl
  · have hnone : Entries.get? "modules" logDefaults = none := rfl
    rw [hfield _ (by decide), hnone]
    exact valueOr_of_gives h.modules (g := KeyMap.lowered)
      (fun v m hv => by rw [hv, modules?_mergeInto_ofMap]) rfl

/-- The entries of the lowest layer. -/
def lowest : List (String × Setting) := [("logging", .table logDefaults)]

theorem setAll_defaults : (Setting.table []).setAll defaults = .table lowest := by
  have hpath : pathOf "logging.level" = ("logging", [.key "level"]) := by decide +kernel
  have hpath' : pathOf "logging.format" = ("logging", [.key "format"]) := by decide +kernel
  have hlogging : lowerCase "logging" = "logging" := by decide +kernel
  have hlevel : lowerCase "level" = "level" := by decide +kernel
  have hformat : lowerCase "format" = "format" := by decide +kernel
  have hbefore : "format" < "level" := by decide
  simp only [defaults, lowest, logDefaults, setAll, Setting.set, hpath, hpath', setAt, hlogging,
    hlevel, hformat, mergeInto, Entries.insert, if_pos hbefore, Setting.entries, Entries.get?,
    Option.getD_none, Option.getD_some, reduceIte, String.lt_irrefl]

/-- The names of settings. -/
def names : List String := documentFields.map (·.name)

/-- No member but the one of its own name leads to a setting, be it in other letters or by a
path. -/
structure SoleNames (ms : List (String × Json)) : Prop where
  /-- The members of the settings. -/
  root : ∀ m ∈ ms, rootName m.1 ∈ names → rootName m.1 = m.1
  /-- The members of the settings of the log. -/
  logging : ∀ ls, Entries.get? "logging" ms = some (.object ls) →
    ∀ m ∈ ls, lowerCase m.1 ∈ LogSettings.names → lowerCase m.1 = m.1

/-- What is read from layers for settings that are written in members: times as a layer holds them,
and the names of modules in lower case, unless the settings of the log are written in an array. -/
def layered (ms : List (String × Json)) (s : Settings) : Settings where
  defaultTtlMillis := s.defaultTtlMillis.map U64.inLayer
  sweepIntervalMillis := s.sweepIntervalMillis.map U64.inLayer
  logging := match Entries.get? "logging" ms with
    | some (.array _) => s.logging
    | _ => s.logging.lowered

/-- The settings of a log that are merged into the defaults. -/
theorem valueOr_logging? {ms : List (String × Json)} {s : Settings} (h : WrittenIn ms s)
    (hsole : SoleNames ms) :
    valueOr {} logging? (((Entries.get? "logging" ms).map fun v =>
      mergeInto (some (.table logDefaults)) (ofJson v)).or (some (.table logDefaults))) =
        some (s.layered ms).logging := by
  have hlogging := h.logging
  have hnames := hsole.logging
  unfold layered
  cases hfound : Entries.get? "logging" ms with
  | none =>
    rw [hfound] at hlogging
    have hdefault : s.logging = {} := hlogging
    rw [hdefault]
    rfl
  | some v =>
    rw [hfound] at hlogging
    have hwritten : LogSettings.WrittenIn v s.logging := hlogging
    rcases hwritten.collection with ⟨ls, rfl, hls⟩ | ⟨vs, rfl⟩
    · exact logging?_of_object hls hwritten (hnames ls hfound)
    · have hlist : mergeInto (some (.table logDefaults)) (ofJson (.array vs)) =
          .list (ofItems vs) := by rw [ofJson, mergeInto]
      -- a list takes the place of the defaults and is not merged into them
      rw [Option.map_some, hlist]
      exact logging?_of_array hwritten

/-- The entries of the lowest layer with members merged into them. -/
def merged (ms : List (String × Json)) : List (String × Setting) :=
  Entries.mergeAll rootName setUnder (ofMembers ms) lowest

theorem get?_merged {ms : List (String × Json)} (hms : Entries.Ordered ms) (hsole : SoleNames ms)
    {name : String} (hname : name ∈ names) :
    Entries.get? name (merged ms) =
      ((Entries.get? name ms).map fun v => mergeInto (Entries.get? name lowest) (ofJson v)).or
        (Entries.get? name lowest) := by
  have hpath : ∀ name ∈ names, pathOf name = (name, []) := by decide +kernel
  have hlower : ∀ name ∈ names, lowerCase name = name := by decide +kernel
  have hroot : rootName name = name := by rw [rootName, hpath name hname, hlower name hname]
  rw [merged, get?_mergeAll_ofMembers hms hroot fun m hm hkey => hsole.root m hm (hkey ▸ hname)]
  simp only [setUnder_of_name (congrArg Prod.snd (hpath name hname))]

/-- Members in which settings are written, merged into the defaults, are read as settings. -/
theorem ofSetting?_of_writtenIn {ms : List (String × Json)} {s : Settings}
    (hms : Entries.Ordered ms) (h : WrittenIn ms s) (hsole : SoleNames ms) :
    ofSetting? (((Setting.table []).setAll defaults).setAll (ofMembers ms)) =
      some (s.layered ms) := by
  have httl : valueOr none toOptionalU64? (Entries.get? "default_ttl_ms" (merged ms)) =
      some (s.layered ms).defaultTtlMillis := by
    rw [get?_merged hms hsole (by decide)]
    exact valueOr_of_gives h.defaultTtl (g := Option.map U64.inLayer)
      (fun v t hv => by rw [hv, toOptionalU64?_mergeInto]) rfl
  have hsweep : valueOr none toOptionalU64? (Entries.get? "sweep_interval_ms" (merged ms)) =
      some (s.layered ms).sweepIntervalMillis := by
    rw [get?_merged hms hsole (by decide)]
    exact valueOr_of_gives h.sweepInterval (g := Option.map U64.inLayer)
      (fun v t hv => by rw [hv, toOptionalU64?_mergeInto]) rfl
  have hlogging : valueOr {} logging? (Entries.get? "logging" (merged ms)) =
      some (s.layered ms).logging := by
    rw [get?_merged hms hsole (by decide)]
    exact valueOr_logging? h hsole
  rw [setAll_defaults, setAll_table]
  simp only [ofSetting?, Setting.entries]
  rw [← merged, httl, hsweep, hlogging]
  rfl

theorem map_inLayer_eq_self_iff {t : Option U64} :
    t.map U64.inLayer = t ↔ ∀ n, t = some n → n.inLayer = n := by
  cases t with
  | none => simp
  | some n => simp

/-- The settings that are read from layers as they are written. -/
theorem layered_eq_self_iff {ms : List (String × Json)} {s : Settings} :
    s.layered ms = s ↔
      (∀ n, s.defaultTtlMillis = some n ∨ s.sweepIntervalMillis = some n → n.inLayer = n) ∧
      ((∃ vs, Entries.get? "logging" ms = some (.array vs)) ∨
        ∀ name ∈ s.logging.modules.keys, lowerCase name = name) := by
  have hlogging : (s.layered ms).logging = s.logging ↔
      (∃ vs, Entries.get? "logging" ms = some (.array vs)) ∨
        ∀ name ∈ s.logging.modules.keys, lowerCase name = name := by
    rw [layered, ← LogSettings.lowered_eq_self_iff]
    split
    · rename_i vs hvs
      exact iff_of_true rfl (.inl ⟨vs, hvs⟩)
    · rename_i harray
      exact ⟨.inr, fun h => h.resolve_left fun ⟨vs, hvs⟩ => harray vs hvs⟩
  have htimes : ((s.layered ms).defaultTtlMillis = s.defaultTtlMillis ∧
      (s.layered ms).sweepIntervalMillis = s.sweepIntervalMillis) ↔
        ∀ n, s.defaultTtlMillis = some n ∨ s.sweepIntervalMillis = some n → n.inLayer = n := by
    simp only [layered, map_inLayer_eq_self_iff, or_imp, forall_and]
  rw [← hlogging, ← htimes]
  constructor
  · intro h
    rw [h]
    exact ⟨⟨rfl, rfl⟩, rfl⟩
  · rintro ⟨⟨httl, hsweep⟩, hlog⟩
    calc s.layered ms = ⟨(s.layered ms).defaultTtlMillis, (s.layered ms).sweepIntervalMillis,
          (s.layered ms).logging⟩ := rfl
      _ = s := by rw [httl, hsweep, hlog]

/-! ## Loading -/

/-- A layer without variables is empty. -/
theorem variableLayer_eq_nil {env : List (String × String)}
    (h : ∀ e ∈ env, variablePath? e.1 = none) : variableLayer env = [] := by
  refine List.filterMap_eq_nil_iff.2 fun e he => ?_
  exact Option.map_eq_none_iff.2 (h e he)

/-- Where no variable belongs to settings, a file is all that is merged into the defaults. -/
theorem load?_file {f : File} (hjson : f.isJson = true) {env : List (String × String)}
    (henv : ∀ e ∈ env, variablePath? e.1 = none) :
    load? (some f) env =
      match f.content.bind Json.parse? with
      | some (.object ms) => ofSetting? (((Setting.table []).setAll defaults).setAll (ofMembers ms))
      | _ => none := by
  simp only [load?, fileLayer?, hjson, if_true, variableLayer_eq_nil henv]
  cases f.content.bind Json.parse? with
  | none => rfl
  | some v =>
    cases v with
    | object ms => simp only [Option.bind_eq_bind, Option.bind_some, List.append_nil]
    | _ => rfl

/-- **The two readers of settings.** A text that is read as settings, loaded from a file of that
text where no variable belongs to settings: nothing is loaded if the text is no object or has no
value. If it is an object in which no member but the one of its own name leads to a setting, the
settings are loaded with times as a layer holds them and with names of modules in lower case (unless
the settings of the log are written in an array). These are the same settings exactly if each time
is a signed integer, a multiple of 2048 or the largest integer, and the names of modules are in
lower case already. -/
theorem load?_of_ofText? (name text : String) (s : Settings) (env : List (String × String))
    (hname : File.isJson ⟨name, some text⟩ = true)
    (henv : ∀ e ∈ env, variablePath? e.1 = none) (htext : ofText? text = some s) :
    ((∀ ms, Json.parse? text ≠ some (.object ms)) → load? (some ⟨name, some text⟩) env = none) ∧
    ∀ ms, Json.parse? text = some (.object ms) → SoleNames ms →
      load? (some ⟨name, some text⟩) env = some (s.layered ms) ∧
      (load? (some ⟨name, some text⟩) env = some s ↔
        (∀ n, s.defaultTtlMillis = some n ∨ s.sweepIntervalMillis = some n →
          n.val ≤ maxI64 ∨ 2048 ∣ n.val ∨ n.val = maxU64) ∧
        ((∃ vs, Entries.get? "logging" ms = some (.array vs)) ∨
          ∀ m ∈ s.logging.modules.keys, lowerCase m = m)) := by
  have hload := load?_file hname henv
  rw [Option.bind_some] at hload
  refine ⟨fun hvalue => ?_, fun ms hms hsole => ?_⟩
  · rw [hload]
    split
    · rename_i ms hms
      exact absurd hms (hvalue ms)
    · rfl
  · obtain ⟨hordered, hwritten⟩ := writtenIn_of_ofText? htext hms
    rw [hms] at hload
    have hlayered := hload.trans (ofSetting?_of_writtenIn hordered hwritten hsole)
    refine ⟨hlayered, ?_⟩
    rw [hlayered, Option.some.injEq, layered_eq_self_iff]
    simp only [U64.inLayer_eq_self_iff]

/-- A text whose settings are loaded as they are read. -/
def keptText : String :=
  "\x7b\"default_ttl_ms\":250,\"logging\":\x7b\"level\":\"debug\"," ++
    "\"modules\":\x7b\"db\":\"off\"\x7d\x7d\x7d"

/-- The settings of that text. -/
def keptSettings : Settings :=
  ⟨some ⟨250, by decide⟩, none, { level := "debug", modules := .ofList [("db", "off")] }⟩

/-- The members of that text. -/
def keptMembers : List (String × Json) :=
  [("default_ttl_ms", .int 250),
   ("logging", .object [("level", .str "debug"), ("modules", .object [("db", .str "off")])])]

/-- The tokens of that text. -/
def keptTokens : List Json.Token :=
  [.openObject, .text "default_ttl_ms", .colon, .number ⟨false, [2, 5, 0], [], none⟩, .comma,
   .text "logging", .colon, .openObject, .text "level", .colon, .text "debug", .comma,
   .text "modules", .colon, .openObject, .text "db", .colon, .text "off", .closeObject,
   .closeObject, .closeObject]

/-- A small time and a module with a name in lower case, beside another variable. -/
theorem load?_of_keptText :
    ofText? keptText = some keptSettings ∧
      load? (some ⟨"settings.json", some keptText⟩) [("HOME", "/")] = some keptSettings := by
  have htext : ofText? keptText = some keptSettings := by decide +kernel
  have htokens : Json.Token.scan keptText = some keptTokens := by decide +kernel
  have hmembers : Json.parse? keptText = some (.object keptMembers) := by
    rw [Json.parse?, Json.Document.parse, htokens]
    rfl
  have hsole : SoleNames keptMembers := by
    refine ⟨by decide +kernel, fun ls hls => ?_⟩
    cases hls
    decide +kernel
  obtain ⟨-, hobject⟩ := load?_of_ofText? "settings.json" keptText keptSettings [("HOME", "/")]
    (by decide +kernel) (by decide +kernel) htext
  refine ⟨htext, (hobject keptMembers hmembers hsole).2.2 ⟨?_, .inr (by decide +kernel)⟩⟩
  rintro n (hn | hn)
  · cases hn
    exact .inl (by decide)
  · cases hn

/-- A text whose settings are not loaded as they are read. -/
def changedText : String :=
  "\x7b\"default_ttl_ms\":9223372036854775809," ++
    "\"logging\":\x7b\"modules\":\x7b\"Db\":\"off\"\x7d\x7d\x7d"

/-- The settings of that text. -/
def changedSettings : Settings :=
  ⟨some ⟨9223372036854775809, by decide⟩, none, { modules := .ofList [("Db", "off")] }⟩

/-- A time beyond the signed range is loaded as another one, and a module under another name. -/
theorem load?_of_changedText :
    ofText? changedText = some changedSettings ∧
    load? (some ⟨"settings.json", some changedText⟩) [] =
      some ⟨some ⟨9223372036854775808, by decide⟩, none, { modules := .ofList [("db", "off")] }⟩ ∧
    load? (some ⟨"settings.json", some changedText⟩) [] ≠ some changedSettings := by
  decide +kernel

end Settings

end KeyedState

import KeyedState.Context.Json
import KeyedState.Proofs.Json.ShortForm
import KeyedState.Settings.Json

/-!
# Values that are read back

Contexts, insertions, choices of rows and settings are read back from the values they are written as
(`written_values_read_back`). Contexts and settings are also read back from every short form of
their values, in which members that hold the default of their field are left out, at the settings of
the log too. The time to live is written exactly where a context has one.
-/

namespace KeyedState

open Decoder

/-! ## Durations -/

namespace Duration

theorem readMembers_toJson (d : Duration) (hseconds : d.seconds < 18446744073709551616)
    (hsubsecond : d.subsecond < 4294967296) :
    readMembers {} [("nanos", .int d.subsecond), ("secs", .int d.seconds)] =
      .ok ⟨⟨d.seconds, hseconds⟩, ⟨d.subsecond, hsubsecond⟩⟩ := by
  have hn : u32 (.int d.subsecond) = .ok ⟨d.subsecond, hsubsecond⟩ := inverts_unsigned _ _ ⟨_, _⟩
  have hs : u64 (.int d.seconds) = .ok ⟨d.seconds, hseconds⟩ := inverts_unsigned _ _ ⟨_, _⟩
  show ((u32 _).map _).bind (fun p => ((u64 _).map _).bind _) = _
  rw [hn, hs]
  rfl

/-- An equation between functions: checked for given parts, it would compute their nanoseconds. -/
theorem ofParts_eq : ofParts = fun p =>
    match of? p.seconds p.nanos with
    | some d => .ok d
    | none => .error .durationOverflow :=
  rfl

theorem ofParts_eq_ok {p : Parts} {d : Duration} (h : of? p.seconds p.nanos = some d) :
    ofParts p = .ok d := by
  rw [ofParts_eq]
  simp only [h]

theorem of?_seconds_subsecond (d : Duration) : of? d.seconds d.subsecond = some d := by
  have hnanos : d.seconds * nanosPerSecond + d.subsecond = d.nanos := Nat.div_add_mod' ..
  rw [of?, hnanos, ofNanos?, dif_pos d.nanos_lt]

/-- Durations are read back. -/
theorem inverts_decode : decode.Inverts toJson := by
  intro d
  have hseconds : d.seconds < 18446744073709551616 :=
    Nat.div_lt_of_lt_mul (Nat.mul_comm .. ▸ d.nanos_lt)
  have hsubsecond : d.subsecond < 4294967296 :=
    Nat.lt_trans (Nat.mod_lt d.nanos (by decide)) (show nanosPerSecond < 4294967296 by decide)
  have hparts : ofParts ⟨⟨d.seconds, hseconds⟩, ⟨d.subsecond, hsubsecond⟩⟩ = .ok d :=
    ofParts_eq_ok d.of?_seconds_subsecond
  have hmissing : missing? fields [("nanos", .int d.subsecond), ("secs", .int d.seconds)] = none :=
    rfl
  rw [toJson, decode, readMembers_toJson d hseconds hsubsecond, ok_bind, hmissing]
  exact hparts

end Duration

/-! ## Contexts -/

namespace Context

theorem inverts_decodeTexts : decodeTexts.Inverts textsToJson := inverts_string.map

theorem setsOnly_id : SetsOnly fields "id" Decoder.string (·.id) :=
  .of_keeps rfl (stores_requiredField fun _ _ => rfl) (by simp [fields])

theorem setsOnly_properties : SetsOnly fields "properties" decodeTexts (·.properties) :=
  .of_keeps rfl (stores_field fun _ _ => rfl) (by simp [fields])

theorem setsOnly_rows : SetsOnly fields "list" (Decoder.list decodeTexts) (·.rows) :=
  .of_keeps rfl (stores_field fun _ _ => rfl) (by simp [fields])

theorem setsOnly_updateCount : SetsOnly fields "updateCount" u64 (·.updateCount) :=
  .of_keeps rfl (stores_field fun _ _ => rfl) (by simp [fields])

theorem setsOnly_expiry : SetsOnly fields "expiry" (optional Duration.decode) (·.expiry) :=
  .of_keeps rfl (stores_field fun _ _ => rfl) (by simp [fields])

attribute [ext] Context

/-- A context is read from an object if each of its parts is. -/
theorem decode_eq_ok {ms : List (String × Json)} (hms : Entries.Ordered ms) {c : Context}
    (hid : Entries.get? "id" ms = some (.str c.id))
    (hproperties : member decodeTexts ∅ (Entries.get? "properties" ms) = .ok c.properties)
    (hrows : member (Decoder.list decodeTexts) [] (Entries.get? "list" ms) = .ok c.rows)
    (hcount : member u64 .zero (Entries.get? "updateCount" ms) = .ok c.updateCount)
    (hexpiry : member (optional Duration.decode) none (Entries.get? "expiry" ms) = .ok c.expiry) :
    decode (.object ms) = .ok c := by
  have htakes : ∀ f ∈ fields, f.Takes (Entries.get? f.name ms) := by
    simp only [fields, List.forall_mem_cons, List.not_mem_nil, IsEmpty.forall_iff, implies_true,
      and_true, name_field, name_requiredField, hid]
    exact ⟨takes_requiredField (inverts_string c.id), takes_field hproperties, takes_field hrows,
      takes_field hcount, takes_field hexpiry⟩
  obtain ⟨r, hr⟩ : ∃ r, decode (.object ms) = .ok r := exists_record hms htakes
  have hrc : r = c := Context.ext
    (ok_unique (setsOnly_id.record hms hid hr) (inverts_string c.id))
    (ok_unique (setsOnly_properties.member_eq hms hr) hproperties)
    (ok_unique (setsOnly_rows.member_eq hms hr) hrows)
    (ok_unique (setsOnly_updateCount.member_eq hms hr) hcount)
    (ok_unique (setsOnly_expiry.member_eq hms hr) hexpiry)
  rw [hr, hrc]

/-- The members of the value of a context that may be left out: those that hold what a context
starts with. -/
def defaultMembers : List (String × Json) :=
  [("list", .array []), ("properties", textsToJson ∅), ("updateCount", .int 0)]

/-- A value is that of a context, or what is left of it when members that hold a default are left
out. -/
def ShortForm (c : Context) : Json → Prop :=
  Json.ShortObject defaultMembers (fun _ v w => v = w) c.toJson

theorem exists_members (c : Context) : ∃ ms, c.toJson = .object ms ∧ Entries.Ordered ms ∧
    Entries.get? "id" ms = some (.str c.id) ∧
    Entries.get? "properties" ms = some (textsToJson c.properties) ∧
    Entries.get? "list" ms = some (.array (c.rows.map textsToJson)) ∧
    Entries.get? "updateCount" ms = some (.int c.updateCount.val) ∧
    Entries.get? "expiry" ms = c.expiry.map Duration.toJson := by
  obtain ⟨id, properties, rows, updateCount, expiry⟩ := c
  cases expiry with
  | none =>
    have hordered : ["id", "list", "properties", "updateCount"].Pairwise (· < ·) := by decide
    exact ⟨_, rfl, Entries.ordered_iff_keys.2 hordered, rfl, rfl, rfl, rfl, rfl⟩
  | some d =>
    have hordered : ["expiry", "id", "list", "properties", "updateCount"].Pairwise (· < ·) := by
      decide
    exact ⟨_, rfl, Entries.ordered_iff_keys.2 hordered, rfl, rfl, rfl, rfl, rfl⟩

/-- A context is read back from every short form. -/
theorem decode_of_shortForm {c : Context} {v : Json} (h : c.ShortForm v) : decode v = .ok c := by
  obtain ⟨ms, ns, hms, rfl, hshort⟩ := h
  obtain ⟨_, htoJson, hordered, hid, hproperties, hrows, hcount, hexpiry⟩ := c.exists_members
  cases hms.symm.trans htoJson
  refine decode_eq_ok (hshort.ordered hordered) ?_ ?_ ?_ ?_ ?_
  · rcases hshort.get?_cases hordered hid with ⟨_, hget, rfl⟩ | ⟨-, hmem⟩
    · exact hget
    · simp [defaultMembers] at hmem
  · exact hshort.member_of_inverts hordered inverts_decodeTexts hproperties (fun _ _ h => h)
      (by simp [defaultMembers])
  · exact hshort.member_of_inverts hordered inverts_decodeTexts.list hrows (fun _ _ h => h)
      (by simp [defaultMembers])
  · exact hshort.member_of_inverts hordered (inverts_unsigned _ _) hcount (fun _ _ h => h)
      (by simp [defaultMembers, U64.zero])
  · cases hd : c.expiry with
    | none =>
      rw [hd] at hexpiry
      rw [hshort.get?_eq_none hexpiry]
      rfl
    | some d =>
      rw [hd] at hexpiry
      refine hshort.member_eq_ok hordered hexpiry ?_ fun hmem => ?_
      · rintro _ rfl
        have hne : d.toJson ≠ .null := nofun
        rw [optional_of_ne_null hne, Duration.inverts_decode, map_ok]
      · simp [defaultMembers] at hmem

theorem shortForm_toJson (c : Context) : c.ShortForm c.toJson := by
  obtain ⟨ms, hms, -⟩ := c.exists_members
  exact ⟨ms, ms, hms, hms, .refl (fun _ _ => rfl) ms⟩

end Context

/-! ## Insertions and choices of rows -/

theorem ListOperation.inverts_decode : decode.Inverts toJson := by
  intro op
  cases op with
  | addFirst row =>
    show (Context.decodeTexts (Context.textsToJson row)) >>= (fun row => pure (addFirst row)) = _
    rw [Context.inverts_decodeTexts]
    rfl
  | addLast row =>
    show (Context.decodeTexts (Context.textsToJson row)) >>= (fun row => pure (addLast row)) = _
    rw [Context.inverts_decodeTexts]
    rfl

theorem ListDeletion.inverts_decode : decode.Inverts toJson := by
  intro d
  cases d with
  | first => rfl
  | last => rfl
  | index n =>
    show (size (.int n.val) >>= fun n => pure (index n)) = _
    rw [size, inverts_unsigned]
    rfl
  | where_ property value => rfl

/-! ## Settings -/

namespace LogSettings

attribute [ext] LogSettings

theorem setsOnly_level : SetsOnly fields "level" Decoder.string (·.level) :=
  .of_keeps rfl (stores_field fun _ _ => rfl) (by simp [fields])

theorem setsOnly_format : SetsOnly fields "format" Decoder.string (·.format) :=
  .of_keeps rfl (stores_field fun _ _ => rfl) (by simp [fields])

theorem setsOnly_color : SetsOnly fields "color" boolean (·.color) :=
  .of_keeps rfl (stores_field fun _ _ => rfl) (by simp [fields])

theorem setsOnly_modules : SetsOnly fields "modules" (Decoder.map Decoder.string) (·.modules) :=
  .of_keeps rfl (stores_field fun _ _ => rfl) (by simp [fields])

/-- The settings of a log are read from an object if each of them is. -/
theorem decode_eq_ok {ms : List (String × Json)} (hms : Entries.Ordered ms) {s : LogSettings}
    (hlevel : member Decoder.string "info" (Entries.get? "level" ms) = .ok s.level)
    (hformat : member Decoder.string "text" (Entries.get? "format" ms) = .ok s.format)
    (hcolor : member boolean true (Entries.get? "color" ms) = .ok s.color)
    (hmodules : member (Decoder.map Decoder.string) ∅ (Entries.get? "modules" ms) = .ok s.modules) :
    decode (.object ms) = .ok s := by
  have htakes : ∀ f ∈ fields, f.Takes (Entries.get? f.name ms) := by
    simp only [fields, List.forall_mem_cons, List.not_mem_nil, IsEmpty.forall_iff, implies_true,
      and_true, name_field]
    exact ⟨takes_field hlevel, takes_field hformat, takes_field hcolor, takes_field hmodules⟩
  obtain ⟨r, hr⟩ : ∃ r, decode (.object ms) = .ok r := exists_record hms htakes
  have hrs : r = s := LogSettings.ext
    (ok_unique (setsOnly_level.member_eq hms hr) hlevel)
    (ok_unique (setsOnly_format.member_eq hms hr) hformat)
    (ok_unique (setsOnly_color.member_eq hms hr) hcolor)
    (ok_unique (setsOnly_modules.member_eq hms hr) hmodules)
  rw [hr, hrs]

/-- The members that hold the defaults. -/
def defaultMembers : List (String × Json) :=
  [("color", .bool true), ("format", .str "text"), ("level", .str "info"),
   ("modules", .ofMap .str ∅)]

/-- A value is that of settings of a log, or what is left of it when members that hold a default are
left out. -/
def ShortForm (s : LogSettings) : Json → Prop :=
  Json.ShortObject defaultMembers (fun _ v w => v = w) s.toJson

/-- The settings of a log are read back from every short form. -/
theorem decode_of_shortForm {s : LogSettings} {v : Json} (h : s.ShortForm v) :
    decode v = .ok s := by
  obtain ⟨ms, ns, hms, rfl, hshort⟩ := h
  have hordered : Entries.Ordered ms := by
    have hkeys : ["color", "format", "level", "modules"].Pairwise (· < ·) := by decide
    cases hms
    exact Entries.ordered_iff_keys.2 hkeys
  cases hms
  refine decode_eq_ok (hshort.ordered hordered) ?_ ?_ ?_ ?_
  · exact hshort.member_of_inverts hordered inverts_string rfl (fun _ _ h => h)
      (by simp [defaultMembers])
  · exact hshort.member_of_inverts hordered inverts_string rfl (fun _ _ h => h)
      (by simp [defaultMembers])
  · exact hshort.member_of_inverts hordered inverts_boolean rfl (fun _ _ h => h)
      (by simp [defaultMembers])
  · exact hshort.member_of_inverts hordered inverts_string.map rfl (fun _ _ h => h)
      (by simp [defaultMembers])

theorem shortForm_toJson (s : LogSettings) : s.ShortForm s.toJson :=
  ⟨_, _, rfl, rfl, .refl (fun _ _ => rfl) _⟩

theorem inverts_decode : decode.Inverts toJson := fun s => decode_of_shortForm s.shortForm_toJson

end LogSettings

namespace Settings

attribute [ext] Settings

theorem setsOnly_defaultTtl :
    SetsOnly fields "default_ttl_ms" (optional u64) (·.defaultTtlMillis) :=
  .of_keeps rfl (stores_field fun _ _ => rfl) (by simp [fields])

theorem setsOnly_sweepInterval :
    SetsOnly fields "sweep_interval_ms" (optional u64) (·.sweepIntervalMillis) :=
  .of_keeps rfl (stores_field fun _ _ => rfl) (by simp [fields])

theorem setsOnly_logging : SetsOnly fields "logging" LogSettings.decode (·.logging) :=
  .of_keeps rfl (stores_field fun _ _ => rfl) (by simp [fields])

/-- Settings are read from an object if each of them is. -/
theorem decode_eq_ok {ms : List (String × Json)} (hms : Entries.Ordered ms) {s : Settings}
    (httl : member (optional u64) none (Entries.get? "default_ttl_ms" ms) = .ok s.defaultTtlMillis)
    (hsweep : member (optional u64) none (Entries.get? "sweep_interval_ms" ms) =
      .ok s.sweepIntervalMillis)
    (hlogging : member LogSettings.decode {} (Entries.get? "logging" ms) = .ok s.logging) :
    decode (.object ms) = .ok s := by
  have htakes : ∀ f ∈ fields, f.Takes (Entries.get? f.name ms) := by
    simp only [fields, List.forall_mem_cons, List.not_mem_nil, IsEmpty.forall_iff, implies_true,
      and_true, name_field]
    exact ⟨takes_field httl, takes_field hsweep, takes_field hlogging⟩
  obtain ⟨r, hr⟩ : ∃ r, decode (.object ms) = .ok r := exists_record hms htakes
  have hrs : r = s := Settings.ext
    (ok_unique (setsOnly_defaultTtl.member_eq hms hr) httl)
    (ok_unique (setsOnly_sweepInterval.member_eq hms hr) hsweep)
    (ok_unique (setsOnly_logging.member_eq hms hr) hlogging)
  rw [hr, hrs]

theorem inverts_optional : (optional u64).Inverts optionalToJson := by
  intro t
  cases t with
  | none => rfl
  | some n =>
    have hne : optionalToJson (some n) ≠ .null := nofun
    rw [optional_of_ne_null hne]
    exact congrArg (Except.map some) (inverts_unsigned _ _ n)

/-- The members that hold the defaults. -/
def defaultMembers : List (String × Json) :=
  [("default_ttl_ms", .null), ("logging", LogSettings.toJson {}), ("sweep_interval_ms", .null)]

/-- A value is that of settings, or what is left of it when members that hold a default are left
out. The value of the settings of the log may be shortened, too. -/
def ShortForm (s : Settings) : Json → Prop :=
  Json.ShortObject defaultMembers
    (fun name v w => v = w ∨ name = "logging" ∧ s.logging.ShortForm w) s.toJson

/-- Settings are read back from every short form. -/
theorem decode_of_shortForm {s : Settings} {v : Json} (h : s.ShortForm v) : decode v = .ok s := by
  obtain ⟨ms, ns, hms, rfl, hshort⟩ := h
  have hordered : Entries.Ordered ms := by
    have hkeys : ["default_ttl_ms", "logging", "sweep_interval_ms"].Pairwise (· < ·) := by decide
    cases hms
    exact Entries.ordered_iff_keys.2 hkeys
  cases hms
  refine decode_eq_ok (hshort.ordered hordered) ?_ ?_ ?_
  · exact hshort.member_of_inverts hordered inverts_optional rfl (by simp)
      (by simp [defaultMembers, optionalToJson])
  · exact hshort.member_of_inverts hordered inverts_optional rfl (by simp)
      (by simp [defaultMembers, optionalToJson])
  · refine hshort.member_eq_ok hordered rfl ?_ fun hmem => ?_
    · rintro w (rfl | ⟨-, hw⟩)
      · exact LogSettings.inverts_decode s.logging
      · exact LogSettings.decode_of_shortForm hw
    · have hlogging : s.logging.toJson = LogSettings.toJson {} := by
        simpa [defaultMembers] using hmem
      exact LogSettings.inverts_decode.injective hlogging

theorem shortForm_toJson (s : Settings) : s.ShortForm s.toJson :=
  ⟨_, _, rfl, rfl, .refl (fun _ _ => .inl rfl) _⟩

end Settings

/-! ## All values -/

/-- **What is written is read back.** Every context, every insertion, every choice of a row and all
settings are read back from the values they are written as. The value of a context has a time to
live exactly if the context has one. A context and settings are also read back from what is left of
their value when members that hold a default are left out. -/
theorem written_values_read_back :
    (∀ c : Context, Context.decode c.toJson = .ok c ∧
      ((c.toJson.get? "expiry").isSome ↔ c.expiry.isSome) ∧
      ∀ v, c.ShortForm v → Context.decode v = .ok c) ∧
    (∀ op : ListOperation, ListOperation.decode op.toJson = .ok op) ∧
    (∀ d : ListDeletion, ListDeletion.decode d.toJson = .ok d) ∧
    ∀ s : Settings, Settings.decode s.toJson = .ok s ∧
      ∀ v, s.ShortForm v → Settings.decode v = .ok s := by
  refine ⟨fun c => ⟨?_, ?_, ?_⟩, ListOperation.inverts_decode, ListDeletion.inverts_decode,
    fun s => ⟨?_, ?_⟩⟩
  · exact Context.decode_of_shortForm c.shortForm_toJson
  · obtain ⟨ms, hms, -, -, -, -, -, hexpiry⟩ := c.exists_members
    rw [hms, Json.get?, hexpiry, Option.isSome_map]
  · exact fun v => Context.decode_of_shortForm
  · exact Settings.decode_of_shortForm s.shortForm_toJson
  · exact fun v => Settings.decode_of_shortForm

/-- A context of which only the name and the count are left, and settings of which only the level of
the log is. -/
theorem written_values_read_back_short :
    let c : Context := ⟨"a", ∅, [], ⟨3, by decide⟩, none⟩
    let short : Json := .object [("id", .str "a"), ("updateCount", .int 3)]
    let s : Settings := ⟨none, none, ⟨"debug", "text", true, ∅⟩⟩
    let level : Json := .object [("logging", .object [("level", .str "debug")])]
    (c.ShortForm short ∧ Context.decode short = .ok c) ∧
      s.ShortForm level ∧ Settings.decode level = .ok s := by
  intro c short s level
  have hc : c.ShortForm short :=
    ⟨_, _, rfl, rfl, .keep rfl (.drop (.head _) (.drop (.tail _ (.head _)) (.keep rfl .nil)))⟩
  have hlogging : s.logging.ShortForm (.object [("level", .str "debug")]) :=
    ⟨_, _, rfl, rfl, .drop (.head _) (.drop (.tail _ (.head _)) (.keep rfl
      (.drop (.tail _ (.tail _ (.tail _ (.head _)))) .nil)))⟩
  have hs : s.ShortForm level :=
    ⟨_, _, rfl, rfl, .drop (.head _) (.keep (.inr ⟨rfl, hlogging⟩)
      (.drop (.tail _ (.tail _ (.head _))) .nil))⟩
  exact ⟨⟨hc, (written_values_read_back.1 c).2.2 short hc⟩,
    hs, (written_values_read_back.2.2.2 s).2 level hs⟩

end KeyedState

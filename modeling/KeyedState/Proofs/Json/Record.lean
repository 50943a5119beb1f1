import KeyedState.Json.Decode
import KeyedState.Proofs.Except

/-!
# The fields of a record

What a field of a record comes out as when the record is read from an object with ordered members:
what the value of its member is read as, or its default (`Decoder.SetsOnly.member_eq`). No other
field has a say in it. A record can be read if every field takes what stands in its place
(`Decoder.exists_record`). What all fields keep holds of every record that is read
(`Decoder.FieldsKeep.record`).
-/

namespace KeyedState

namespace Decoder

variable {α β : Type}

/-- What a member is read as, with a default for one that is missing. -/
def member (read : Decoder β) (default : β) : Option Json → Except DecodeError β
  | none => .ok default
  | some v => read v

@[simp] theorem member_none (read : Decoder β) (default : β) :
    member read default none = .ok default :=
  rfl

@[simp] theorem member_some (read : Decoder β) (default : β) (v : Json) :
    member read default (some v) = read v :=
  rfl

/-- Setting a field stores what its value is read as. -/
def Field.Stores (f : Field α) (read : Decoder β) (get : α → β) : Prop :=
  ∀ v r r', f.set v r = .ok r' → read v = .ok (get r')

/-- Setting a field leaves a part of the record alone. -/
def Field.Keeps (f : Field α) (get : α → β) : Prop :=
  ∀ v r r', f.set v r = .ok r' → get r' = get r

section

variable {γ : Type} {name : String} {read : Decoder β} {put : β → α → α}

@[simp] theorem name_field : (field name read put).name = name := rfl

@[simp] theorem name_requiredField : (requiredField name read put).name = name := rfl

theorem stores_field {get : α → β} (h : ∀ b r, get (put b r) = b) :
    (field name read put).Stores read get := by
  intro v r r' hr
  obtain ⟨b, hb, rfl⟩ := KeyedState.exists_of_map_eq_ok hr
  rw [hb, h]

theorem stores_requiredField {get : α → β} (h : ∀ b r, get (put b r) = b) :
    (requiredField name read put).Stores read get :=
  show (field name read put).Stores read get from stores_field h

@[simp] theorem keeps_field {get : α → γ} (h : ∀ b r, get (put b r) = get r) :
    (field name read put).Keeps get := by
  intro v r r' hr
  obtain ⟨b, -, rfl⟩ := KeyedState.exists_of_map_eq_ok hr
  exact h b r

@[simp] theorem keeps_requiredField {get : α → γ} (h : ∀ b r, get (put b r) = get r) :
    (requiredField name read put).Keeps get :=
  show (field name read put).Keeps get from keeps_field h

end

/-- Among the fields of a record, one is set from the member of its name: setting it stores what its
value is read as, and setting any other field leaves it alone. -/
structure SetsOnly (fields : List (Field α)) (name : String) (read : Decoder β) (get : α → β) :
    Prop where
  /-- The field itself. -/
  self : ∃ f, fields.find? (·.name == name) = some f ∧
    ∀ v r r', f.set v r = .ok r' → read v = .ok (get r')
  /-- The other fields. -/
  other : ∀ f ∈ fields, f.name ≠ name → ∀ v r r', f.set v r = .ok r' → get r' = get r

/-- A part of a record belongs to the field of a name. -/
theorem SetsOnly.of_keeps {fields : List (Field α)} {name : String} {read : Decoder β}
    {get : α → β} {f : Field α} (hf : fields.find? (·.name == name) = some f)
    (hself : f.Stores read get) (hother : ∀ f ∈ fields, f.name ≠ name → f.Keeps get) :
    SetsOnly fields name read get :=
  ⟨⟨f, hf, hself⟩, hother⟩

variable {fields : List (Field α)} {name : String} {read : Decoder β} {get : α → β}

/-- A field keeps its value while other members are read. -/
theorem SetsOnly.setNamed_of_not_mem (h : SetsOnly fields name read get)
    {ms : List (String × Json)} (hms : Entries.get? name ms = none) {r r' : α}
    (hr : setNamed fields ms r = .ok r') : get r' = get r := by
  induction ms generalizing r with
  | nil => exact congrArg get (Except.ok.inj hr).symm
  | cons m ms ih =>
    obtain ⟨n, v⟩ := m
    rw [Entries.get?] at hms
    split at hms
    · cases hms
    · rename_i hne
      rw [setNamed] at hr
      split at hr
      · exact ih hms hr
      · rename_i f hf
        obtain ⟨r₁, hset, hrest⟩ := exists_of_bind_eq_ok hr
        have hname := List.find?_some hf
        rw [beq_iff_eq] at hname
        rw [ih hms hrest]
        exact h.other f (List.mem_of_find?_eq_some hf) (hname ▸ Ne.symm hne) v r r₁ hset

theorem SetsOnly.setNamed (h : SetsOnly fields name read get) {ms : List (String × Json)}
    (hordered : Entries.Ordered ms) {v : Json} (hv : Entries.get? name ms = some v) {r r' : α}
    (hr : setNamed fields ms r = .ok r') : read v = .ok (get r') := by
  induction ms generalizing r with
  | nil => cases hv
  | cons m ms ih =>
    obtain ⟨n, w⟩ := m
    have hrest : Entries.Ordered ms := (List.pairwise_cons.1 hordered).2
    rw [Decoder.setNamed] at hr
    rw [Entries.get?] at hv
    split at hv
    · rename_i hname
      subst hname
      cases hv
      obtain ⟨f, hf, hset⟩ := h.self
      rw [hf] at hr
      obtain ⟨r₁, hr₁, hr⟩ := exists_of_bind_eq_ok hr
      rw [h.setNamed_of_not_mem hordered.get?_head_eq_none hr]
      exact hset v r r₁ hr₁
    · split at hr
      · exact ih hrest hv hr
      · obtain ⟨r₁, -, hr⟩ := exists_of_bind_eq_ok hr
        exact ih hrest hv hr

/-- A field of a record that is read from an object is what the value of its member is read as. -/
theorem SetsOnly.record (h : SetsOnly fields name read get) {type : String}
    {ms : List (String × Json)} (hordered : Entries.Ordered ms) {v : Json}
    (hv : Entries.get? name ms = some v) {initial r : α}
    (hr : Decoder.record type fields initial (.object ms) = .ok r) : read v = .ok (get r) := by
  rw [Decoder.record] at hr
  obtain ⟨r₁, hset, hr⟩ := exists_of_bind_eq_ok hr
  split at hr
  · cases hr
  · cases hr
    exact h.setNamed hordered hv hset

/-- A field of a record that is read from an object is what its member is read as: the value of the
member, or the default where there is none. -/
theorem SetsOnly.member_eq (h : SetsOnly fields name read get) {type : String}
    {ms : List (String × Json)} (hordered : Entries.Ordered ms) {initial r : α}
    (hr : Decoder.record type fields initial (.object ms) = .ok r) :
    member read (get initial) (Entries.get? name ms) = .ok (get r) := by
  cases hv : Entries.get? name ms with
  | some v => exact h.record hordered hv hr
  | none =>
    obtain ⟨r₁, hset, hr⟩ := exists_of_bind_eq_ok hr
    split at hr
    · cases hr
    · cases hr
      exact congrArg Except.ok (h.setNamed_of_not_mem hv hset).symm

/-! ## Records that can be read -/

/-- A field takes what stands in its place, whatever the record: a value that it can be set from, or
nothing if it has a default. -/
def Field.Takes (f : Field α) (found : Option Json) : Prop :=
  (f.required = true → found.isSome) ∧ ∀ v ∈ found, ∀ r, ∃ r', f.set v r = .ok r'

theorem takes_field {put : β → α → α} {default b : β} {found : Option Json}
    (h : member read default found = .ok b) : (field name read put).Takes found := by
  refine ⟨nofun, ?_⟩
  rintro v rfl r
  rw [member_some] at h
  exact ⟨put b r, congrArg (Except.map (put · r)) h⟩

theorem takes_requiredField {put : β → α → α} {v : Json} {b : β} (h : read v = .ok b) :
    (requiredField name read put).Takes (some v) := by
  refine ⟨fun _ => rfl, ?_⟩
  rintro _ ⟨⟩ r
  exact ⟨put b r, congrArg (Except.map (put · r)) h⟩

theorem exists_setNamed {ms : List (String × Json)}
    (h : ∀ f ∈ fields, ∀ v, (f.name, v) ∈ ms → ∀ r, ∃ r', f.set v r = .ok r') (r : α) :
    ∃ r', Decoder.setNamed fields ms r = .ok r' := by
  induction ms generalizing r with
  | nil => exact ⟨r, rfl⟩
  | cons m ms ih =>
    obtain ⟨n, v⟩ := m
    have hms := ih fun f hf w hw => h f hf w (List.mem_cons_of_mem _ hw)
    rw [Decoder.setNamed]
    cases hf : fields.find? (·.name == n) with
    | none => exact hms r
    | some f =>
      have hname := List.find?_some hf
      rw [beq_iff_eq] at hname
      obtain ⟨r₁, hr₁⟩ := h f (List.mem_of_find?_eq_some hf) v (hname ▸ List.mem_cons_self) r
      obtain ⟨r', hr'⟩ := hms r₁
      refine ⟨r', ?_⟩
      show (f.set v r).bind (Decoder.setNamed fields ms) = .ok r'
      rw [hr₁]
      exact hr'

/-- A record can be read from an object if every field takes what stands in its place. -/
theorem exists_record {type : String} {initial : α} {ms : List (String × Json)}
    (hordered : Entries.Ordered ms) (h : ∀ f ∈ fields, f.Takes (Entries.get? f.name ms)) :
    ∃ r, Decoder.record type fields initial (.object ms) = .ok r := by
  obtain ⟨r, hr⟩ := exists_setNamed
    (fun f hf v hv => (h f hf).2 v (Entries.get?_eq_some_of_mem hordered hv)) initial
  have hmissing : missing? fields ms = none := by
    rw [missing?, List.find?_eq_none]
    intro f hf hlacks
    rw [Bool.and_eq_true, Bool.not_eq_true'] at hlacks
    obtain ⟨v, hv⟩ := Option.isSome_iff_exists.1 ((h f hf).1 hlacks.1)
    have hany := List.any_eq_false.1 hlacks.2 _ (Entries.mem_of_get?_eq_some hv)
    exact hany (beq_self_eq_true _)
  exact ⟨r, by rw [Decoder.record, hr, ok_bind, hmissing]; rfl⟩

/-- A field without default has a member in every object that a record is read from. -/
theorem isSome_of_record {type : String} {initial r : α} {ms : List (String × Json)}
    (h : Decoder.record type fields initial (.object ms) = .ok r) {f : Field α} (hf : f ∈ fields)
    (hrequired : f.required = true) : (Entries.get? f.name ms).isSome := by
  obtain ⟨_, -, h⟩ := exists_of_bind_eq_ok h
  split at h
  · cases h
  · rename_i hmissing
    by_contra hnone
    rw [Option.not_isSome_iff_eq_none, Entries.get?_eq_none_iff] at hnone
    have hany : (ms.any (·.1 == f.name)) = false := List.any_eq_false.2 fun m hm hname =>
      hnone (List.mem_map.2 ⟨m, hm, beq_iff_eq.1 hname⟩)
    rw [missing?, List.find?_eq_none] at hmissing
    exact hmissing f hf (by rw [hrequired, hany]; rfl)

/-! ## Values that may be missing -/

/-- A value that is there was read as such. -/
theorem eq_ok_of_optional {v : Json} {b : β} (h : optional read v = .ok (some b)) :
    read v = .ok b := by
  unfold optional at h
  split at h
  · cases h
  · obtain ⟨_, hb, hsome⟩ := KeyedState.exists_of_map_eq_ok h
    cases hsome
    exact hb

/-! ## What every field keeps -/

/-- The fields keep a property of records, whatever they are set from. -/
def FieldsKeep (fields : List (Field α)) (P : α → Prop) : Prop :=
  ∀ f ∈ fields, ∀ v r r', f.set v r = .ok r' → P r → P r'

variable {P : α → Prop}

theorem FieldsKeep.setNamed (h : FieldsKeep fields P) {ms : List (String × Json)} {r r' : α}
    (hr : Decoder.setNamed fields ms r = .ok r') (hP : P r) : P r' := by
  induction ms generalizing r with
  | nil => exact Except.ok.inj hr ▸ hP
  | cons m ms ih =>
    rw [Decoder.setNamed] at hr
    split at hr
    · exact ih hr hP
    · rename_i f hf
      obtain ⟨r₁, hset, hr⟩ := exists_of_bind_eq_ok hr
      exact ih hr (h f (List.mem_of_find?_eq_some hf) m.2 r r₁ hset hP)

theorem FieldsKeep.setPositional (h : FieldsKeep fields P) {type : String} {count index : Nat}
    {vs : List Json} {r r' : α} (hr : Decoder.setPositional type count index fields vs r = .ok r')
    (hP : P r) : P r' := by
  induction fields generalizing index vs r with
  | nil =>
    rw [Decoder.setPositional] at hr
    split at hr
    · exact Except.ok.inj hr ▸ hP
    · cases hr
  | cons f fs ih =>
    have hfs : FieldsKeep fs P := fun g hg => h g (List.mem_cons_of_mem _ hg)
    cases vs with
    | nil =>
      rw [Decoder.setPositional] at hr
      split at hr
      · cases hr
      · exact ih hfs hr hP
    | cons v vs =>
      obtain ⟨r₁, hset, hr⟩ := exists_of_bind_eq_ok hr
      exact ih hfs hr (h f List.mem_cons_self v r r₁ hset hP)

/-- What holds of the defaults and is kept by every field holds of every record that is read. -/
theorem FieldsKeep.record (h : FieldsKeep fields P) {type : String} {v : Json} {initial r : α}
    (hr : Decoder.record type fields initial v = .ok r) (hP : P initial) : P r := by
  cases v with
  | object ms =>
    obtain ⟨r₁, hset, hr⟩ := exists_of_bind_eq_ok hr
    split at hr
    · cases hr
    · cases hr
      exact h.setNamed hset hP
  | array vs => exact h.setPositional hr hP
  | _ => cases hr

end Decoder

end KeyedState

import KeyedState.Matching.Conditions
import KeyedState.Proofs.Decimal.Denoted
import KeyedState.Proofs.Json.Record
import Mathlib.Tactic.MkIffOfInductiveProp

/-!
# What conditions are read from

Each field of the conditions is read from the member of its name, whatever the order of the members
and whatever else there is (`ContextConditions.decode_object_iff`). A count is read from the texts
that denote an integer in range (`ContextConditions.decodeCount_str_eq_ok_iff`), so from its written
form, and not where that is too large (`ContextConditions.decodeCount_toString_of_lt`).
-/

namespace KeyedState

namespace ContextConditions

/-- Conditions are read from members: each field from the member of its name, and those of missing
members are the fields of `r`. -/
@[mk_iff]
structure AreRead (ms : List (String × Json)) (r c : ContextConditions) : Prop where
  hasContext : Decoder.member Decoder.string r.hasContext (Entries.get? "hasContext" ms) =
    .ok c.hasContext
  hasProperty : Decoder.member (Decoder.optional Decoder.string) r.hasProperty
    (Entries.get? "hasProperty" ms) = .ok c.hasProperty
  hasNotProperty : Decoder.member (Decoder.optional Decoder.string) r.hasNotProperty
    (Entries.get? "hasNotProperty" ms) = .ok c.hasNotProperty
  property : Decoder.member (Decoder.optional decodePatterns) r.property
    (Entries.get? "property" ms) = .ok c.property
  list : Decoder.member (Decoder.optional decodeList) r.list (Entries.get? "list" ms) = .ok c.list
  updateCountEqualTo : Decoder.member decodeCount r.updateCountEqualTo
    (Entries.get? "updateCountEqualTo" ms) = .ok c.updateCountEqualTo
  updateCountLessThan : Decoder.member decodeCount r.updateCountLessThan
    (Entries.get? "updateCountLessThan" ms) = .ok c.updateCountLessThan
  updateCountMoreThan : Decoder.member decodeCount r.updateCountMoreThan
    (Entries.get? "updateCountMoreThan" ms) = .ok c.updateCountMoreThan
  listSizeEqualTo : Decoder.member decodeCount r.listSizeEqualTo
    (Entries.get? "listSizeEqualTo" ms) = .ok c.listSizeEqualTo
  listSizeLessThan : Decoder.member decodeCount r.listSizeLessThan
    (Entries.get? "listSizeLessThan" ms) = .ok c.listSizeLessThan
  listSizeMoreThan : Decoder.member decodeCount r.listSizeMoreThan
    (Entries.get? "listSizeMoreThan" ms) = .ok c.listSizeMoreThan

attribute [ext] ContextConditions

/-- What is read field by field is determined. -/
theorem AreRead.unique {ms : List (String × Json)} {r c c' : ContextConditions}
    (h : AreRead ms r c) (h' : AreRead ms r c') : c = c' :=
  ContextConditions.ext (ok_unique h.hasContext h'.hasContext)
    (ok_unique h.hasProperty h'.hasProperty) (ok_unique h.hasNotProperty h'.hasNotProperty)
    (ok_unique h.property h'.property) (ok_unique h.list h'.list)
    (ok_unique h.updateCountEqualTo h'.updateCountEqualTo)
    (ok_unique h.updateCountLessThan h'.updateCountLessThan)
    (ok_unique h.updateCountMoreThan h'.updateCountMoreThan)
    (ok_unique h.listSizeEqualTo h'.listSizeEqualTo)
    (ok_unique h.listSizeLessThan h'.listSizeLessThan)
    (ok_unique h.listSizeMoreThan h'.listSizeMoreThan)

/-- The conditions on rows are what the member `list` is read as. -/
theorem setsOnly_list :
    Decoder.SetsOnly fields "list" (Decoder.optional decodeList) (·.list) :=
  .of_keeps rfl (Decoder.stores_field fun _ _ => rfl) (by simp [fields])

theorem areRead_of_decode {ms : List (String × Json)} (hordered : Entries.Ordered ms)
    {c : ContextConditions} (h : decode (.object ms) = .ok c) :
    AreRead ms { hasContext := "" } c := by
  have hfield {β : Type} {name : String} {read : Decoder β} {f : Decoder.Field ContextConditions}
      (get : ContextConditions → β) (hf : fields.find? (·.name == name) = some f)
      (hself : f.Stores read get) (hother : ∀ f ∈ fields, f.name ≠ name → f.Keeps get) :
      Decoder.member read (get { hasContext := "" }) (Entries.get? name ms) = .ok (get c) :=
    (Decoder.SetsOnly.of_keeps hf hself hother).member_eq hordered h
  exact
    { hasContext :=
        hfield (·.hasContext) rfl (Decoder.stores_requiredField fun _ _ => rfl) (by simp [fields])
      hasProperty :=
        hfield (·.hasProperty) rfl (Decoder.stores_field fun _ _ => rfl) (by simp [fields])
      hasNotProperty :=
        hfield (·.hasNotProperty) rfl (Decoder.stores_field fun _ _ => rfl) (by simp [fields])
      property := hfield (·.property) rfl (Decoder.stores_field fun _ _ => rfl) (by simp [fields])
      list := setsOnly_list.member_eq hordered h
      updateCountEqualTo :=
        hfield (·.updateCountEqualTo) rfl (Decoder.stores_field fun _ _ => rfl) (by simp [fields])
      updateCountLessThan :=
        hfield (·.updateCountLessThan) rfl (Decoder.stores_field fun _ _ => rfl) (by simp [fields])
      updateCountMoreThan :=
        hfield (·.updateCountMoreThan) rfl (Decoder.stores_field fun _ _ => rfl) (by simp [fields])
      listSizeEqualTo :=
        hfield (·.listSizeEqualTo) rfl (Decoder.stores_field fun _ _ => rfl) (by simp [fields])
      listSizeLessThan :=
        hfield (·.listSizeLessThan) rfl (Decoder.stores_field fun _ _ => rfl) (by simp [fields])
      listSizeMoreThan :=
        hfield (·.listSizeMoreThan) rfl (Decoder.stores_field fun _ _ => rfl) (by simp [fields]) }

/-- A count is read from the texts that denote an integer of its range. -/
theorem decodeCount_str_eq_ok_iff {text : String} {count : Option Int} :
    decodeCount (.str text) = .ok count ↔
      ∃ n, Integer.DenotesTrimmed .signed text n ∧ (-2 ^ 63 ≤ n ∧ n < 2 ^ 63) ∧ count = some n := by
  have hread : decodeCount (.str text) = .ok count ↔
      ∃ n, readI64 (trimBlank text) = .ok n ∧ count = some n := by
    rw [decodeCount]
    cases readI64 (trimBlank text) with
    | error fault => simp
    | ok n => simp [eq_comm]
  rw [hread]
  simp only [readI64_eq_ok_iff, Integer.denotes_trimBlank_iff, and_assoc]

/-- The text of an integer is read as that integer, where it is in range. -/
theorem decodeCount_toString_eq_ok_iff {n : Int} {count : Option Int} :
    decodeCount (.str (toString n)) = .ok count ↔
      (-2 ^ 63 ≤ n ∧ n < 2 ^ 63) ∧ count = some n := by
  simp only [decodeCount_str_eq_ok_iff, Integer.denotesTrimmed_toString_iff,
    Integer.denotes_signed_toString_iff, exists_eq_left]

theorem decodeCount_toString {n : Int} (hlow : -(maxI64 + 1 : Int) ≤ n) (hhigh : n ≤ maxI64) :
    decodeCount (.str (toString n)) = .ok (some n) := by
  unfold maxI64 at hlow hhigh
  exact decodeCount_toString_eq_ok_iff.2 ⟨by omega, rfl⟩

/-- A count is read from a number as from the text of it. -/
theorem decodeCount_int_eq_ok_iff {n : Int} {count : Option Int} :
    decodeCount (.int n) = .ok count ↔ decodeCount (.str (toString n)) = .ok count := by
  rw [decodeCount_toString_eq_ok_iff, decodeCount]
  unfold maxI64
  split
  · exact iff_of_false (fun h => by cases h) (by omega)
  · split
    · rw [and_iff_right (by omega), Except.ok.injEq, eq_comm]
    · exact iff_of_false (fun h => by cases h) (by omega)

/-- The failure that a natural, as it is written, is too large for a count. -/
def countTooLarge (n : Nat) : DecodeError := .invalidInteger "integer" (toString n) .tooLarge

/-- The text of a natural that is too large is not read. -/
theorem decodeCount_toString_of_lt {n : Nat} (h : maxI64 < n) :
    decodeCount (.str (toString n)) = .error (countTooLarge n) := by
  have htrim : trimBlank (toString n) = toString n := trimBlank_toString n
  rw [decodeCount, htrim, readI64_toString_of_lt h]
  rfl

/-- **Conditions are read field by field**, each from the member of its name. Only the id of the
context has no default. -/
theorem decode_object_iff {ms : List (String × Json)} (hordered : Entries.Ordered ms)
    {c : ContextConditions} :
    decode (.object ms) = .ok c ↔
      (Entries.get? "hasContext" ms).isSome ∧ AreRead ms { hasContext := "" } c := by
  constructor
  · exact fun h => ⟨Decoder.isSome_of_record h List.mem_cons_self rfl, areRead_of_decode hordered h⟩
  · rintro ⟨hsome, hread⟩
    obtain ⟨v, hv⟩ := Option.isSome_iff_exists.1 hsome
    have hcontext := hread.hasContext
    rw [hv, Decoder.member_some] at hcontext
    have htakes : ∀ f ∈ fields, f.Takes (Entries.get? f.name ms) := by
      simp only [fields, List.forall_mem_cons, List.not_mem_nil, IsEmpty.forall_iff, implies_true,
        and_true, Decoder.name_field, Decoder.name_requiredField, hv]
      exact ⟨Decoder.takes_requiredField hcontext, Decoder.takes_field hread.hasProperty,
        Decoder.takes_field hread.hasNotProperty, Decoder.takes_field hread.property,
        Decoder.takes_field hread.list, Decoder.takes_field hread.updateCountEqualTo,
        Decoder.takes_field hread.updateCountLessThan,
        Decoder.takes_field hread.updateCountMoreThan, Decoder.takes_field hread.listSizeEqualTo,
        Decoder.takes_field hread.listSizeLessThan, Decoder.takes_field hread.listSizeMoreThan⟩
    obtain ⟨r, hr⟩ : ∃ r, decode (.object ms) = .ok r := Decoder.exists_record hordered htakes
    rw [hr, (areRead_of_decode hordered hr).unique hread]

end ContextConditions

end KeyedState

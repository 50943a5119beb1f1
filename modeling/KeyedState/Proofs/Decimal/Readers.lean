import KeyedState.Event.Values
import KeyedState.Proofs.Decimal.Denoted
import KeyedState.Proofs.Event.Delete
import KeyedState.Proofs.Matching.ReadConditions
import KeyedState.Proofs.Matching.RowConditions

/-!
# The readers of integers

An integer is read from a text in four places: the index of a row to delete, the key of a condition
on a row, a count in a condition and the seconds of a time to live. They differ in the blanks, the
signs and the words that they take and in their range, and each reads exactly the texts that denote
an integer in its own way (`integer_texts_read_exactly`). Counts and seconds can be given as numbers,
too, and are then read as the texts of these numbers are.
-/

namespace KeyedState

/-! ## The texts that are read -/

theorem ListDeletion.ofText_eq_ok_iff_denotes {text : String} {choice : ListDeletion} :
    ofText text = .ok choice ↔
      ∃ n : U64, Integer.DenotesTrimmed .unsigned text n.val ∧ choice = .index n := by
  simp only [ofText_eq_ok_iff, Integer.spells_iff_denotes, Integer.denotes_trimBlank_iff]

theorem ListPosition.namedBy_iff {p : ListPosition} {key : String} :
    p.NamedBy key ↔ key = "first" ∧ p = .first ∨ (key = "last" ∨ key = "-1") ∧ p = .last ∨
      ∃ n : U64, Integer.Denotes .unsigned key.toList n.val ∧ p = .index n := by
  constructor
  · intro h
    cases h with
    | first => exact .inl ⟨rfl, rfl⟩
    | last => exact .inr (.inl ⟨.inl rfl, rfl⟩)
    | fromEnd => exact .inr (.inl ⟨.inr rfl, rfl⟩)
    | index h => exact .inr (.inr ⟨_, Integer.spells_iff_denotes.1 h, rfl⟩)
  · rintro (⟨rfl, rfl⟩ | ⟨rfl | rfl, rfl⟩ | ⟨n, hn, rfl⟩)
    · exact .first
    · exact .last
    · exact .fromEnd
    · exact .index (Integer.spells_iff_denotes.2 hn)

theorem Event.decodeSeconds_str_eq_ok_iff {text : String} {ttl : Option U64} :
    decodeSeconds (.str text) = .ok ttl ↔
      ∃ n : U64, Integer.DenotesTrimmed .unsigned text n.val ∧ ttl = some n := by
  simp only [← Integer.denotes_trimBlank_iff, ← readU64_eq_ok_iff_denotes, decodeSeconds]
  cases readU64 (trimBlank text) with
  | error fault => simp
  | ok n => simp [eq_comm]

/-! ## Numbers and their texts -/

theorem Event.decodeSeconds_toString_eq_ok_iff {n : Int} {ttl : Option U64} :
    decodeSeconds (.str (toString n)) = .ok ttl ↔ ∃ u : U64, n = u.val ∧ ttl = some u := by
  simp only [decodeSeconds_str_eq_ok_iff, Integer.denotesTrimmed_toString_iff,
    Integer.denotes_unsigned_toString_iff]
  constructor
  · rintro ⟨u, ⟨hu, -⟩, rfl⟩
    exact ⟨u, hu.symm, rfl⟩
  · rintro ⟨u, rfl, rfl⟩
    exact ⟨u, ⟨rfl, Int.natCast_nonneg _⟩, rfl⟩

/-- Seconds are read from a number as from the text of it. -/
theorem Event.decodeSeconds_int_eq_ok_iff {n : Int} {ttl : Option U64} :
    decodeSeconds (.int n) = .ok ttl ↔ decodeSeconds (.str (toString n)) = .ok ttl := by
  rw [decodeSeconds_toString_eq_ok_iff, decodeSeconds]
  simp only [← U64.ofInt?_eq_some_iff]
  cases U64.ofInt? n with
  | none => simp
  | some u => simp [eq_comm]

/-- A position is read from its text. -/
theorem ListPosition.parse_text (p : ListPosition) : parse p.text = .ok p := by
  rw [parse_eq_ok_iff]
  cases p with
  | first => exact .first
  | last => exact .last
  | index n => exact .index (Integer.spells_toString n.val)

/-- **Integers are read from the texts that denote them, and from no others.** The index of a row to
delete and the seconds of a time to live are read from digits whose value fits 64 bits, with an
optional plus sign before them and blanks around; the position of a row from such digits without
blanks, or from one of three words; a count from digits whose value fits 64 bits with its sign, with
either sign before them and blanks around. What is written for an integer in range, or for a
position, is read back as that one. Seconds and counts that are given as numbers are read as the
texts of these numbers are. -/
theorem integer_texts_read_exactly :
    (∀ text choice, ListDeletion.ofText text = .ok choice ↔
      ∃ n : U64, Integer.DenotesTrimmed .unsigned text n.val ∧ choice = .index n) ∧
    (∀ text ttl, Event.decodeSeconds (.str text) = .ok ttl ↔
      ∃ n : U64, Integer.DenotesTrimmed .unsigned text n.val ∧ ttl = some n) ∧
    (∀ key p, ListPosition.parse key = .ok p ↔
      key = "first" ∧ p = .first ∨ (key = "last" ∨ key = "-1") ∧ p = .last ∨
        ∃ n : U64, Integer.Denotes .unsigned key.toList n.val ∧ p = .index n) ∧
    (∀ text count, ContextConditions.decodeCount (.str text) = .ok count ↔
      ∃ n, Integer.DenotesTrimmed .signed text n ∧ (-2 ^ 63 ≤ n ∧ n < 2 ^ 63) ∧ count = some n) ∧
    (∀ n : U64, ListDeletion.ofText (toString n.val) = .ok (.index n) ∧
      Event.decodeSeconds (.str (toString n.val)) = .ok (some n)) ∧
    (∀ n : Int, ContextConditions.decodeCount (.str (toString n)) = .ok (some n) ↔
      -2 ^ 63 ≤ n ∧ n < 2 ^ 63) ∧
    (∀ p : ListPosition, ListPosition.parse p.text = .ok p) ∧
    (∀ n ttl, Event.decodeSeconds (.int n) = .ok ttl ↔
      Event.decodeSeconds (.str (toString n)) = .ok ttl) ∧
    ∀ n count, ContextConditions.decodeCount (.int n) = .ok count ↔
      ContextConditions.decodeCount (.str (toString n)) = .ok count := by
  have hposition : ∀ key p, ListPosition.parse key = .ok p ↔
      key = "first" ∧ p = .first ∨ (key = "last" ∨ key = "-1") ∧ p = .last ∨
        ∃ n : U64, Integer.Denotes .unsigned key.toList n.val ∧ p = .index n :=
    fun _ _ => ListPosition.parse_eq_ok_iff.trans ListPosition.namedBy_iff
  have hwritten : ∀ n : U64, ListDeletion.ofText (toString n.val) = .ok (.index n) ∧
      Event.decodeSeconds (.str (toString n.val)) = .ok (some n) := by
    intro n
    have hn : Integer.DenotesTrimmed .unsigned (toString n.val) n.val :=
      Integer.denotesTrimmed_toString_iff.2
        (Integer.denotes_unsigned_toString_iff.2 ⟨rfl, Int.natCast_nonneg _⟩)
    exact ⟨ListDeletion.ofText_eq_ok_iff_denotes.2 ⟨n, hn, rfl⟩,
      Event.decodeSeconds_str_eq_ok_iff.2 ⟨n, hn, rfl⟩⟩
  have hcount : ∀ n : Int, ContextConditions.decodeCount (.str (toString n)) = .ok (some n) ↔
      -2 ^ 63 ≤ n ∧ n < 2 ^ 63 := by
    intro n
    rw [ContextConditions.decodeCount_toString_eq_ok_iff, and_iff_left rfl]
  exact ⟨fun _ _ => ListDeletion.ofText_eq_ok_iff_denotes,
    fun _ _ => Event.decodeSeconds_str_eq_ok_iff, hposition,
    fun _ _ => ContextConditions.decodeCount_str_eq_ok_iff, hwritten, hcount,
    ListPosition.parse_text, fun _ _ => Event.decodeSeconds_int_eq_ok_iff,
    fun _ _ => ContextConditions.decodeCount_int_eq_ok_iff⟩

/-- Any blanks may stand around a count, and zeros before it. -/
example : ContextConditions.decodeCount (.str "\u00a0-007\u3000\t") = .ok (some (-7)) := by
  decide

end KeyedState

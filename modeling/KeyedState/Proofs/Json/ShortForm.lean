import KeyedState.Proofs.Json.Maps
import KeyedState.Proofs.Json.Record

/-!
# Short forms of objects

An object has a short form for each choice of members that hold a default and are left out
(`Json.ShortObject`). A field is read from a short form as from the whole object, since what is left
out is its default (`Json.ShortMembers.member_eq_ok`).

A reader that reads back all values that are written (`Decoder.Inverts`) tells by the value alone
whether it stands for the default (`Decoder.Inverts.injective`).
-/

namespace KeyedState

variable {α β : Type}

/-! ## Readers of what is written -/

namespace Decoder

/-- A reader reads back every value that is written. -/
def Inverts (read : Decoder β) (value : β → Json) : Prop := ∀ b, read (value b) = .ok b

variable {read : Decoder β} {value : β → Json}

/-- What can be read back is written in one way only. -/
theorem Inverts.injective (h : read.Inverts value) : Function.Injective value := fun a b hab =>
  Except.ok.inj ((h a).symm.trans ((congrArg read hab).trans (h b)))

theorem inverts_string : string.Inverts .str := fun _ => rfl

theorem inverts_boolean : boolean.Inverts .bool := fun _ => rfl

theorem inverts_unsigned (expected : String) (bound : Nat) :
    (unsigned expected bound).Inverts fun n => .int n.val := by
  intro n
  rw [unsigned, dif_pos ⟨Int.natCast_nonneg _, n.isLt⟩]
  rfl

theorem Inverts.map (h : read.Inverts value) : (map read).Inverts (Json.ofMap value) := by
  intro m
  have hentries : ∀ es, memberValues read (es.map fun e => (e.1, value e.2)) = .ok es := by
    intro es
    induction es with
    | nil => rfl
    | cons e es ih =>
      rw [List.map_cons, memberValues, h, ih]
      rfl
  rw [Json.ofMap, Decoder.map, hentries, map_ok, KeyMap.ofList_toList]

theorem Inverts.list (h : read.Inverts value) :
    (list read).Inverts fun bs => .array (bs.map value) := by
  intro bs
  show items read (bs.map value) = .ok bs
  induction bs with
  | nil => rfl
  | cons b bs ih =>
    rw [List.map_cons, items, h, ih]
    rfl

/-- A value other than null is read as one that is there. -/
theorem optional_of_ne_null {v : Json} (hv : v ≠ .null) : optional read v = (read v).map some := by
  cases v with
  | null => exact absurd rfl hv
  | _ => rfl

end Decoder

/-! ## Leaving out members -/

namespace Json

/-- What is left of members when some that hold a default are left out. The values of the others may
be shortened. -/
inductive ShortMembers (defaults : List (String × Json)) (short : String → Json → Json → Prop) :
    List (String × Json) → List (String × Json) → Prop
  | nil : ShortMembers defaults short [] []
  | keep {name : String} {v w : Json} {ms ns : List (String × Json)} (hv : short name v w)
      (h : ShortMembers defaults short ms ns) :
      ShortMembers defaults short ((name, v) :: ms) ((name, w) :: ns)
  | drop {m : String × Json} {ms ns : List (String × Json)} (hm : m ∈ defaults)
      (h : ShortMembers defaults short ms ns) : ShortMembers defaults short (m :: ms) ns

/-- An object that is left of another when members that hold a default are left out. -/
def ShortObject (defaults : List (String × Json)) (short : String → Json → Json → Prop)
    (v w : Json) : Prop :=
  ∃ ms ns, v = .object ms ∧ w = .object ns ∧ ShortMembers defaults short ms ns

variable {defaults : List (String × Json)} {short : String → Json → Json → Prop}
  {ms ns : List (String × Json)}

/-- No member need be left out. -/
theorem ShortMembers.refl (h : ∀ name v, short name v v) :
    ∀ ms, ShortMembers defaults short ms ms
  | [] => .nil
  | m :: ms => .keep (h m.1 m.2) (refl h ms)

namespace ShortMembers

variable {name : String}

theorem keys_sublist (h : ShortMembers defaults short ms ns) :
    (ns.map (·.1)).Sublist (ms.map (·.1)) := by
  induction h with
  | nil => exact List.Sublist.slnil
  | keep _ _ ih => exact ih.cons_cons _
  | drop _ _ ih => exact ih.cons _

theorem ordered (h : ShortMembers defaults short ms ns) (hms : Entries.Ordered ms) :
    Entries.Ordered ns :=
  Entries.ordered_iff_keys.2 ((Entries.ordered_iff_keys.1 hms).sublist h.keys_sublist)

theorem get?_eq_none (h : ShortMembers defaults short ms ns) (hname : Entries.get? name ms = none) :
    Entries.get? name ns = none :=
  Entries.get?_eq_none_iff.2 fun hmem =>
    Entries.get?_eq_none_iff.1 hname (h.keys_sublist.subset hmem)

/-- A member stays, with a value that may be shortened, or it holds a default and is left out. -/
theorem get?_cases (h : ShortMembers defaults short ms ns) (hms : Entries.Ordered ms) {v : Json}
    (hv : Entries.get? name ms = some v) :
    (∃ w, Entries.get? name ns = some w ∧ short name v w) ∨
      Entries.get? name ns = none ∧ (name, v) ∈ defaults := by
  induction h with
  | nil => cases hv
  | @keep n u w ms ns hu _ ih =>
    rw [Entries.get?] at hv ⊢
    split at hv
    · rename_i hn
      subst hn
      cases hv
      exact .inl ⟨w, if_pos rfl, hu⟩
    · rename_i hn
      rw [if_neg hn]
      exact ih (List.pairwise_cons.1 hms).2 hv
  | @drop m ms ns hm hrest ih =>
    rw [Entries.get?] at hv
    split at hv
    · rename_i hn
      subst hn
      cases hv
      exact .inr ⟨hrest.get?_eq_none hms.get?_head_eq_none, hm⟩
    · exact ih (List.pairwise_cons.1 hms).2 hv

/-- A field is read from what is left as from all members, if what it is read as where the member
stays does not depend on how the value is shortened, and what is left out is its default. -/
theorem member_eq_ok (h : ShortMembers defaults short ms ns) (hms : Entries.Ordered ms) {v : Json}
    (hv : Entries.get? name ms = some v) {read : Decoder β} {default b : β}
    (hread : ∀ w, short name v w → read w = .ok b) (hdefault : (name, v) ∈ defaults → b = default) :
    Decoder.member read default (Entries.get? name ns) = .ok b := by
  rcases h.get?_cases hms hv with ⟨w, hw, hshort⟩ | ⟨hnone, hmem⟩
  · rw [hw]
    exact hread w hshort
  · rw [hnone, hdefault hmem]
    rfl

/-- A field is read back from what is left, if its value is not shortened and only its default is
left out. -/
theorem member_of_inverts (h : ShortMembers defaults short ms ns) (hms : Entries.Ordered ms)
    {read : Decoder β} {value : β → Json} (hread : read.Inverts value) {default b : β}
    (hb : Entries.get? name ms = some (value b)) (hshort : ∀ v w, short name v w → v = w)
    (hdefault : ∀ v, (name, v) ∈ defaults → v = value default) :
    Decoder.member read default (Entries.get? name ns) = .ok b := by
  refine h.member_eq_ok hms hb (fun w hw => ?_) fun hmem => hread.injective (hdefault _ hmem)
  rw [← hshort _ _ hw]
  exact hread b

end ShortMembers

end Json

end KeyedState

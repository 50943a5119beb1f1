import KeyedState.Proofs.Matching.Meaning
import KeyedState.Proofs.Matching.ReadConditions
import KeyedState.Proofs.Template.Literal
import KeyedState.Proofs.Template.Placeholder
import KeyedState.Proofs.Template.Renders

/-!
# A context compared with its own counts

Templates can ask whether the counts of a context are the ones that the context shows. A count is
shown in full, but a bound is read as a signed integer of the same width, so half of the counts that
a context can have are no bounds: the question is affirmed of the other half, and it is malformed
where it reaches a count that is too large (`StateMatcher.matchRequest_ownCounts`).
-/

namespace KeyedState

namespace Template

/-- The template of what a context shows under a name. -/
def ofShown (name : String) : String := "\x7b\x7bcontext." ++ name ++ "\x7d\x7d"

theorem ofShown_eq (name : String) : ofShown name = placeholder [.key "context", .key name] := by
  have hbefore : "\x7b\x7bcontext.".toList = opening ++ ("context".toList ++ ['.']) := rfl
  have hafter : "\x7d\x7d".toList = closing := rfl
  unfold ofShown
  rw [← String.toList_inj, toList_placeholder, String.toList_append, String.toList_append, hbefore,
    hafter]
  simp [Path.written, Segment.written, List.intercalate_cons_cons]

/-- The template renders to the text that is shown, whatever that is. -/
theorem render_ofShown {c : Context} {name text : String} (hname : IsPathName name)
    (htext : c.templateModel.get? name = some (.str text)) (request : Json) :
    render (StateMatcher.contextModel request c) (ofShown name) = .ok text := by
  have hfollow : Path.follow [.key "context", .key name] (StateMatcher.contextModel request c) =
      (c.templateModel.get? name).bind some :=
    rfl
  rw [ofShown_eq, render_placeholder (List.cons_ne_nil _ _), hfollow, htext]
  · rfl
  · simp only [List.forall_mem_cons]
    exact ⟨isPathName_of_letters (by decide) (by decide), hname, List.forall_mem_nil _⟩

end Template

namespace ContextConditions

/-- Parameters that ask for a number of rows and a count of updates. -/
def askingFor (id : String) (size count : Json) : Json :=
  .object
    [("hasContext", .str id), ("listSizeEqualTo", size), ("updateCountEqualTo", count)]

/-- The number of rows is read first, as its name comes first. -/
theorem decode_askingFor (id : String) (size count : Json) :
    decode (askingFor id size count) = (do
      let size ← decodeCount size
      let count ← decodeCount count
      return { hasContext := id, listSizeEqualTo := size, updateCountEqualTo := count }) := by
  have hset : Decoder.setNamed fields [("hasContext", .str id), ("listSizeEqualTo", size),
      ("updateCountEqualTo", count)] { hasContext := "" } =
      ((decodeCount size).map fun n =>
        ({ hasContext := id, listSizeEqualTo := n } : ContextConditions)).bind fun c =>
          ((decodeCount count).map fun n => { c with updateCountEqualTo := n }).bind .ok :=
    rfl
  rw [askingFor, decode, Decoder.record, hset]
  rcases decodeCount size with e | n
  · rfl
  · rcases decodeCount count with e | m
    · rfl
    · rfl

/-- The failure that a number, as it is written, is too large for a count. -/
def unreadableCount (n : Nat) : ConfigurationError := .invalidParameters (countTooLarge n).message

/-- Written numbers are read back, unless one of them is too large. -/
theorem ofJson_askingFor (id : String) (size count : Nat) :
    ofJson (askingFor id (.str (toString size)) (.str (toString count))) =
      if maxI64 < size then .error (unreadableCount size)
      else if maxI64 < count then .error (unreadableCount count)
      else .ok { hasContext := id, listSizeEqualTo := some (size : Int),
                 updateCountEqualTo := some (count : Int) } := by
  have hread : ∀ n : Nat, ¬ maxI64 < n → decodeCount (.str (toString n)) = .ok (some (n : Int)) :=
    fun n hn => decodeCount_toString (n := n) (by omega) (by omega)
  rw [ofJson, decode_askingFor]
  split
  · rename_i hsize
    rw [decodeCount_toString_of_lt hsize]
    rfl
  · rename_i hsize
    rw [hread size hsize, ok_bind]
    split
    · rename_i hcount
      rw [decodeCount_toString_of_lt hcount]
      rfl
    · rename_i hcount
      rw [hread count hcount]
      rfl

end ContextConditions

namespace StateMatcher

/-- The question whether the counts of a context are what the context shows of them. -/
def ownCounts (id : String) : Json :=
  ContextConditions.askingFor id (.str (Template.ofShown "listSize"))
    (.str (Template.ofShown "updateCount"))

theorem renderJson_ownCounts {id : String} (hid : Template.IsLiteral id) (request : Json)
    (c : Context) :
    renderJson Template.render (contextModel request c) (ownCounts id) =
      .ok (ContextConditions.askingFor id (.str (toString c.rows.length))
        (.str (toString c.updateCount.val))) := by
  have hword := fun text h => Template.render_of_not_mem text h (contextModel request c)
  have hsizeName : IsPathName "listSize" := isPathName_of_letters (by decide) (by decide)
  have hcountName : IsPathName "updateCount" := isPathName_of_letters (by decide) (by decide)
  have hsize := Template.render_ofShown (c := c) hsizeName rfl request
  have hcount := Template.render_ofShown (c := c) hcountName rfl request
  have hordered : ["hasContext", "listSizeEqualTo", "updateCountEqualTo"].Pairwise (· < ·) := by
    decide
  refine renderJson_of_renders (.object ?_ (Entries.ordered_iff_keys.2 hordered))
  refine .cons ⟨hword "hasContext" (by decide), .str (hid.render_eq _)⟩ ?_
  refine .cons ⟨hword "listSizeEqualTo" (by decide), .str hsize⟩ ?_
  exact .cons ⟨hword "updateCountEqualTo" (by decide), .str hcount⟩ .nil

/-- The counts of a context are what the context shows of them, where that can be read. -/
theorem conditionsHold_ownCounts {id : String} (hid : Template.IsLiteral id)
    (parser : PatternParser) (request : Json) (c : Context) :
    ({ parser } : StateMatcher).conditionsHold request (ownCounts id) c =
      if maxI64 < c.rows.length then
        .error (.configuration (ContextConditions.unreadableCount c.rows.length))
      else if maxI64 < c.updateCount.val then
        .error (.configuration (ContextConditions.unreadableCount c.updateCount.val))
      else .ok true := by
  have hrendered := renderJson_ownCounts hid request c
  have hread := ContextConditions.ofJson_askingFor id c.rows.length c.updateCount.val
  split at hread
  · rename_i hsize
    rw [if_pos hsize]
    exact conditionsHold_of_ofJson_eq_error hrendered hread
  · rename_i hsize
    rw [if_neg hsize]
    split at hread
    · rename_i hcount
      rw [if_pos hcount]
      exact conditionsHold_of_ofJson_eq_error hrendered hread
    · rename_i hcount
      rw [if_neg hcount]
      refine conditionsHold_of_holdIn (m := { parser }) hrendered hread fun kind => ?_
      cases kind with
      | listSizeEqualTo => exact forall_mem_some.2 rfl
      | updateCountEqualTo => exact forall_mem_some.2 rfl
      | _ => exact forall_mem_none _

theorem run_matchRequest_ownCounts {σ : Type} {b : Backend σ} {wall : Instant} {s s' : σ}
    {id : String} {c : Context}
    (hstored : (ContextStore.get id).run b wall s = (.ok (some c), s'))
    (hid : Template.IsLiteral id) (parser : PatternParser) (request : Json) :
    (({ parser } : StateMatcher).matchRequest request (ownCounts id)).run b wall s =
      (({ parser } : StateMatcher).conditionsHold request (ownCounts id) c, s') :=
  run_matchRequest_of_get rfl rfl (hid.render_eq _) hstored

/-- **A context is matched by its own counts, where they can be read back.** Whatever storage a
context is found in, under a literal id, it is matched by what templates show of its counts if those
are at most the largest signed integer. A larger one is shown, too, but makes the parameters
malformed; the number of rows is looked at first. -/
theorem matchRequest_ownCounts {σ : Type} (b : Backend σ) (wall : Instant) (s s' : σ)
    (parser : PatternParser) (request : Json) (id : String) (c : Context)
    (hstored : (ContextStore.get id).run b wall s = (.ok (some c), s'))
    (hid : Template.IsLiteral id) :
    (({ parser } : StateMatcher).matchRequest request (ownCounts id)).run b wall s =
      (if maxI64 < c.rows.length then
        .error (.configuration (ContextConditions.unreadableCount c.rows.length))
      else if maxI64 < c.updateCount.val then
        .error (.configuration (ContextConditions.unreadableCount c.updateCount.val))
      else .ok true, s') := by
  rw [run_matchRequest_ownCounts hstored hid, conditionsHold_ownCounts hid]

/-- A context that has been updated `n` times. -/
def updated (n : U64) : Context := ⟨"a", ∅, [∅], n, none⟩

/-- A store with that context. -/
def updatedStore (n : U64) : MemoryStore Context :=
  (MemoryStore.new .epoch).setSlot "a" ⟨updated n, none⟩

theorem get_updatedStore (n : U64) :
    (ContextStore.get "a").run MemoryStore.backend .epoch (updatedStore n) =
      (.ok (some (updated n)), updatedStore n) :=
  rfl

/-- The largest count that can be read back is matched. -/
theorem matchRequest_ownCounts_maxI64 :
    let s := updatedStore ⟨maxI64, by decide⟩
    (ContextStore.get "a").run MemoryStore.backend .epoch s =
        (.ok (some (updated ⟨maxI64, by decide⟩)), s) ∧
      Template.IsLiteral "a" ∧
      (({} : StateMatcher).matchRequest orderRequest (ownCounts "a")).run MemoryStore.backend
        .epoch s = (.ok true, s) := by
  have hstored := get_updatedStore ⟨maxI64, by decide⟩
  have hid : Template.IsLiteral "a" := Template.isLiteral_of_not_mem (by decide)
  exact ⟨hstored, hid, matchRequest_ownCounts _ _ _ _ _ orderRequest _ _ hstored hid⟩

/-- One update later the context is still found, but its own counts do not match it any more. -/
theorem own_count_unreadable :
    let n : U64 := ⟨9223372036854775808, by decide⟩
    let s := updatedStore n
    (ContextStore.get "a").run MemoryStore.backend .epoch s = (.ok (some (updated n)), s) ∧
      Template.IsLiteral "a" ∧
      (({} : StateMatcher).matchRequest orderRequest (ownCounts "a")).run MemoryStore.backend
        .epoch s = (.error (.configuration (.invalidParameters ("invalid integer " ++
          "'9223372036854775808': number too large to fit in target type"))), s) := by
  have hstored := get_updatedStore ⟨9223372036854775808, by decide⟩
  have hid : Template.IsLiteral "a" := Template.isLiteral_of_not_mem (by decide)
  refine ⟨hstored, hid, ?_⟩
  rw [run_matchRequest_ownCounts hstored hid, conditionsHold_ownCounts hid]
  rfl

end StateMatcher

end KeyedState

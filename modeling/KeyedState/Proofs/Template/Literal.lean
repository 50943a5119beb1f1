import KeyedState.Proofs.Decimal.Numeral
import KeyedState.Proofs.Json.Spelled
import KeyedState.Proofs.KeyMap.InsertAll

/-!
# Templates without placeholders

A text in which no placeholder is complete is literal: it renders to itself, with whatever model
(`Template.IsLiteral.render_eq`). A configuration whose keys and texts are all literal is rendered
to itself but for the spelling of its scalars (`renderJson_of_literal`).
-/

namespace KeyedState

namespace Template

/-- No placeholder is complete in the text: behind an opening mark stands no closing one. -/
def IsLiteral (text : String) : Prop :=
  ∀ before inside after, text.toList ≠ before ++ opening ++ inside ++ closing ++ after

/-- A literal text is all one part. -/
theorem IsLiteral.parse_eq {text : String} (h : IsLiteral text) :
    parse text.toList = [.text text.toList] := by
  rw [parse]
  split
  · rfl
  · rename_i before after hopening
    split
    · rfl
    · rename_i inside rest hclosing
      refine absurd ?_ (h before inside rest)
      rw [append_of_cutAt? hopening, append_of_cutAt? hclosing]
      simp only [List.append_assoc]

theorem IsLiteral.render_eq {text : String} (h : IsLiteral text) (model : Json) :
    render model text = .ok text := by
  simp [render, h.parse_eq, renderPieces, renderPiece]

/-- A text without a brace that opens is literal. -/
theorem isLiteral_of_not_mem {text : String} (h : '\x7b' ∉ text.toList) : IsLiteral text := by
  intro before inside after heq
  exact h (heq ▸ by simp [opening])

/-- A text without a brace that closes is literal. -/
theorem isLiteral_of_not_mem_closing {text : String} (h : '\x7d' ∉ text.toList) :
    IsLiteral text := by
  intro before inside after heq
  exact h (heq ▸ by simp [closing])

theorem render_of_not_mem (text : String) (h : '\x7b' ∉ text.toList) (model : Json) :
    render model text = .ok text :=
  (isLiteral_of_not_mem h).render_eq model

end Template

theorem IsNumeral.ne_brace {c : Char} (h : IsNumeral c) : c ≠ '\x7b' := by
  rintro rfl
  revert h
  simp [IsNumeral]

/-! ## Configurations -/

namespace Json

mutual

/-- Every key and every text of a value, at any depth, has a property. -/
def AllTexts (P : String → Prop) : Json → Prop
  | .str s => P s
  | .array items => AllTextsItems P items
  | .object members => AllTextsMembers P members
  | _ => True

/-- The property holds of the keys and texts of every item. -/
def AllTextsItems (P : String → Prop) : List Json → Prop
  | [] => True
  | v :: vs => AllTexts P v ∧ AllTextsItems P vs

/-- The property holds of every key and of the keys and texts of its value. -/
def AllTextsMembers (P : String → Prop) : List (String × Json) → Prop
  | [] => True
  | (name, v) :: ms => P name ∧ AllTexts P v ∧ AllTextsMembers P ms

end

theorem AllTextsMembers.of_mem {P : String → Prop} {ms : List (String × Json)}
    (h : AllTextsMembers P ms) {name : String} {v : Json} (hm : (name, v) ∈ ms) :
    P name ∧ v.AllTexts P := by
  induction ms with
  | nil => cases hm
  | cons m ms ih =>
    obtain ⟨hname, hv, hms⟩ := h
    rcases List.mem_cons.1 hm with rfl | hm
    · exact ⟨hname, hv⟩
    · exact ih hms hm

end Json

namespace TemplateNode

theorem ofMembers_eq_filterMap (ms : List (String × Json)) :
    ofMembers ms = ms.filterMap fun m => (ofJson? m.2).map (m.1, ·) := by
  induction ms with
  | nil => rfl
  | cons m ms ih =>
    rw [ofMembers, List.filterMap_cons, ih]
    cases ofJson? m.2 <;> rfl

variable {P : String → Prop} {f : String → Except StateError String}

/-- The text of a scalar that is no text has no brace, so it is kept. -/
theorem render_numeral (hP : ∀ text : String, '\x7b' ∉ text.toList → P text)
    (hf : ∀ text, P text → f text = .ok text) {text : String}
    (h : ∀ c ∈ text.toList, IsNumeral c) : (leaf text).render f = .ok (leaf text) := by
  rw [render, hf text (hP text fun hc => (h _ hc).ne_brace rfl)]
  rfl

mutual

/-- A tree made of a value whose keys and texts are kept is kept. -/
theorem render_ofJson? (hP : ∀ text : String, '\x7b' ∉ text.toList → P text)
    (hf : ∀ text, P text → f text = .ok text) :
    ∀ v : Json, v.Ordered → v.AllTexts P → ∀ n, ofJson? v = some n → n.render f = .ok n
  | .null, _, _, n, hn => by cases hn
  | .str s, _, hs, n, hn => by
    cases hn
    rw [render, hf s hs]
    rfl
  | .bool b, _, _, n, hn => by
    cases hn
    rw [render, hf _ (hP _ (by cases b <;> decide))]
    rfl
  | .int k, _, _, n, hn => by
    cases hn
    exact render_numeral hP hf (isNumeral_toString_int k)
  | .real x, _, _, n, hn => by
    cases hn
    exact render_numeral hP hf (x.isNumeral_render Json.numbers)
  | .array items, hordered, htexts, n, hn => by
    cases hn
    rw [render, renderItems_ofItems hP hf items hordered htexts]
    rfl
  | .object members, hordered, htexts, n, hn => by
    cases hn
    have hentries : Entries.Ordered (ofMembers members) := by
      rw [ofMembers_eq_filterMap]
      exact hordered.1.filterMap _
    rw [render, renderEntries_ofMembers hP hf members hordered.2 htexts, map_ok,
      hentries.insertAll_nil]

theorem renderItems_ofItems (hP : ∀ text : String, '\x7b' ∉ text.toList → P text)
    (hf : ∀ text, P text → f text = .ok text) :
    ∀ vs : List Json, Json.OrderedItems vs → Json.AllTextsItems P vs →
      renderItems f (ofItems vs) = .ok (ofItems vs)
  | [], _, _ => rfl
  | v :: vs, hordered, htexts => by
    have hrest := renderItems_ofItems hP hf vs hordered.2 htexts.2
    rw [ofItems]
    split
    · exact hrest
    · rename_i n hn
      have hhead := render_ofJson? hP hf v hordered.1 htexts.1 n hn
      simp [renderItems, hhead, hrest]

theorem renderEntries_ofMembers (hP : ∀ text : String, '\x7b' ∉ text.toList → P text)
    (hf : ∀ text, P text → f text = .ok text) :
    ∀ ms : List (String × Json), Json.OrderedMembers ms → Json.AllTextsMembers P ms →
      renderEntries f (ofMembers ms) = .ok (ofMembers ms)
  | [], _, _ => rfl
  | (name, v) :: ms, hordered, htexts => by
    have hrest := renderEntries_ofMembers hP hf ms hordered.2 htexts.2.2
    rw [ofMembers]
    split
    · exact hrest
    · rename_i n hn
      have hkey := hf name htexts.1
      have hvalue := render_ofJson? hP hf v hordered.1 htexts.2.1 n hn
      simp [renderEntries, hkey, hvalue, hrest]

end

end TemplateNode

/-- **A configuration without placeholders is rendered to itself**, but that its scalars are spelled
as texts and its nulls are left out of collections. -/
theorem renderJson_of_literal {config : Json} (hordered : config.Ordered)
    (hliteral : config.AllTexts Template.IsLiteral) (model : Json) :
    renderJson Template.render model config = .ok (config.spelled?.getD .null) := by
  rw [renderJson, ← TemplateNode.map_toJson_ofJson?]
  cases htree : TemplateNode.ofJson? config with
  | none => rfl
  | some tree =>
    have hkept := TemplateNode.render_ofJson? (fun _ => Template.isLiteral_of_not_mem)
      (fun _ h => h.render_eq model) config hordered hliteral tree htree
    simp [hkept]

end KeyedState

import KeyedState.Proofs.Decimal.Numeral
import KeyedState.Proofs.Template.Models

/-!
# Placeholders for paths

The steps of a path are read one by one from what stands between its dots
(`Path.parse_intercalate`), and a placeholder is cut out of a template at the first marks
(`Template.parse_placeholder`), so text around it does not matter.

A path can be written into a template if its names are such that they are read as one step each
(`IsPathName`). It is then read back as it was written (`Path.parse_written`), and the template of
one placeholder renders to the text of the value that the path leads to
(`Template.render_placeholder`).
-/

namespace KeyedState

/-- A name that stands for one step of a path wherever the path is written: it has no dot, no brace
that closes and no blank, and it is not in square brackets. -/
structure IsPathName (name : String) : Prop where
  ne_empty : name ≠ ""
  no_dot : '.' ∉ name.toList
  no_brace : '\x7d' ∉ name.toList
  not_blank : ∀ c ∈ name.toList, isBlank c = false
  not_bracketed : ∀ inner, name.toList ≠ '[' :: inner ++ [']']

theorem isBlank_of_isAlpha {c : Char} (h : c.isAlpha = true) : isBlank c = false := by
  have hbounds : 65 ≤ c.toNat ∧ c.toNat ≤ 122 := by
    rcases Bool.or_eq_true_iff.1 h with hupper | hlower
    · obtain ⟨hlow, hhigh⟩ := of_decide_eq_true hupper
      exact ⟨hlow, Nat.le_trans hhigh (by decide)⟩
    · obtain ⟨hlow, hhigh⟩ := Bool.and_eq_true_iff.1 hlower
      exact ⟨Nat.le_trans (by decide) (of_decide_eq_true hlow), of_decide_eq_true hhigh⟩
  simp [isBlank]
  omega

/-- A word of letters is one. -/
theorem isPathName_of_letters {name : String} (hne : name ≠ "")
    (h : name.toList.all Char.isAlpha = true) : IsPathName name := by
  have hletter : ∀ c ∈ name.toList, c.isAlpha = true := by simpa using h
  refine ⟨hne, fun hc => ?_, fun hc => ?_, fun c hc => isBlank_of_isAlpha (hletter c hc),
    fun inner hinner => ?_⟩
  · exact absurd (hletter _ hc) (by decide)
  · exact absurd (hletter _ hc) (by decide)
  · have hbracket : '[' ∈ name.toList := hinner ▸ List.mem_cons_self
    exact absurd (hletter _ hbracket) (by decide)

namespace Segment

theorem bracketed?_eq_some_iff {cs inner : List Char} :
    bracketed? cs = some inner ↔ cs = '[' :: inner ++ [']'] := by
  constructor
  · intro h
    rw [bracketed?.eq_def] at h
    split at h
    · rename_i cs
      split at h
      · rename_i hlast
        obtain ⟨ds, rfl⟩ := List.getLast?_eq_some_iff.1 hlast
        cases h
        simp
      · cases h
    · cases h
  · rintro rfl
    simp [bracketed?]

/-- A step as it is written in a path. -/
def written : Segment → List Char
  | .key name => name.toList
  | .index n => '[' :: Nat.toDigits 10 n ++ [']']

/-- The step can be written: its name is one of a path, or its index has 64 bits. -/
def IsWritable : Segment → Prop
  | .key name => IsPathName name
  | .index n => n ≤ maxU64

/-- A character that neither ends a step nor a placeholder, and is not trimmed. -/
def IsPlain (c : Char) : Prop := c ≠ '.' ∧ c ≠ '\x7d' ∧ isBlank c = false

variable {s : Segment}

theorem IsWritable.ne_nil (h : s.IsWritable) : s.written ≠ [] := by
  cases s with
  | key name => simpa [written] using h.ne_empty
  | index n => simp [written]

theorem IsWritable.isPlain (h : s.IsWritable) : ∀ c ∈ s.written, IsPlain c := by
  cases s with
  | key name =>
    intro c hc
    refine ⟨?_, ?_, h.not_blank c hc⟩
    · rintro rfl
      exact h.no_dot hc
    · rintro rfl
      exact h.no_brace hc
  | index n =>
    have hdigits : ∀ c ∈ Nat.toDigits 10 n, IsPlain c := by
      intro c hc
      have hdigit := Integer.isDigit_of_mem_toDigits c hc
      refine ⟨?_, ?_, (isNumeral_of_mem_toDigits c hc).not_blank⟩
      · rintro rfl
        cases hdigit
      · rintro rfl
        cases hdigit
    have hopen : IsPlain '[' := by unfold IsPlain; decide
    have hclose : IsPlain ']' := by unfold IsPlain; decide
    exact List.forall_mem_append.2
      ⟨List.forall_mem_cons.2 ⟨hopen, hdigits⟩, List.forall_mem_singleton.2 hclose⟩

/-- Text that is not in brackets is read as a name. -/
theorem parse_of_bracketed?_eq_none {cs : List Char} (hne : cs ≠ []) (h : bracketed? cs = none)
    (path : String) : parse path cs = .ok (.key (String.ofList cs)) := by
  simp [parse, hne, h]

/-- Brackets around the spelling of an index are read as that index. -/
theorem parse_of_bracketed? {cs inner : List Char} (h : bracketed? cs = some inner) {n : U64}
    (hn : readU64 (String.ofList inner) = .ok n) (path : String) :
    parse path cs = .ok (.index n.val) := by
  have hne : cs ≠ [] := by
    rintro rfl
    cases h
  simp [parse, hne, h, hn]

/-- A step is read as it was written. -/
theorem IsWritable.parse_written (h : s.IsWritable) (path : String) :
    parse path s.written = .ok s := by
  cases s with
  | key name =>
    have hbracketed : bracketed? name.toList = none :=
      Option.eq_none_iff_forall_ne_some.2 fun inner hinner =>
        h.not_bracketed inner (bracketed?_eq_some_iff.1 hinner)
    simpa [written] using parse_of_bracketed?_eq_none h.ne_nil hbracketed path
  | index n =>
    have hread := readU64_toString ⟨n, Nat.lt_succ_of_le h⟩
    rw [Nat.toString_eq_ofList_toDigits] at hread
    exact parse_of_bracketed? (bracketed?_eq_some_iff.2 rfl) hread path

end Segment

namespace Path

variable {texts : List (List Char)}

/-- Every character between the texts of the steps is a dot. -/
theorem mem_intercalate {c : Char} (h : c ∈ ['.'].intercalate texts) :
    c = '.' ∨ ∃ text ∈ texts, c ∈ text := by
  induction texts with
  | nil => simp at h
  | cons t ts ih =>
    cases ts with
    | nil => exact .inr ⟨t, List.mem_cons_self, by simpa using h⟩
    | cons u us =>
      have h' : c ∈ t ∨ c = '.' ∨ c ∈ ['.'].intercalate (u :: us) := by
        simpa [List.intercalate_cons_cons] using h
      rcases h' with h' | h' | h'
      · exact .inr ⟨t, List.mem_cons_self, h'⟩
      · exact .inl h'
      · exact (ih h').imp_right fun ⟨text, htext, hc⟩ => ⟨text, List.mem_cons_of_mem _ htext, hc⟩

variable (hplain : ∀ text ∈ texts, ∀ c ∈ text, Segment.IsPlain c)

include hplain in
theorem not_blank_intercalate : ∀ c ∈ ['.'].intercalate texts, isBlank c = false := by
  intro c hc
  rcases mem_intercalate hc with rfl | ⟨text, htext, hc⟩
  · decide
  · exact (hplain text htext c hc).2.2

include hplain in
theorem brace_not_mem_intercalate : '\x7d' ∉ ['.'].intercalate texts := by
  intro hc
  rcases mem_intercalate hc with hdot | ⟨text, htext, hc⟩
  · cases hdot
  · exact (hplain text htext _ hc).2.1 rfl

include hplain in
/-- A path is read step by step from what stands between the dots. -/
theorem parse_intercalate (hne : texts ≠ []) (hempty : ∀ text ∈ texts, text ≠ [])
    {path : List Segment}
    (hread : ∀ whole, List.Forall₂ (fun text s => Segment.parse whole text = .ok s) texts path) :
    parse (['.'].intercalate texts) = .ok path := by
  have hblank : (['.'].intercalate texts).any isBlank = false := by
    rw [List.any_eq_false]
    intro c hc
    simp [not_blank_intercalate hplain c hc]
  have hnil : (['.'].intercalate texts).isEmpty = false := by
    obtain ⟨t, ts, rfl⟩ := List.exists_cons_of_ne_nil hne
    have ht := hempty t List.mem_cons_self
    cases ts <;> simp [List.intercalate_cons_cons, ht]
  have hpieces : pieces '.' (['.'].intercalate texts) = texts := by
    rw [pieces_eq_splitOn]
    exact List.splitOn_intercalate '.' (fun text htext hdot => (hplain text htext _ hdot).1 rfl) hne
  unfold parse
  simp only [hnil, hblank, hpieces, mapM_eq_ok_iff.2 (hread _)]
  rfl

/-- A path as it is written in a placeholder. -/
def written (path : List Segment) : List Char := ['.'].intercalate (path.map Segment.written)

variable {path : List Segment}

theorem isPlain_of_mem_written (h : ∀ s ∈ path, s.IsWritable) :
    ∀ text ∈ path.map Segment.written, ∀ c ∈ text, Segment.IsPlain c := by
  intro text htext
  obtain ⟨s, hs, rfl⟩ := List.mem_map.1 htext
  exact (h s hs).isPlain

/-- A path is read back as it was written. -/
theorem parse_written (hne : path ≠ []) (h : ∀ s ∈ path, s.IsWritable) :
    parse (written path) = .ok path := by
  refine parse_intercalate (isPlain_of_mem_written h) (by simpa using hne) ?_ fun whole => ?_
  · intro text htext
    obtain ⟨s, hs, rfl⟩ := List.mem_map.1 htext
    exact (h s hs).ne_nil
  · exact List.forall₂_map_left_iff.2 (List.forall₂_same.2 fun s hs => (h s hs).parse_written whole)

end Path

/-- A text is cut at a doubled character where the character first stands twice, if the text before
neither has it twice nor ends with it. -/
theorem cutAt?_doubled {c : Char} {before : List Char} (htwice : ¬ [c, c] <:+: before)
    (hlast : before.getLast? ≠ some c) (rest : List Char) :
    cutAt? [c, c] (before ++ ([c, c] ++ rest)) = some (before, rest) := by
  induction before with
  | nil => simp [cutAt?]
  | cons d ds ih =>
    have hmark : List.isPrefixOf [c, c] (d :: (ds ++ ([c, c] ++ rest))) = false := by
      rw [Bool.eq_false_iff, ne_eq, List.isPrefixOf_iff_prefix]
      intro hpre
      cases ds with
      | nil =>
        obtain rfl : c = d := (List.cons_prefix_cons.1 hpre).1
        exact hlast rfl
      | cons e es =>
        obtain ⟨rfl, hrest⟩ := List.cons_prefix_cons.1 hpre
        obtain rfl := (List.cons_prefix_cons.1 hrest).1
        exact htwice ⟨[], es, rfl⟩
    have htail := ih (fun h => htwice (List.infix_cons h)) fun h => by
      cases ds with
      | nil => cases h
      | cons e es => exact hlast h
    rw [List.cons_append, cutAt?, hmark, htail]
    rfl

/-- A character that does not stand in a text does not stand in it twice, nor at its end. -/
theorem cutAt?_of_not_mem {c : Char} {before : List Char} (h : c ∉ before) (rest : List Char) :
    cutAt? [c, c] (before ++ ([c, c] ++ rest)) = some (before, rest) :=
  cutAt?_doubled (fun htwice => h (htwice.subset List.mem_cons_self))
    (fun hlast => h (List.mem_of_getLast? hlast)) rest

namespace Template

/-- A template without an opening mark is one text. -/
theorem parse_of_cutAt?_eq_none {cs : List Char} (h : cutAt? opening cs = none) :
    Template.parse cs = [.text cs] := by
  rw [Template.parse]
  split
  · rfl
  · rename_i hcut
    rw [h] at hcut
    cases hcut

/-- The first placeholder of a template is cut out, and the rest is read in the same way: the text
before it ends where the first opening mark begins, and it ends itself at the next closing mark. -/
theorem parse_placeholder {before inside : List Char} (htwice : ¬ opening <:+: before)
    (hlast : before.getLast? ≠ some '\x7b') (hinside : '\x7d' ∉ inside) (rest : List Char) :
    Template.parse (before ++ (opening ++ (inside ++ (closing ++ rest)))) =
      .text before :: .placeholder inside :: Template.parse rest := by
  have hopening := cutAt?_doubled htwice hlast (inside ++ (closing ++ rest))
  have hclosing := cutAt?_of_not_mem hinside rest
  rw [Template.parse]
  split
  · rename_i hcut
    cases hcut.symm.trans hopening
  · rename_i hcut
    cases hcut.symm.trans hopening
    split
    · rename_i hcut
      cases hcut.symm.trans hclosing
    · rename_i hcut
      cases hcut.symm.trans hclosing
      rfl

/-- The template that consists of one placeholder for a path. -/
def placeholder (path : List Segment) : String :=
  String.ofList (opening ++ Path.written path ++ closing)

theorem toList_placeholder (path : List Segment) :
    (placeholder path).toList = opening ++ Path.written path ++ closing :=
  String.toList_ofList

/-- **A placeholder renders to the text of what its path leads to**, and to no text if that is
nothing. -/
theorem render_placeholder {path : List Segment} (hne : path ≠ [])
    (h : ∀ s ∈ path, s.IsWritable) (model : Json) :
    render model (placeholder path) =
      .ok (((Path.follow path model).map insertion).getD "") := by
  have hplain := Path.isPlain_of_mem_written h
  have hparse : Template.parse (placeholder path).toList =
      [.text [], .placeholder (Path.written path), .text []] := by
    have htwice : ¬ opening <:+: [] := by simp [opening]
    have hlast : ([] : List Char).getLast? ≠ some '\x7b' := by simp
    have hcut := parse_placeholder htwice hlast (Path.brace_not_mem_intercalate hplain) []
    have hend : Template.parse [] = [.text []] := parse_of_cutAt?_eq_none rfl
    rw [hend] at hcut
    rw [toList_placeholder]
    simpa [Path.written] using hcut
  have hblank := trimBlankChars_of_forall (Path.not_blank_intercalate hplain)
  rw [render, hparse]
  simp only [renderPieces, renderPiece]
  rw [Path.written, hblank, ← Path.written, Path.parse_written hne h]
  simp

end Template

end KeyedState

import KeyedState.Proofs.Template.Literal
import KeyedState.Proofs.Template.Placeholder

/-!
# Templates put together

A template that is put together from texts and placeholders renders to the texts and, in the places
of the placeholders, the texts of the values that the paths lead to (`Template.render_composed`).
Where a path leads is said here segment by segment of the written path (`Json.Leads`), without the
steps that its segments are read as.
-/

namespace KeyedState

/-! ## Where a path leads -/

/-- A segment in square brackets. -/
def inBrackets (inner : String) : String := "[" ++ inner ++ "]"

theorem toList_inBrackets (inner : String) :
    (inBrackets inner).toList = '[' :: inner.toList ++ [']'] := by
  simp [inBrackets]

/-- A segment is an index into an array: it spells it, in square brackets or not. -/
def IsIndex (segment : String) (n : U64) : Prop :=
  Integer.Spells segment n.val ∨ ∃ inner, segment = inBrackets inner ∧ Integer.Spells inner n.val

namespace Json

/-- A segment leads from a value to one inside it: a name to the member of an object, and an index
to the item of an array. What is in square brackets is never the name of a member. -/
def LeadsOn (segment : String) (u v : Json) : Prop :=
  match u with
  | .object members =>
    (∀ inner, segment ≠ inBrackets inner) ∧ Entries.get? segment members = some v
  | .array items => ∃ n, IsIndex segment n ∧ items[n.val]? = some v
  | _ => False

/-- Segments lead one after the other from a value to one inside it. -/
def Leads : List String → Json → Json → Prop
  | [], u, w => u = w
  | segment :: segments, u, w => ∃ v, LeadsOn segment u v ∧ Leads segments v w

/-- The text by which a value takes its place: none for null, a text for itself, a number or truth
value as it is displayed, and a collection in compact form. -/
inductive HasText : Json → String → Prop where
  | null : HasText .null ""
  | scalar {v : Json} {text : String} (h : v.scalarText? = some text) : HasText v text
  | array (items : List Json) : HasText (.array items) (Json.array items).compact
  | object (members : List (String × Json)) :
    HasText (.object members) (Json.object members).compact

/-- The text that a path shows of a model: that of the value it leads to, or none if it leads to
nothing. -/
def Shows (path : List String) (model : Json) (text : String) : Prop :=
  (∃ v, Leads path model v ∧ HasText v text) ∨ (∀ v, ¬ Leads path model v) ∧ text = ""

theorem hasText_iff {v : Json} {text : String} : HasText v text ↔ Template.insertion v = text := by
  constructor
  · intro h
    cases h with
    | null => rfl
    | array items => rfl
    | object members => rfl
    | scalar h =>
      cases v with
      | null => cases h
      | array items => cases h
      | object members => cases h
      | _ => exact Option.some.inj h
  · rintro rfl
    cases v with
    | null => exact .null
    | array items => exact .array items
    | object members => exact .object members
    | _ => exact .scalar rfl

end Json

/-! ## Reading the segments of a path -/

/-- A text that stands for one segment of a path wherever the path is written: it is not empty and
has no dot, no brace that closes and no blank, and if it is in square brackets, these hold an
index. -/
structure IsSegment (text : String) : Prop where
  ne_empty : text ≠ ""
  no_dot : '.' ∉ text.toList
  no_brace : '\x7d' ∉ text.toList
  not_blank : ∀ c ∈ text.toList, isBlank c = false
  index : ∀ inner, text = inBrackets inner → ∃ n : U64, Integer.Spells inner n.val

theorem IsSegment.isPlain {text : String} (h : IsSegment text) :
    ∀ c ∈ text.toList, Segment.IsPlain c := by
  intro c hc
  refine ⟨?_, ?_, h.not_blank c hc⟩
  · rintro rfl
    exact h.no_dot hc
  · rintro rfl
    exact h.no_brace hc

theorem IsPathName.ne_inBrackets {name : String} (h : IsPathName name) (inner : String) :
    name ≠ inBrackets inner := fun hinner =>
  h.not_bracketed inner.toList (hinner ▸ toList_inBrackets inner)

/-- A name that can be written into a path is a segment. -/
theorem IsPathName.isSegment {name : String} (h : IsPathName name) : IsSegment name :=
  ⟨h.ne_empty, h.no_dot, h.no_brace, h.not_blank, fun inner hinner =>
    absurd hinner (h.ne_inBrackets inner)⟩

/-- A bracket begins no number. -/
theorem Integer.Spells.ne_inBrackets {text : String} {n : Nat} (h : Integer.Spells text n)
    (inner : String) : text ≠ inBrackets inner := by
  rintro rfl
  obtain ⟨cs, ds, hcs, -, hds, -⟩ := h
  rw [toList_inBrackets] at hcs
  rcases hcs with rfl | hcs
  · cases hds
  · cases hcs

theorem inBrackets_injective {inner inner' : String} (h : inBrackets inner = inBrackets inner') :
    inner = inner' := by
  have hlist := congrArg String.toList h
  rw [toList_inBrackets, toList_inBrackets] at hlist
  simpa [String.toList_inj] using hlist

theorem isIndex_of_not_inBrackets {text : String} (h : ∀ inner, text ≠ inBrackets inner) {n : U64} :
    IsIndex text n ↔ readU64 text = .ok n := by
  rw [readU64_eq_ok_iff, IsIndex, or_iff_left]
  rintro ⟨inner, hinner, -⟩
  exact h inner hinner

theorem isIndex_inBrackets {inner : String} {n : U64} :
    IsIndex (inBrackets inner) n ↔ readU64 inner = .ok n := by
  rw [readU64_eq_ok_iff, IsIndex, or_iff_right fun h => h.ne_inBrackets inner rfl]
  constructor
  · rintro ⟨inner', hinner, hn⟩
    exact inBrackets_injective hinner ▸ hn
  · intro hn
    exact ⟨inner, rfl, hn⟩

/-- A segment is read as a step that follows where the segment leads. -/
theorem IsSegment.exists_parse {text : String} (h : IsSegment text) :
    ∃ s : Segment, (∀ path, Segment.parse path text.toList = .ok s) ∧
      ∀ u v, s.follow u = some v ↔ Json.LeadsOn text u v := by
  by_cases hbrackets : ∃ inner, text = inBrackets inner
  · obtain ⟨inner, rfl⟩ := hbrackets
    obtain ⟨n, hn⟩ := h.index inner rfl
    have hread : readU64 (String.ofList inner.toList) = .ok n := by
      rw [String.ofList_toList]
      exact readU64_eq_ok_iff.2 hn
    have hbracketed : Segment.bracketed? (inBrackets inner).toList = some inner.toList :=
      Segment.bracketed?_eq_some_iff.2 (toList_inBrackets inner)
    refine ⟨.index n.val, Segment.parse_of_bracketed? hbracketed hread, fun u v => ?_⟩
    cases u with
    | object members => exact iff_of_false (fun hv => by cases hv) fun hv => hv.1 inner rfl
    | array items =>
      rw [Json.LeadsOn, Segment.follow]
      simp only [isIndex_inBrackets, readU64_eq_ok_iff.2 hn, Except.ok.injEq, exists_eq_left']
    | _ => exact iff_of_false (fun hv => by cases hv) id
  · have hplain : ∀ inner, text ≠ inBrackets inner := fun inner hinner =>
      hbrackets ⟨inner, hinner⟩
    have hbracketed : Segment.bracketed? text.toList = none := by
      refine Option.eq_none_iff_forall_ne_some.2 fun inner hinner => ?_
      refine hplain (String.ofList inner) (String.toList_inj.1 ?_)
      rw [toList_inBrackets, String.toList_ofList, Segment.bracketed?_eq_some_iff.1 hinner]
    have hparse := Segment.parse_of_bracketed?_eq_none (by simpa using h.ne_empty) hbracketed
    rw [String.ofList_toList] at hparse
    refine ⟨.key text, hparse, fun u v => ?_⟩
    cases u with
    | object members => exact (and_iff_right hplain).symm
    | array items =>
      simp only [Json.LeadsOn, isIndex_of_not_inBrackets hplain, Segment.follow]
      cases readU64 text with
      | error e => simp
      | ok n => simp
    | _ => exact iff_of_false (fun hv => by cases hv) id

/-- Segments are read as a path that follows where the segments lead. -/
theorem exists_path {segments : List String} (h : ∀ s ∈ segments, IsSegment s) :
    ∃ path : List Segment,
      (∀ whole, List.Forall₂ (fun text s => Segment.parse whole text = .ok s)
        (segments.map String.toList) path) ∧
      ∀ u w, Path.follow path u = some w ↔ Json.Leads segments u w := by
  induction segments with
  | nil => exact ⟨[], fun _ => .nil, fun u w => Option.some_inj⟩
  | cons segment segments ih =>
    obtain ⟨hsegment, hsegments⟩ := List.forall_mem_cons.1 h
    obtain ⟨s, hparse, hfollow⟩ := hsegment.exists_parse
    obtain ⟨path, hpath, hrest⟩ := ih hsegments
    refine ⟨s :: path, fun whole => .cons (hparse whole) (hpath whole), fun u w => ?_⟩
    simp only [Path.follow, Option.bind_eq_some_iff, hfollow, hrest, Json.Leads]

namespace Template

/-! ## Texts and placeholders -/

/-- A text with a placeholder behind it. Blanks stand around the path of the placeholder. -/
structure Part where
  /-- The text before the placeholder. -/
  before : String
  /-- The blanks before the path. -/
  left : String
  /-- The segments of the path. -/
  path : List String
  /-- The blanks behind the path. -/
  right : String

namespace Part

/-- What stands between the marks of the placeholder. -/
def inside (p : Part) : String := p.left ++ ".".intercalate p.path ++ p.right

/-- The part as it is written. -/
def source (p : Part) : String := p.before ++ "\x7b\x7b" ++ p.inside ++ "\x7d\x7d"

/-- A part that is read as it was written: its text has no opening mark and does not end with half
of one, and the path of its placeholder has segments. -/
structure WellFormed (p : Part) : Prop where
  no_opening : ¬ opening <:+: p.before.toList
  not_half_open : p.before.toList.getLast? ≠ some '\x7b'
  left_blank : ∀ c ∈ p.left.toList, isBlank c = true
  path_ne_nil : p.path ≠ []
  isSegment : ∀ segment ∈ p.path, IsSegment segment
  right_blank : ∀ c ∈ p.right.toList, isBlank c = true

variable {p : Part}

theorem toList_inside (p : Part) :
    p.inside.toList =
      p.left.toList ++ (['.'].intercalate (p.path.map String.toList) ++ p.right.toList) := by
  simp [inside, String.toList_intercalate]

theorem WellFormed.isPlain (h : p.WellFormed) :
    ∀ text ∈ p.path.map String.toList, ∀ c ∈ text, Segment.IsPlain c := by
  intro text htext
  obtain ⟨segment, hsegment, rfl⟩ := List.mem_map.1 htext
  exact (h.isSegment segment hsegment).isPlain

theorem WellFormed.brace_not_mem_inside (h : p.WellFormed) : '\x7d' ∉ p.inside.toList := by
  rw [toList_inside, List.mem_append, List.mem_append]
  rintro (hc | hc | hc)
  · cases h.left_blank _ hc
  · exact Path.brace_not_mem_intercalate h.isPlain hc
  · cases h.right_blank _ hc

/-- A placeholder is rendered to what its path shows of the model. -/
theorem WellFormed.renderPiece_eq (h : p.WellFormed) {model : Json} {text : String}
    (htext : Json.Shows p.path model text) :
    renderPiece model (.placeholder p.inside.toList) = .ok text := by
  obtain ⟨path, hread, hfollow⟩ := exists_path h.isSegment
  have htrim : trimBlankChars p.inside.toList = ['.'].intercalate (p.path.map String.toList) := by
    rw [toList_inside]
    exact trimBlankChars_append h.left_blank h.right_blank (Path.not_blank_intercalate h.isPlain)
  have hparse : Path.parse (['.'].intercalate (p.path.map String.toList)) = .ok path := by
    refine Path.parse_intercalate h.isPlain (by simpa using h.path_ne_nil) ?_ hread
    intro text htext
    obtain ⟨segment, hsegment, rfl⟩ := List.mem_map.1 htext
    simpa using (h.isSegment segment hsegment).ne_empty
  rw [renderPiece, htrim, hparse, ok_bind, pure_eq_ok]
  rcases htext with ⟨v, hv, htext⟩ | ⟨hnone, rfl⟩
  · rw [(hfollow model v).2 hv, ← Json.hasText_iff.1 htext]
    rfl
  · have hpath : Path.follow path model = none :=
      Option.eq_none_iff_forall_ne_some.2 fun v hv => hnone v ((hfollow model v).1 hv)
    rw [hpath]
    rfl

end Part

/-- The template that is written part by part, with a text behind the last part. -/
def composed (parts : List Part) (last : String) : String :=
  String.join (parts.map Part.source) ++ last

/-- The texts of the parts with a text in the place of each placeholder, and the text behind the
last part. -/
def woven (parts : List Part) (texts : List String) (last : String) : String :=
  String.join (List.zipWith (fun p text => p.before ++ text) parts texts) ++ last

theorem woven_cons (p : Part) (ps : List Part) (text : String) (texts : List String)
    (last : String) :
    woven (p :: ps) (text :: texts) last = p.before ++ (text ++ woven ps texts last) := by
  simp [woven, ← String.toList_inj]

/-- The first part of a composed template is read as it was written, and the rest likewise. -/
theorem parse_composed_cons {p : Part} (h : p.WellFormed) (ps : List Part) (last : String) :
    parse (composed (p :: ps) last).toList =
      .text p.before.toList :: .placeholder p.inside.toList :: parse (composed ps last).toList := by
  have hcut := parse_placeholder h.no_opening h.not_half_open h.brace_not_mem_inside
    (composed ps last).toList
  rw [← hcut]
  simp [composed, Part.source, opening, closing]

theorem renderPieces_composed {model : Json} {parts : List Part} {texts : List String}
    {last : String} (htexts : List.Forall₂ (fun p text => Json.Shows p.path model text) parts texts)
    (hparts : ∀ p ∈ parts, p.WellFormed) (hlast : IsLiteral last) :
    renderPieces model (parse (composed parts last).toList) = .ok (woven parts texts last) := by
  induction htexts with
  | nil => simp [composed, woven, hlast.parse_eq, renderPieces, renderPiece]
  | @cons p text ps texts htext _ ih =>
    obtain ⟨hp, hps⟩ := List.forall_mem_cons.1 hparts
    rw [parse_composed_cons hp, renderPieces, renderPieces, hp.renderPiece_eq htext, ih hps,
      woven_cons]
    simp [renderPiece]

/-- Every path shows some text of every model. -/
theorem exists_shows (path : List String) (model : Json) : ∃ text, Json.Shows path model text := by
  by_cases hv : ∃ v, Json.Leads path model v
  · obtain ⟨v, hv⟩ := hv
    exact ⟨_, .inl ⟨v, hv, Json.hasText_iff.2 rfl⟩⟩
  · exact ⟨"", .inr ⟨fun v hleads => hv ⟨v, hleads⟩, rfl⟩⟩

/-- **Templates are rendered part by part.** In a template that is put together from texts and
placeholders for paths, each placeholder gives way to the text that its path shows of the model, and
all else stays as it is: what is put in may have marks of its own, it is not read again. -/
theorem render_composed (model : Json) (parts : List Part) (last : String)
    (hparts : ∀ p ∈ parts, p.WellFormed) (hlast : IsLiteral last) :
    (∃ texts, List.Forall₂ (fun p text => Json.Shows p.path model text) parts texts) ∧
      ∀ texts, List.Forall₂ (fun p text => Json.Shows p.path model text) parts texts →
        render model (composed parts last) = .ok (woven parts texts last) := by
  constructor
  · choose shown hshown using fun p : Part => exists_shows p.path model
    exact ⟨parts.map shown, List.forall₂_map_right_iff.2 (List.forall₂_same.2 fun p _ => hshown p)⟩
  · intro texts htexts
    rw [render, renderPieces_composed htexts hparts hlast]

/-- A text that looks like the end of one placeholder and another one. -/
def oddText : String := "\x7d\x7d\x7b\x7brequest\x7d\x7d"

/-- A request with such a text, and with a member whose name looks like an index. -/
def oddRequest : Json :=
  .object
    [("request", .object [("[0]", .str "never"), ("items", .array [.str oddText, .null])])]

/-- Placeholders close to each other and to braces: for an item, for what is in brackets but no
item, and for all items. -/
def oddParts : List Part :=
  [⟨"\x7d\x7d \x7b ", "\t ", ["request", "items", "[+0]"], ""⟩,
   ⟨"", "", ["request", "[0]"], "\n"⟩,
   ⟨"\x7d", "", ["request", "items"], ""⟩]

/-- The odd parts are rendered one by one, and the mark behind them that is never closed is kept. -/
theorem render_oddParts :
    (∀ p ∈ oddParts, p.WellFormed) ∧ IsLiteral "\x7b\x7b open \x7d" ∧
      render oddRequest (composed oddParts "\x7b\x7b open \x7d") =
        .ok ("\x7d\x7d \x7b " ++ oddText ++ "\x7d[\"" ++ oddText ++
          "\",null]\x7b\x7b open \x7d") := by
  have hrequest : IsPathName "request" := isPathName_of_letters (by decide) (by decide)
  have hitems : IsPathName "items" := isPathName_of_letters (by decide) (by decide)
  have hplus : Integer.Spells "+0" U64.zero.val := readU64_eq_ok_iff.1 rfl
  have hfirst : IsSegment (inBrackets "+0") :=
    ⟨by decide, by decide, by decide, by simp [toList_inBrackets, isBlank], fun _ h =>
      ⟨_, inBrackets_injective h ▸ hplus⟩⟩
  have hzero : IsSegment (inBrackets "0") :=
    ⟨by decide, by decide, by decide, by simp [toList_inBrackets, isBlank], fun _ h =>
      ⟨.zero, inBrackets_injective h ▸ Integer.spells_toString 0⟩⟩
  have hparts : ∀ p ∈ oddParts, p.WellFormed := by
    have hblank : ∀ p ∈ oddParts, (∀ c ∈ p.left.toList, isBlank c = true) ∧
        ∀ c ∈ p.right.toList, isBlank c = true := by
      simp [oddParts, isBlank]
    have htext : ∀ p ∈ oddParts, ¬ opening <:+: p.before.toList ∧
        p.before.toList.getLast? ≠ some '\x7b' ∧ p.path ≠ [] := by
      decide
    have hpath : ∀ p ∈ oddParts, ∀ segment ∈ p.path, IsSegment segment := by
      simp only [oddParts, List.forall_mem_cons]
      exact ⟨⟨hrequest.isSegment, hitems.isSegment, hfirst, List.forall_mem_nil _⟩,
        ⟨hrequest.isSegment, hzero, List.forall_mem_nil _⟩,
        ⟨hrequest.isSegment, hitems.isSegment, List.forall_mem_nil _⟩, List.forall_mem_nil _⟩
    exact fun p hp => ⟨(htext p hp).1, (htext p hp).2.1, (hblank p hp).1, (htext p hp).2.2,
      hpath p hp, (hblank p hp).2⟩
  have hlast : IsLiteral "\x7b\x7b open \x7d" := by
    intro before inside after heq
    have hcount := congrArg (List.count '\x7d') heq
    simp [opening, closing] at hcount
    omega
  have hall : Json.Leads ["request", "items"] oddRequest (.array [.str oddText, .null]) :=
    ⟨_, ⟨hrequest.ne_inBrackets, rfl⟩, _, ⟨hitems.ne_inBrackets, rfl⟩, rfl⟩
  have hitem : Json.Leads ["request", "items", "[+0]"] oddRequest (.str oddText) :=
    ⟨_, ⟨hrequest.ne_inBrackets, rfl⟩, _, ⟨hitems.ne_inBrackets, rfl⟩, _,
      ⟨_, .inr ⟨_, rfl, hplus⟩, rfl⟩, rfl⟩
  have hnothing : ∀ v, ¬ Json.Leads ["request", "[0]"] oddRequest v := by
    rintro v ⟨_, ⟨-, hrequest⟩, _, hbrackets, -⟩
    cases hrequest
    exact hbrackets.1 "0" rfl
  refine ⟨hparts, hlast, ?_⟩
  exact (render_composed oddRequest oddParts _ hparts hlast).2
    [oddText, "", "[\"" ++ oddText ++ "\",null]"]
    (.cons (.inl ⟨_, hitem, .scalar rfl⟩) (.cons (.inr ⟨hnothing, rfl⟩)
      (.cons (.inl ⟨_, hall, .array _⟩) .nil)))

end Template

end KeyedState

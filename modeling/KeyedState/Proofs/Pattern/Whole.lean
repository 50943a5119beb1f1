import KeyedState.Pattern.Basic
import KeyedState.Proofs.Regex.Wrapping
import KeyedState.Proofs.Storage.Live
import KeyedState.Proofs.Store.Alone

/-!
# Compiled patterns and whole texts

A pattern is compiled with the conditions for the start and the end of the text around it, and these
are put around its text. For a pattern that closes no group but its own this comes to the same as
putting them around what the pattern denotes: compiled, it accepts the texts that it matches as a
whole, and what cannot be read alone is not compiled (`WholePattern.compiled_for_whole_texts`).

It does not for all patterns. One that closes the parenthesis in front of it moves the two
conditions apart, into different alternatives, and one that ends in a comment loses what is put
behind it (`WholePattern.compiled_beyond_parenthesis`).
-/

namespace KeyedState

namespace Regex

/-- A pattern is a regular expression by itself and matches a text from its first to its last
character. -/
def FitsWhole (pattern text : String) : Prop :=
  ∃ p, read pattern = .ok p ∧ Fits p.regex text

theorem fitsWhole_iff {pattern : String} {p : Part} (h : read pattern = .ok p) (text : String) :
    FitsWhole pattern text ↔ Fits p.regex text := by
  refine ⟨?_, fun hfits => ⟨p, h, hfits⟩⟩
  rintro ⟨p', hp', hfits⟩
  cases h.symm.trans hp'
  exact hfits

end Regex

namespace WholePattern

open Regex

variable {pattern : String} {w : WholePattern}

theorem compile_of_read {p : Part} (h : read (wholeText pattern) = .ok p)
    (hfits : p.form.fits = true) : compile pattern = .ok ⟨wholeText pattern, p.regex⟩ := by
  have hcompile : compileWhole pattern = .ok p.regex := by
    rw [compileWhole, Regex.compile, h]
    exact if_pos hfits
  rw [compile, hcompile]

theorem exists_read_wholeText (h : compile pattern = .ok w) :
    ∃ p, read (wholeText pattern) = .ok p ∧ p.form.fits = true ∧
      w = ⟨wholeText pattern, p.regex⟩ := by
  unfold compile at h
  split at h
  · rename_i hcompile
    cases h
    obtain ⟨p, hp, hcompile⟩ := exists_of_bind_eq_ok hcompile
    split at hcompile
    · rename_i hfits
      cases hcompile
      exact ⟨p, hp, hfits, rfl⟩
    · cases hcompile
  · cases h

/-- What is compiled of a pattern that closes no group but its own. -/
theorem exists_read_of_compile (hread : read pattern ≠ .error .unopenedGroup)
    (h : compile pattern = .ok w) :
    ∃ p, read pattern = .ok p ∧ read (pattern ++ ")$") = .error .unopenedGroup ∧
      p.depth + 2 ≤ depthLimit ∧ p.anchored.form.fits = true ∧
      w = ⟨wholeText pattern, anchored p.regex⟩ := by
  obtain ⟨q, hq, hfits, rfl⟩ := exists_read_wholeText h
  cases hp : read pattern with
  | error e =>
    obtain ⟨e', he'⟩ := read_wholeText_error hp fun he => hread (he ▸ hp)
    cases he'.symm.trans hq
  | ok p =>
    rcases read_wholeText hp with ⟨hending, hwhole⟩ | ⟨-, hwhole⟩
    · rw [hwhole] at hq
      split at hq
      · cases hq
      · rename_i hdepth
        cases hq
        exact ⟨p, rfl, hending, Nat.le_of_not_lt hdepth, hfits, rfl⟩
    · cases hwhole.symm.trans hq

/-- A compiled pattern that closes no group but its own accepts the texts that it fits as a
whole. -/
theorem accepts_iff_fitsWhole (hread : read pattern ≠ .error .unopenedGroup)
    (h : compile pattern = .ok w) (text : String) :
    w.accepts text = true ↔ FitsWhole pattern text := by
  obtain ⟨p, hp, -, -, -, rfl⟩ := exists_read_of_compile hread h
  rw [fitsWhole_iff hp]
  exact occursIn_anchored_iff p.regex text

/-- Removing the keys that a compiled pattern accepts. -/
theorem get?_removeAll_accepted (hread : read pattern ≠ .error .unopenedGroup)
    (h : compile pattern = .ok w) {α : Type} (s : MemoryStore α) (id : String) :
    (FitsWhole pattern id → (s.removeAll (s.keys.filter w.accepts)).get? id = none) ∧
      (¬ FitsWhole pattern id → (s.removeAll (s.keys.filter w.accepts)).get? id = s.get? id) := by
  rw [← accepts_iff_fitsWhole hread h id, MemoryStore.get?_eq_live, MemoryStore.get?_eq_live,
    MemoryStore.live_get?_removeAll_filter]
  constructor
  · intro haccepts
    rw [if_pos haccepts]
    rfl
  · intro haccepts
    rw [if_neg haccepts]

/-- The description of a test by a regular expression. -/
theorem ofJson_matches (pattern : String) :
    Pattern.ofJson (.object [("matches", .str pattern)]) = Pattern.matching pattern := by
  show Pattern.ofOperator [("matches", .str pattern)] .matches (.str pattern) = _
  unfold Pattern.ofOperator Pattern.matching
  show (WholePattern.compile pattern >>= _) = _
  cases WholePattern.compile pattern with
  | error e => rfl
  | ok w => rfl

/-- **A compiled pattern matches whole texts.** A pattern that closes no group but its own is
compiled exactly when it is a regular expression by itself, no comment in it swallows a parenthesis
put behind it, and it is within the limits of depth and size with the conditions around it. It then
accepts the texts that it fits from the first to the last character. So does the test that a
description asks for, and a deletion by pattern removes the contexts of such ids and no others. -/
theorem compiled_for_whole_texts (pattern : String) (h : read pattern ≠ .error .unopenedGroup) :
    ((∃ w, compile pattern = .ok w) ↔
      ∃ p, read pattern = .ok p ∧ read (pattern ++ ")$") = .error .unopenedGroup ∧
        p.depth + 2 ≤ depthLimit ∧ p.anchored.form.fits = true) ∧
    (∀ w, compile pattern = .ok w → ∀ text, w.accepts text = true ↔ FitsWhole pattern text) ∧
    (∀ m, Pattern.ofJson (.object [("matches", .str pattern)]) = .ok m →
      ∀ value, m.test (some value) = true ↔ FitsWhole pattern value) ∧
    ∀ (wall : Instant) (s s' : MemoryStore Context) (count : Nat),
      (ContextStore.deleteMatching pattern).run MemoryStore.backend wall s = (.ok count, s') →
        ∀ id, (FitsWhole pattern id → s'.get? id = none) ∧
          (¬ FitsWhole pattern id → s'.get? id = s.get? id) := by
  refine ⟨⟨?_, ?_⟩, fun w => accepts_iff_fitsWhole h, ?_, ?_⟩
  · rintro ⟨w, hw⟩
    obtain ⟨p, hp, hending, hdepth, hfits, -⟩ := exists_read_of_compile h hw
    exact ⟨p, hp, hending, hdepth, hfits⟩
  · rintro ⟨p, hp, hending, hdepth, hfits⟩
    rcases read_wholeText hp with ⟨-, hwhole⟩ | ⟨hlost, -⟩
    · rw [if_neg (Nat.not_lt.2 hdepth)] at hwhole
      exact ⟨_, compile_of_read hwhole hfits⟩
    · cases hlost.symm.trans hending
  · intro m hm value
    rw [ofJson_matches] at hm
    obtain ⟨w, hw, rfl⟩ := exists_of_map_eq_ok hm
    exact accepts_iff_fitsWhole h hw value
  · intro wall s s' count hrun id
    rw [ContextStore.run_deleteMatching] at hrun
    split at hrun
    · cases hrun
    · rename_i w hw
      cases hrun
      exact get?_removeAll_accepted h hw s id

theorem compiled_for_whole_texts_alternatives :
    read "a|bc" ≠ .error .unopenedGroup ∧ (∃ w, compile "a|bc" = .ok w) ∧
      FitsWhole "a|bc" "bc" ∧ ¬ FitsWhole "a|bc" "ac" := by
  have hread : (read "a|bc").isOk = true := by decide +kernel
  have hclosed : read "a|bc" ≠ .error .unopenedGroup := fun h => by
    rw [h] at hread
    cases hread
  have hw : (compile "a|bc").toOption.map (fun w => (w.accepts "bc", w.accepts "ac")) =
      some (true, false) := by decide +kernel
  obtain ⟨w, hw, haccepts⟩ := Option.map_eq_some_iff.1 hw
  have hw := eq_ok_of_toOption hw
  obtain ⟨hbc, hac⟩ := Prod.mk.inj haccepts
  obtain ⟨-, hfits, -, -⟩ := compiled_for_whole_texts "a|bc" hclosed
  exact ⟨hclosed, ⟨w, hw⟩, (hfits w hw "bc").1 hbc,
    fun h => absurd ((hfits w hw "ac").2 h) (by rw [hac]; decide)⟩

/-- A pattern that closes the parenthesis in front of it is compiled though it is no regular
expression, and accepts a text of which only the start fits. One that ends in a comment is not
compiled though it is a regular expression. -/
theorem compiled_beyond_parenthesis :
    (read "a)|(?:b" = .error .unopenedGroup ∧
      ∃ w, compile "a)|(?:b" = .ok w ∧ w.accepts "ax" = true) ∧
    FitsWhole "(?x)a # c" "a" ∧
      compile "(?x)a # c" = .error (.invalidRegex "(?x)a # c" Fault.unclosed.message) := by
  refine ⟨⟨?_, ?_⟩, ?_, ?_⟩
  · rfl
  · have hw : (compile "a)|(?:b").toOption.map (·.accepts "ax") = some true := by decide +kernel
    obtain ⟨w, hw, haccepts⟩ := Option.map_eq_some_iff.1 hw
    exact ⟨w, eq_ok_of_toOption hw, haccepts⟩
  · have hp : (read "(?x)a # c").toOption.map (fun p => (anchored p.regex).occursIn "a") =
        some true := by decide +kernel
    obtain ⟨p, hp, hfits⟩ := Option.map_eq_some_iff.1 hp
    exact ⟨p, eq_ok_of_toOption hp, (occursIn_anchored_iff p.regex "a").1 hfits⟩
  · decide +kernel

end WholePattern

end KeyedState

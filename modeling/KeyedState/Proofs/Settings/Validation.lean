import KeyedState.Proofs.Except
import KeyedState.Settings.Logging

/-!
# Which settings of a log are accepted

The settings of a log are checked part by part: the level, the modules in the order of their names,
and the format. Without variables of the environment they are accepted when every part that is
looked at can be read, and otherwise the first one that cannot is named
(`LogSettings.validate_by_parts`). The modules are looked at unless the level is spelled `off`, so a
malformed directive may be passed over (`LogSettings.bad_directive_passed_over`).
-/

namespace KeyedState

namespace Logging

/-- A part of the settings of a log. -/
inductive Part where
  /-- The level, or a filter. -/
  | level (filter : String)
  /-- A module and its level. -/
  | directive (name value : String)
  /-- The format of the output. -/
  | format (name : String)

namespace Part

/-- The part can be read: as a filter, as a directive, or as one of the two formats. -/
def IsReadable : Part → Prop
  | .level filter => isFilter filter = true
  | .directive name value => isDirective (name ++ "=" ++ value) = true
  | .format name => name = "text" ∨ name = "json"

instance : DecidablePred IsReadable
  | .level filter => inferInstanceAs (Decidable (isFilter filter = true))
  | .directive name value => inferInstanceAs (Decidable (isDirective (name ++ "=" ++ value) = true))
  | .format name => inferInstanceAs (Decidable (name = "text" ∨ name = "json"))

/-- The failure that names a part. -/
def fault : Part → ConfigurationError
  | .level filter => .invalidConfig s!"invalid log level '{filter}'"
  | .directive name value =>
    let directive := name ++ "=" ++ value
    .invalidConfig s!"invalid log directive '{directive}'"
  | .format name => .invalidConfig s!"invalid log format: {name} (must be 'json' or 'text')"

/-- The check of a part on its own. -/
def check (p : Part) : Except ConfigurationError Unit :=
  if p.IsReadable then .ok () else .error p.fault

theorem check_of_readable (p : Part) (h : p.IsReadable) : p.check = .ok () := if_pos h

theorem check_of_not_readable (p : Part) (h : ¬ p.IsReadable) : p.check = .error p.fault := if_neg h

theorem check_eq_ok_iff {p : Part} : p.check = .ok () ↔ p.IsReadable := by
  by_cases h : p.IsReadable
  · exact iff_of_true (p.check_of_readable h) h
  · rw [p.check_of_not_readable h]
    exact iff_of_false nofun h

theorem check_eq_error_iff {p : Part} {e : ConfigurationError} :
    p.check = .error e ↔ ¬ p.IsReadable ∧ e = p.fault := by
  by_cases h : p.IsReadable
  · rw [p.check_of_readable h]
    exact iff_of_false nofun fun hp => hp.1 h
  · rw [p.check_of_not_readable h, Except.error.injEq, eq_comm, and_iff_right h]

end Part

/-! ## One check after the other -/

/-- The modules are checked one by one, in the order of their names. -/
theorem checkModules_eq_forM (ms : List (String × String)) :
    checkModules ms = forM (ms.map fun m => Part.directive m.1 m.2) Part.check := by
  induction ms with
  | nil => rfl
  | cons m ms ih =>
    rw [checkModules, List.map_cons, List.forM_cons, ← ih]
    by_cases h : isDirective (m.1 ++ "=" ++ m.2) = true
    · rw [if_pos h, Part.check_of_readable (.directive m.1 m.2) h, ok_bind]
    · rw [if_neg h, Part.check_of_not_readable (.directive m.1 m.2) h]
      rfl

theorem outcome_formatOf (s : LogSettings) :
    outcome (formatOf s) = (Part.format s.format).check := by
  by_cases htext : s.format = "text"
  · rw [Part.check_of_readable (.format s.format) (.inl htext), formatOf, htext]
    rfl
  by_cases hjson : s.format = "json"
  · rw [Part.check_of_readable (.format s.format) (.inr hjson), formatOf, hjson]
    rfl
  · rw [Part.check_of_not_readable (.format s.format) (not_or.2 ⟨htext, hjson⟩), formatOf,
      Format.named?, if_neg htext, if_neg hjson]
    rfl

end Logging

open Logging (Part)

namespace LogSettings

/-- The parts of the settings in order: the level, the modules by name, and the format. -/
def parts (s : LogSettings) : List Part :=
  Part.level s.level :: (s.modules.toList.map fun m => Part.directive m.1 m.2) ++ [.format s.format]

/-- The parts that are looked at: all of them, but where all is off not the modules. -/
def checkedParts (s : LogSettings) : List Part :=
  if s.level = "off" then [.level s.level, .format s.format] else s.parts

/-- The filter is checked part by part; the level `off` can be read. -/
theorem checkFilter_eq_forM (s : LogSettings) :
    (Logging.checkFilter s >>= fun _ => (Part.format s.format).check) =
      forM s.checkedParts Part.check := by
  have hoff : (Part.level "off").IsReadable := by decide +kernel
  rw [Logging.checkFilter, checkedParts]
  split
  · rename_i hlevel
    rw [hlevel, List.forM_cons, Part.check_of_readable _ hoff, List.forM_cons, ok_bind, ok_bind]
    cases (Part.format s.format).check <;> rfl
  · rw [parts, List.cons_append, List.forM_cons, List.forM_append, ← Logging.checkModules_eq_forM]
    split
    · rename_i hfilter
      rw [Part.check_of_readable (.level s.level) hfilter, ok_bind, List.forM_cons]
      refine congrArg _ (funext fun _ => ?_)
      cases (Part.format s.format).check <;> rfl
    · rename_i hfilter
      rw [Part.check_of_not_readable (.level s.level) hfilter]
      rfl

/-- Whether settings are accepted, and why not, is what the checks of their parts say. -/
theorem outcome_validate (s : LogSettings) :
    outcome (s.validate {}) = forM s.checkedParts Part.check := by
  have hvalidate : s.validate {} = (Logging.checkFilter s >>= fun _ => Logging.formatOf s) := rfl
  rw [hvalidate, outcome_bind fun _ => Logging.outcome_formatOf s, ← checkFilter_eq_forM]
  cases Logging.checkFilter s <;> rfl

/-- The format that is found is the one of that name. -/
theorem named?_of_validate {s : LogSettings} {f : Logging.Format} (h : s.validate {} = .ok f) :
    Logging.Format.named? s.format = some f := by
  obtain ⟨_, -, h⟩ := exists_of_bind_eq_ok h
  replace h : Logging.formatOf s = .ok f := h
  unfold Logging.formatOf at h
  split at h
  · rename_i g hg
    cases h
    exact hg
  · cases h

/-- **The settings of a log are accepted part by part.** Without variables of the environment the
settings are accepted, and the format is the one of their name, exactly if each part that is looked
at can be read: the level as a filter, each module with its level as a directive, unless the level
is `off`, and the format. They are refused exactly with the failure that names the first of these
parts that cannot be read, in the order of the level, the modules by name, and the format. -/
theorem validate_by_parts (s : LogSettings) :
    (∀ f, s.validate {} = .ok f ↔
      (∀ p ∈ s.checkedParts, p.IsReadable) ∧ Logging.Format.named? s.format = some f) ∧
    ∀ e, s.validate {} = .error e ↔
      ∃ before p after, s.checkedParts = before ++ p :: after ∧ (∀ q ∈ before, q.IsReadable) ∧
        ¬ p.IsReadable ∧ e = p.fault := by
  have haccepted : (∃ f, s.validate {} = .ok f) ↔ ∀ p ∈ s.checkedParts, p.IsReadable := by
    rw [← outcome_eq_ok_iff, outcome_validate, forM_eq_ok_iff]
    simp only [Part.check_eq_ok_iff]
  refine ⟨fun f => ⟨fun h => ⟨haccepted.1 ⟨f, h⟩, named?_of_validate h⟩, ?_⟩, fun e => ?_⟩
  · rintro ⟨hparts, hf⟩
    obtain ⟨g, hg⟩ := haccepted.2 hparts
    cases hf.symm.trans (named?_of_validate hg)
    exact hg
  · rw [← outcome_eq_error_iff, outcome_validate, forM_eq_error_iff]
    simp only [Part.check_eq_ok_iff, Part.check_eq_error_iff]

/-- Settings with a module whose level does not exist. -/
def loudModule (level : String) : LogSettings := { level, modules := .ofList [("a", "loud")] }

/-- A directive that cannot be read is passed over under the level `off`, though not under the same
level in capitals. -/
theorem bad_directive_passed_over :
    Part.directive "a" "loud" ∈ (loudModule "off").parts ∧
      ¬ (Part.directive "a" "loud").IsReadable ∧
      (loudModule "off").validate {} = .ok .text ∧
      (loudModule "OFF").validate {} = .error (Part.directive "a" "loud").fault := by
  have hcapitals : (Part.level "OFF").IsReadable := by decide +kernel
  have hloud : ¬ (Part.directive "a" "loud").IsReadable := by decide +kernel
  refine ⟨List.mem_cons_of_mem _ List.mem_cons_self, hloud, rfl, ?_⟩
  have hparts : (loudModule "OFF").checkedParts =
      [.level "OFF", .directive "a" "loud", .format "text"] := rfl
  rw [← outcome_eq_error_iff, outcome_validate, hparts, List.forM_cons,
    Part.check_of_readable _ hcapitals, ok_bind, List.forM_cons, Part.check_of_not_readable _ hloud]
  rfl

end LogSettings

end KeyedState

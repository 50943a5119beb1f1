import Mathlib.Data.List.Forall2

/-!
# Computations that may fail

How the success of a computation tells what its parts returned. Proofs about readers take a
successful result apart with these, one step of the reader at a time. Where only success matters,
and which failure comes first, a computation is reduced to its `outcome`. Schedules run as folds in
`Option`, as not every step can be taken in every state.
-/

namespace KeyedState

variable {ε ε' α β : Type}

@[simp] theorem pure_eq_ok (a : α) : (pure a : Except ε α) = .ok a := rfl

@[simp] theorem ok_bind (a : α) (f : α → Except ε β) : (Except.ok a >>= f) = f a := rfl

@[simp] theorem map_ok (f : α → β) (a : α) : (Except.ok a : Except ε α).map f = .ok (f a) := rfl

theorem ok_unique {x : Except ε α} {a b : α} (ha : x = .ok a) (hb : x = .ok b) : a = b :=
  Except.ok.inj (ha.symm.trans hb)

/-- Both steps of a successful computation succeed. -/
theorem exists_of_bind_eq_ok {x : Except ε α} {f : α → Except ε β} {b : β}
    (h : (x >>= f) = .ok b) : ∃ a, x = .ok a ∧ f a = .ok b := by
  rcases x with e | a
  · cases h
  · exact ⟨a, rfl, h⟩

/-- One of the steps of a failed computation fails. -/
theorem eq_error_of_bind_eq_error {x : Except ε α} {f : α → Except ε β} {e : ε}
    (h : (x >>= f) = .error e) : x = .error e ∨ ∃ a, x = .ok a ∧ f a = .error e := by
  rcases x with e' | a
  · exact .inl (congrArg Except.error (Except.error.inj h))
  · exact .inr ⟨a, rfl, h⟩

theorem exists_bind_eq_error {x : Except ε α} (h : ∃ e, x = .error e) (f : α → Except ε β) :
    ∃ e, (x >>= f) = .error e := by
  obtain ⟨e, rfl⟩ := h
  exact ⟨e, rfl⟩

theorem exists_of_map_eq_ok {x : Except ε α} {f : α → β} {b : β} (h : x.map f = .ok b) :
    ∃ a, x = .ok a ∧ f a = b := by
  rcases x with e | a
  · cases h
  · exact ⟨a, rfl, Except.ok.inj h⟩

@[simp] theorem mapError_ok (a : α) (f : ε → ε') :
    (Except.ok a : Except ε α).mapError f = .ok a :=
  rfl

theorem mapError_eq_ok_iff {x : Except ε α} {f : ε → ε'} {a : α} :
    x.mapError f = .ok a ↔ x = .ok a := by
  rcases x with e | a'
  · exact iff_of_false (fun h => by cases h) (fun h => by cases h)
  · exact ⟨fun h => congrArg Except.ok (Except.ok.inj h), fun h => by rw [h]; rfl⟩

/-- Results can be compared where failures cannot. -/
theorem eq_ok_of_toOption {x : Except ε α} {a : α} (h : x.toOption = some a) : x = .ok a := by
  rcases x with e | a'
  · cases h
  · exact congrArg Except.ok (Option.some.inj h)

/-! ## Whether a computation succeeds -/

/-- That a computation succeeds, or its failure. -/
def outcome (x : Except ε α) : Except ε Unit := x.map fun _ => ()

@[simp] theorem outcome_ok (a : α) : outcome (Except.ok a : Except ε α) = .ok () := rfl

@[simp] theorem outcome_error (e : ε) : outcome (Except.error e : Except ε α) = .error e := rfl

theorem outcome_eq_ok_iff {x : Except ε α} : outcome x = .ok () ↔ ∃ a, x = .ok a := by
  rcases x with e | a
  · exact iff_of_false (fun h => by cases h) (fun ⟨_, h⟩ => by cases h)
  · exact iff_of_true rfl ⟨a, rfl⟩

theorem outcome_eq_error_iff {x : Except ε α} {e : ε} : outcome x = .error e ↔ x = .error e := by
  rcases x with e' | a
  · exact ⟨fun h => congrArg Except.error (Except.error.inj h), fun h => by rw [h]; rfl⟩
  · exact iff_of_false (fun h => by cases h) (fun h => by cases h)

@[simp] theorem outcome_map (x : Except ε α) (f : α → β) : outcome (x.map f) = outcome x := by
  rcases x with e | a
  · rfl
  · rfl

/-- A last step that cannot fail does not change the outcome. -/
@[simp] theorem outcome_bind_ok (x : Except ε α) (f : α → β) :
    outcome (x >>= fun a => .ok (f a)) = outcome x := by
  rcases x with e | a
  · rfl
  · rfl

/-- The outcome of two steps is that of one after the other, if that of the second step does not
depend on what the first returns. -/
theorem outcome_bind {x : Except ε α} {f : α → Except ε β} {y : Except ε Unit}
    (h : ∀ a, outcome (f a) = y) : outcome (x >>= f) = outcome x >>= fun _ => y := by
  rcases x with e | a
  · rfl
  · exact h a

/-! ## Computations on the elements of a list -/

/-- A computation on each element of a list succeeds when it does on each. -/
theorem mapM_eq_ok_iff {f : α → Except ε β} {as : List α} {bs : List β} :
    as.mapM f = .ok bs ↔ List.Forall₂ (fun a b => f a = .ok b) as bs := by
  induction as generalizing bs with
  | nil => rw [List.mapM_nil, List.forall₂_nil_left_iff, pure_eq_ok, Except.ok.injEq, eq_comm]
  | cons a as ih =>
    rw [List.mapM_cons, List.forall₂_cons_left_iff]
    constructor
    · intro h
      obtain ⟨b, hb, h⟩ := exists_of_bind_eq_ok h
      obtain ⟨rest, hrest, h⟩ := exists_of_bind_eq_ok h
      cases h
      exact ⟨b, rest, hb, ih.1 hrest, rfl⟩
    · rintro ⟨b, rest, hb, hrest, rfl⟩
      rw [hb, ok_bind, ih.2 hrest, ok_bind, pure_eq_ok]

theorem forM_eq_ok_iff {f : α → Except ε Unit} {as : List α} :
    forM as f = .ok () ↔ ∀ a ∈ as, f a = .ok () := by
  induction as with
  | nil => exact iff_of_true rfl (List.forall_mem_nil _)
  | cons a as ih =>
    rw [List.forM_cons, List.forall_mem_cons, ← ih]
    rcases f a with e | ⟨⟩
    · exact iff_of_false (fun h => by cases h) (fun h => by cases h.1)
    · exact (and_iff_right rfl).symm

/-- Of checks that are made in order, the first one that fails counts. -/
theorem forM_eq_error_iff {f : α → Except ε Unit} {as : List α} {e : ε} :
    forM as f = .error e ↔
      ∃ before a after, as = before ++ a :: after ∧ (∀ b ∈ before, f b = .ok ()) ∧
        f a = .error e := by
  induction as with
  | nil => exact iff_of_false (fun h => by cases h) fun ⟨before, _, _, h, _⟩ => by simp at h
  | cons a as ih =>
    rw [List.forM_cons]
    cases hfa : f a with
    | error e' =>
      constructor
      · intro h
        cases h
        exact ⟨[], a, as, rfl, List.forall_mem_nil _, hfa⟩
      · rintro ⟨before, b, after, has, hbefore, hb⟩
        cases before with
        | nil =>
          cases has
          rw [hfa] at hb
          exact hb
        | cons c before =>
          cases has
          rw [List.forall_mem_cons, hfa] at hbefore
          cases hbefore.1
    | ok u =>
      rw [ok_bind, ih]
      constructor
      · rintro ⟨before, b, after, rfl, hbefore, hb⟩
        exact ⟨a :: before, b, after, rfl, List.forall_mem_cons.2 ⟨hfa, hbefore⟩, hb⟩
      · rintro ⟨before, b, after, has, hbefore, hb⟩
        cases before with
        | nil =>
          cases has
          rw [hfa] at hb
          cases hb
        | cons c before =>
          cases has
          exact ⟨before, b, after, rfl, (List.forall_mem_cons.1 hbefore).2, hb⟩

/-- Of checks that are made in the order of a relation, the failure is that of the one that fails
before any other does. -/
theorem forM_eq_error_iff_of_pairwise {R : α → α → Prop} (hR : ∀ a b, R a b → ¬ R b a)
    {f : α → Except ε Unit} {as : List α} (has : as.Pairwise R) {e : ε} :
    forM as f = .error e ↔ ∃ a ∈ as, f a = .error e ∧ ∀ b ∈ as, R b a → f b = .ok () := by
  rw [forM_eq_error_iff]
  constructor
  · rintro ⟨before, a, after, rfl, hbefore, ha⟩
    obtain ⟨-, hafter, -⟩ := List.pairwise_append.1 has
    refine ⟨a, List.mem_append_right _ List.mem_cons_self, ha, fun b hb hba => ?_⟩
    rcases List.mem_append.1 hb with hb | hb
    · exact hbefore b hb
    · rcases List.mem_cons.1 hb with rfl | hb
      · exact absurd hba (hR _ _ hba)
      · exact absurd hba (hR _ _ ((List.pairwise_cons.1 hafter).1 b hb))
  · rintro ⟨a, ha, hfail, hearlier⟩
    obtain ⟨before, after, rfl⟩ := List.append_of_mem ha
    obtain ⟨-, -, hcross⟩ := List.pairwise_append.1 has
    refine ⟨before, a, after, rfl, fun b hb => ?_, hfail⟩
    exact hearlier b (List.mem_append_left _ hb) (hcross b hb a List.mem_cons_self)

theorem forM_flatMap {f : β → Except ε Unit} {g : α → List β} {as : List α} :
    forM (as.flatMap g) f = forM as fun a => forM (g a) f := by
  induction as with
  | nil => rfl
  | cons a as ih => rw [List.flatMap_cons, List.forM_append, List.forM_cons, ih]

/-! ## Schedules -/

/-- What holds of a state and is kept by every step that can be taken holds after every schedule. -/
theorem foldlM_induction {σ τ : Type} {step : σ → τ → Option σ} {P : σ → Prop}
    (keep : ∀ s s' x, P s → step s x = some s' → P s') {s s' : σ} {schedule : List τ} (base : P s)
    (h : schedule.foldlM step s = some s') : P s' := by
  induction schedule generalizing s with
  | nil =>
    cases h
    exact base
  | cons x xs ih =>
    obtain ⟨r, hstep, hrest⟩ := Option.bind_eq_some_iff.1 h
    exact ih (keep _ _ _ base hstep) hrest

end KeyedState

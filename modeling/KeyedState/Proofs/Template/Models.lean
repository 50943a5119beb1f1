import KeyedState.Proofs.Except
import KeyedState.Template.Path

/-!
# One template in two models

Whether a template can be rendered does not depend on the model (`Template.outcome_render`), and what
it renders to depends only on what its paths lead to (`Template.render_congr`).
-/

namespace KeyedState

theorem pieces_eq_splitOn (separator : Char) (cs : List Char) :
    pieces separator cs = cs.splitOn separator := by
  induction cs with
  | nil => rfl
  | cons c cs ih =>
    unfold List.splitOn at ih ⊢
    rw [pieces, List.splitOnP_cons_eq_if_modifyHead, ih]
    by_cases hc : c = separator
    · simp [hc]
    · rw [if_neg hc, if_neg (by simpa using hc)]
      cases hps : List.splitOnP (· == separator) cs with
      | nil => exact absurd hps (List.splitOnP_ne_nil _ _)
      | cons p ps => rfl

namespace Template

/-- A placeholder of the template has the path. -/
def HasPath (template : String) (path : List Segment) : Prop :=
  ∃ cs, .placeholder cs ∈ parse template.toList ∧ Path.parse (trimBlankChars cs) = .ok path

/-- A placeholder of the template has a path that starts with the name. -/
def Mentions (name template : String) : Prop := ∃ rest, HasPath template (.key name :: rest)

variable {model model' : Json} {template text : String}

/-! ## What can be rendered -/

/-- The check of a part without a model: the path of a placeholder must be readable. -/
def Piece.check : Piece → Except String Unit
  | .text _ => .ok ()
  | .placeholder cs => outcome (Path.parse (trimBlankChars cs))

/-- The check of a template without a model: all paths must be readable. -/
def check (template : String) : Except StateError Unit :=
  match forM (parse template.toList) Piece.check with
  | .ok () => .ok ()
  | .error reason => .error (.configuration (.template template reason))

theorem outcome_renderPiece (model : Json) (p : Piece) :
    outcome (renderPiece model p) = p.check := by
  cases p with
  | text cs => rfl
  | placeholder cs => exact outcome_bind_ok ..

theorem outcome_renderPieces (model : Json) (ps : List Piece) :
    outcome (renderPieces model ps) = forM ps Piece.check := by
  induction ps with
  | nil => rfl
  | cons p ps ih =>
    rw [renderPieces, List.forM_cons, ← ih, ← outcome_renderPiece model p]
    exact outcome_bind fun text => outcome_bind_ok ..

/-- Whether a template can be rendered, and why not, is what the check says, whatever the model. -/
theorem outcome_render (model : Json) (template : String) :
    outcome (render model template) = check template := by
  rw [render, check, ← outcome_renderPieces model]
  cases renderPieces model (parse template.toList) with
  | error e => rfl
  | ok text => rfl

/-- A template that is rendered with one model is rendered with every other. -/
theorem exists_render (h : render model template = .ok text) (model' : Json) :
    ∃ text', render model' template = .ok text' := by
  rw [← outcome_eq_ok_iff, outcome_render, ← outcome_render model, h, outcome_ok]

/-! ## What is looked at -/

theorem renderPieces_congr {ps : List Piece}
    (h : ∀ cs path, .placeholder cs ∈ ps → Path.parse (trimBlankChars cs) = .ok path →
      Path.follow path model = Path.follow path model') :
    renderPieces model ps = renderPieces model' ps := by
  induction ps with
  | nil => rfl
  | cons p ps ih =>
    have hrest := ih fun cs path hm => h cs path (List.mem_cons_of_mem _ hm)
    have hpiece : renderPiece model p = renderPiece model' p := by
      cases p with
      | text cs => rfl
      | placeholder cs =>
        rw [renderPiece, renderPiece]
        cases hpath : Path.parse (trimBlankChars cs) with
        | error e => rfl
        | ok path => rw [ok_bind, ok_bind, h cs path List.mem_cons_self hpath]
    rw [renderPieces, renderPieces, hpiece, hrest]

/-- Two models are the same for a template whose paths lead to the same in both. -/
theorem render_congr (h : ∀ path, HasPath template path →
    Path.follow path model = Path.follow path model') :
    render model template = render model' template := by
  unfold render
  rw [renderPieces_congr fun cs path hm hpath => h path ⟨cs, hm, hpath⟩]

/-- A path that is read has a first step. -/
theorem ne_nil_of_hasPath {path : List Segment} (h : HasPath template path) : path ≠ [] := by
  obtain ⟨cs, -, hpath⟩ := h
  unfold Path.parse at hpath
  dsimp only at hpath
  split at hpath
  · cases hpath
  split at hpath
  · cases hpath
  obtain ⟨p, ps, hp⟩ := List.exists_cons_of_ne_nil (List.splitOn_ne_nil '.' (trimBlankChars cs))
  rw [pieces_eq_splitOn, hp, List.mapM_cons] at hpath
  obtain ⟨_, -, hpath⟩ := exists_of_bind_eq_ok hpath
  obtain ⟨_, -, hpath⟩ := exists_of_bind_eq_ok hpath
  cases hpath
  exact List.cons_ne_nil _ _

/-- A member that a template does not mention may be put in front of the members of a model. -/
theorem render_of_not_mentions {name : String} (h : ¬ Mentions name template) (v : Json)
    (members : List (String × Json)) :
    render (.object ((name, v) :: members)) template = render (.object members) template := by
  refine render_congr fun path hpath => ?_
  cases path with
  | nil => exact absurd rfl (ne_nil_of_hasPath hpath)
  | cons segment rest =>
    cases segment with
    | index n => rfl
    | key k =>
      have hk : k ≠ name := by
        rintro rfl
        exact h ⟨rest, hpath⟩
      simp [Path.follow, Segment.follow, Entries.get?, hk]

end Template

end KeyedState

import KeyedState.Decimal.Integer
import KeyedState.Error
import KeyedState.Json.Printer
import KeyedState.Text.Blank
import KeyedState.Text.Search

/-!
# Templates with paths

A template is text with placeholders `{{ path }}`. `Template.parse` splits it into literal text
and placeholders, `Path.parse` reads the path of a placeholder, and `Template.render` puts the
value that the path leads to in the place of the placeholder. Text that is put in is not read
again.
-/

namespace KeyedState

/-- A way to render a template text with the values of a model. -/
abbrev Renderer := Json → String → Except StateError String

/-- A step of a path. -/
inductive Segment where
  /-- A member of an object, or an index into an array. -/
  | key (name : String)
  /-- An index into an array. -/
  | index (n : Nat)
deriving DecidableEq

namespace Segment

/-- What is between square brackets. -/
def bracketed? : List Char → Option (List Char)
  | '[' :: cs => if cs.getLast? = some ']' then some cs.dropLast else none
  | _ => none

/-- Reads one segment of a path; the whole path is quoted in messages. -/
def parse (path : String) (segment : List Char) : Except String Segment :=
  if segment.isEmpty then .error s!"empty path segment in '{path}'"
  else match bracketed? segment with
    | some digits =>
      match readU64 (String.ofList digits) with
      | .ok n => .ok (.index n.val)
      | .error _ => .error s!"invalid index '{String.ofList segment}' in '{path}'"
    | none => .ok (.key (String.ofList segment))

/-- The value one step further. -/
def follow (s : Segment) (v : Json) : Option Json :=
  match v, s with
  | .object members, .key name => Entries.get? name members
  | .array items, .index n => items[n]?
  | .array items, .key name =>
    match readU64 name with
    | .ok n => items[n.val]?
    | .error _ => none
  | _, _ => none

end Segment

namespace Path

/-- Reads a path: segments with dots between. -/
def parse (path : List Char) : Except String (List Segment) :=
  let text := String.ofList path
  if path.isEmpty then .error "empty expression"
  else if path.any isBlank then .error s!"unsupported expression '{text}'"
  else (pieces '.' path).mapM (Segment.parse text)

/-- The value that a path leads to. -/
def follow : List Segment → Json → Option Json
  | [], v => some v
  | s :: ss, v => (s.follow v).bind (follow ss)

end Path

namespace Template

/-- A part of a template. -/
inductive Piece where
  /-- Text that stands for itself. -/
  | text (cs : List Char)
  /-- A placeholder, by what is between its braces. -/
  | placeholder (cs : List Char)
deriving DecidableEq

/-- The mark before a placeholder. -/
def opening : List Char := ['\x7b', '\x7b']

/-- The mark behind a placeholder. -/
def closing : List Char := ['\x7d', '\x7d']

/-- The parts of a template. A mark that no placeholder follows is text. -/
def parse (cs : List Char) : List Piece :=
  match _before : cutAt? opening cs with
  | none => [.text cs]
  | some (before, after) =>
    match _inside : cutAt? closing after with
    | none => [.text cs]
    | some (inside, rest) => .text before :: .placeholder inside :: parse rest
termination_by cs.length
decreasing_by
  have h₁ := congrArg List.length (append_of_cutAt? _before)
  have h₂ := congrArg List.length (append_of_cutAt? _inside)
  simp only [List.length_append, opening, closing, List.length_cons] at h₁ h₂
  omega

/-- The text that a value is put in as. -/
def insertion : Json → String
  | .null => ""
  | .str s => s
  | v => v.compact

/-- The text of a part. -/
def renderPiece (model : Json) : Piece → Except String String
  | .text cs => .ok (String.ofList cs)
  | .placeholder cs => do
    let path ← Path.parse (trimBlankChars cs)
    return ((Path.follow path model).map insertion).getD ""

/-- The text of all parts in order. -/
def renderPieces (model : Json) : List Piece → Except String String
  | [] => .ok ""
  | p :: ps => do
    let text ← renderPiece model p
    return text ++ (← renderPieces model ps)

/-- Renders a template with the values that paths lead to in the model. -/
def render : Renderer := fun model template =>
  match renderPieces model (parse template.toList) with
  | .ok text => .ok text
  | .error reason => .error (.configuration (.template template reason))

end Template

end KeyedState

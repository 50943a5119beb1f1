import KeyedState.Template.Path

/-!
# Trees of templates

A `TemplateNode` is a configuration whose leaves and keys are templates. `TemplateNode.ofJson?`
makes one of a value, `TemplateNode.render` renders every key and leaf once, and
`TemplateNode.toJson` goes back. When two keys of a mapping render to the same text, the later one
in key order wins.
-/

namespace KeyedState

/-- A tree of templates. -/
inductive TemplateNode where
  /-- A text. -/
  | leaf (text : String)
  /-- A list. -/
  | sequence (items : List TemplateNode)
  /-- A map, in the order of its keys. -/
  | mapping (entries : List (String × TemplateNode))
deriving Inhabited

namespace TemplateNode

mutual

/-- The tree of a value. Numbers and truth values become texts; null is no tree and is left out of
collections. -/
def ofJson? : Json → Option TemplateNode
  | .null => none
  | .str s => some (.leaf s)
  | .bool b => some (.leaf (Json.writeBool b))
  | .int n => some (.leaf (toString n))
  | .real x => some (.leaf (x.render Json.numbers))
  | .array items => some (.sequence (ofItems items))
  | .object members => some (.mapping (ofMembers members))

/-- The trees of items. -/
def ofItems : List Json → List TemplateNode
  | [] => []
  | v :: vs =>
    match ofJson? v with
    | none => ofItems vs
    | some n => n :: ofItems vs

/-- The trees of members. -/
def ofMembers : List (String × Json) → List (String × TemplateNode)
  | [] => []
  | (name, v) :: ms =>
    match ofJson? v with
    | none => ofMembers ms
    | some n => (name, n) :: ofMembers ms

end

mutual

/-- The value of a tree. -/
def toJson : TemplateNode → Json
  | .leaf s => .str s
  | .sequence items => .array (toItems items)
  | .mapping entries => .object (toMembers entries)

/-- The values of items. -/
def toItems : List TemplateNode → List Json
  | [] => []
  | n :: ns => toJson n :: toItems ns

/-- The values of entries. -/
def toMembers : List (String × TemplateNode) → List (String × Json)
  | [] => []
  | (key, n) :: es => (key, toJson n) :: toMembers es

end

mutual

/-- Renders every leaf and every key. The first failure counts, keys before their values. -/
def render (f : String → Except StateError String) : TemplateNode → Except StateError TemplateNode
  | .leaf s => (f s).map .leaf
  | .sequence items => (renderItems f items).map .sequence
  | .mapping entries => (renderEntries f entries).map fun es => .mapping (Entries.insertAll es [])

/-- Renders items in order. -/
def renderItems (f : String → Except StateError String) :
    List TemplateNode → Except StateError (List TemplateNode)
  | [] => .ok []
  | n :: ns => do
    let m ← render f n
    return m :: (← renderItems f ns)

/-- Renders entries in order. -/
def renderEntries (f : String → Except StateError String) :
    List (String × TemplateNode) → Except StateError (List (String × TemplateNode))
  | [] => .ok []
  | (key, n) :: es => do
    let k ← f key
    let m ← render f n
    return (k, m) :: (← renderEntries f es)

end

end TemplateNode

/-- Renders a whole configuration, keys included. -/
def renderJson (render : Renderer) (model config : Json) : Except StateError Json :=
  match TemplateNode.ofJson? config with
  | none => .ok .null
  | some tree => (tree.render (render model)).map TemplateNode.toJson

end KeyedState

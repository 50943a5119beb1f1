import KeyedState.Settings.Basic
import KeyedState.Settings.Layer
import KeyedState.Text.Search

/-!
# Loading settings

Settings are loaded from three layers: the defaults of the log, a JSON file, and variables of the
environment whose names start with `STATEKEEPER__`.
-/

namespace KeyedState

namespace Settings

/-- A file: its name and what it holds, if it exists. -/
structure File where
  /-- The name. -/
  name : String
  /-- The content. -/
  content : Option String
deriving DecidableEq

/-- Whether the name of a file says that it holds JSON: `json` stands behind its last dot, and
something before that dot. -/
def File.isJson (f : File) : Bool :=
  match (pieces '.' f.name.toList).reverse with
  | last :: before :: rest => last == "json".toList && !(before.isEmpty && rest.isEmpty)
  | _ => false

/-- The lowest layer. -/
def defaults : List (String × Setting) :=
  [("logging.level", .text "info"), ("logging.format", .text "text")]

/-- The start of the names of variables, in lower case. -/
def variableStart : List Char := "statekeeper__".toList

/-- The name with dots where it has two underscores. -/
def dotted : List Char → List Char
  | '_' :: '_' :: cs => '.' :: dotted cs
  | c :: cs => c :: dotted cs
  | [] => []

/-- The path that a variable sets; none where its name does not belong to settings. -/
def variablePath? (name : String) : Option String :=
  let cs := (lowerCase name).toList
  if variableStart.isPrefixOf cs then
    some (String.ofList (dotted (cs.drop variableStart.length)))
  else none

/-- The layer of the variables. -/
def variableLayer (env : List (String × String)) : List (String × Setting) :=
  env.filterMap fun (name, value) =>
    (variablePath? name).map fun path => (path, Setting.ofVariable value)

/-- The layer of a file, which must exist, have the name of a JSON file and hold an object. -/
def fileLayer? (f : File) : Option (List (String × Setting)) :=
  if f.isJson then
    match f.content.bind Json.parse? with
    | some (.object ms) => some (Setting.ofMembers ms)
    | _ => none
  else none

/-- Reads texts by name. -/
def texts? : List (String × Setting) → Option (List (String × String))
  | [] => some []
  | (name, v) :: es =>
    match v.toText?, texts? es with
    | some s, some rest => some ((name, s) :: rest)
    | _, _ => none

/-- Reads the levels of modules. -/
def modules? : Setting → Option (KeyMap String)
  | .table es => (texts? es).map KeyMap.ofList
  | _ => none

/-- Reads a value that may be missing, and then has a default. -/
def valueOr {α : Type} (default : α) (read : Setting → Option α) : Option Setting → Option α
  | none => some default
  | some v => read v

/-- Reads the settings of the log: a table, or a list of the values in order. -/
def logging? (v : Setting) : Option LogSettings :=
  let find : String → Nat → Option (Option Setting) := fun name i =>
    match v with
    | .table es => some (Entries.get? name es)
    | .list vs => some vs[i]?
    | _ => none
  do
    let level ← valueOr "info" Setting.toText? (← find "level" 0)
    let format ← valueOr "text" Setting.toText? (← find "format" 1)
    let color ← valueOr true Setting.toBool? (← find "color" 2)
    let modules ← valueOr ∅ modules? (← find "modules" 3)
    return { level, format, color, modules }

/-- Reads all settings from a table. -/
def ofSetting? (root : Setting) : Option Settings := do
  let es := root.entries
  let defaultTtlMillis ← valueOr none Setting.toOptionalU64? (Entries.get? "default_ttl_ms" es)
  let sweepIntervalMillis ←
    valueOr none Setting.toOptionalU64? (Entries.get? "sweep_interval_ms" es)
  let logging ← valueOr {} logging? (Entries.get? "logging" es)
  return { defaultTtlMillis, sweepIntervalMillis, logging }

/-- Loads settings from the defaults, a file, if one is given, and variables. -/
def load? (file : Option File) (env : List (String × String)) : Option Settings := do
  let base ← match file with
    | none => some []
    | some f => fileLayer? f
  ofSetting? (((Setting.table []).setAll defaults).setAll (base ++ variableLayer env))

end Settings

end KeyedState

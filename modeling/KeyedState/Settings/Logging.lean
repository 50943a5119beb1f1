import KeyedState.Error
import KeyedState.Regex.Pattern
import KeyedState.Settings.Basic
import KeyedState.Settings.Number
import KeyedState.Text.Search
import KeyedState.Unicode.Newest

/-!
# Validation of log settings

A log filter is a list of directives with commas between. A directive names a level, a target, a
span with fields, or a target or span and its level. `LogSettings.validate` checks the level, the
directives of the modules and the format, in this order; variables of the environment may give a
filter and a format that take precedence.
-/

namespace KeyedState

namespace Logging

/-- The names of levels. -/
def levelNames : List String := ["error", "warn", "info", "debug", "trace", "off"]

/-- Whether a text is a level: a number up to five, a name in any case, or empty. -/
def isLevel (text : String) : Bool :=
  text.isEmpty || levelNames.any (sameAsciiCase text) ||
    match readU64 text with
    | .ok n => n.val ≤ 5
    | .error _ => false

/-- Whether a condition of a pattern looks for words beyond ASCII. -/
def looksForWords : Regex.Look → Bool
  | .wordBoundary unicode _ => unicode
  | .wordStart unicode => unicode
  | .wordEnd unicode => unicode
  | .wordStartHalf unicode => unicode
  | .wordEndHalf unicode => unicode
  | _ => false

/-- Whether a text is a pattern for values. It may be of any size, but not look for words. -/
def isValuePattern (text : String) : Bool :=
  match Regex.read text with
  | .ok p => !p.form.anyLook looksForWords
  | .error _ => false

/-- Whether a text is a field of a span: a name, and perhaps the value it has, which is a number
or a pattern. -/
def isField (text : List Char) : Bool :=
  !text.isEmpty &&
    match pieces '=' text with
    | _ :: value :: _ =>
      let value := String.ofList value
      (FloatSetting.parse? value).isSome || isValuePattern value
    | _ => true

/-- What is being read of a directive. Offsets count bytes. -/
inductive Reading where
  /-- Nothing yet. -/
  | start
  /-- A level or a target. -/
  | levelOrTarget
  /-- A span. -/
  | span
  /-- A field that starts at an offset. -/
  | field (start : Nat)
  /-- The end of the fields. -/
  | fields
  /-- The end of the target. -/
  | target
  /-- A level that starts at an offset. -/
  | level (start : Nat)
  /-- Nothing more. -/
  | complete
deriving DecidableEq

/-- The characters from an offset in bytes on. -/
def dropBytes : Nat → List Char → List Char
  | 0, cs => cs
  | _ + 1, [] => []
  | n + 1, c :: cs => dropBytes (n + 1 - c.utf8Size) cs

/-- The characters before an offset in bytes. -/
def takeBytes : Nat → List Char → List Char
  | 0, _ => []
  | _ + 1, [] => []
  | n + 1, c :: cs => c :: takeBytes (n + 1 - c.utf8Size) cs

/-- The characters between two offsets in bytes. -/
def slice (text : List Char) (start stop : Nat) : List Char :=
  takeBytes (stop - start) (dropBytes start text)

/-- One step: what is read after the character `c` at an offset. -/
def step (text : List Char) (offset : Nat) (c : Char) : Reading → Option Reading
  | .start =>
    if c = '[' then some .span
    else if c == '-' || c == ':' || c == '_' || isAlphanumeric c then some .levelOrTarget
    else none
  | .levelOrTarget =>
    if c = '=' then some (.level (offset + 1))
    else if c = '[' then some .span
    else if c = ',' then some .complete
    else some .levelOrTarget
  | .target => if c = '=' then some (.level (offset + 1)) else none
  | .span =>
    if c = ']' then some .target
    else if c = '\x7b' then some (.field (offset + 1))
    else some .span
  | .field start =>
    if c = '\x7d' then (if isField (slice text start offset) then some .fields else none)
    else if c = ',' then
      (if isField (slice text start offset) then some (.field (offset + 1)) else none)
    else some (.field start)
  | .fields => if c = ']' then some .target else none
  | .level start =>
    if c = ',' then
      (if isLevel (String.ofList (slice text start offset)) then some .complete else none)
    else some (.level start)
  | .complete => none

/-- What is read after all characters from an offset on. -/
def readAll (text : List Char) (offset : Nat) (r : Reading) : List Char → Option Reading
  | [] => some r
  | c :: cs => (step text offset c r).bind fun r => readAll text (offset + c.utf8Size) r cs

/-- Whether a text is a directive. Blanks around it are passed over, but offsets are taken from
the start of the text as it is. -/
def isDirective (text : String) : Bool :=
  let cs := text.toList
  match readAll cs 0 .start (trimBlankChars cs) with
  | some (.level start) => isLevel (String.ofList (dropBytes start cs))
  | some .levelOrTarget => true
  | some .target => true
  | some .complete => true
  | _ => false

/-- Whether a text is a filter: directives with commas between, some of which may be empty. -/
def isFilter (text : String) : Bool :=
  ((pieces ',' text.toList).filter (!·.isEmpty)).all fun cs => isDirective (String.ofList cs)

/-- The formats of output. -/
inductive Format where
  /-- Lines of text. -/
  | text
  /-- JSON objects. -/
  | json
deriving DecidableEq

/-- The format of a name. -/
def Format.named? (name : String) : Option Format :=
  if name = "text" then some .text
  else if name = "json" then some .json
  else none

/-- What the environment says about the log. -/
structure Environment where
  /-- A filter that replaces the one of the settings if it is one. -/
  filter : Option String := none
  /-- A format that replaces the one of the settings if it is one. -/
  format : Option String := none

/-- Checks the levels of modules in order. -/
def checkModules : List (String × String) → Except ConfigurationError Unit
  | [] => .ok ()
  | (module, level) :: ms =>
    let directive := module ++ "=" ++ level
    if isDirective directive then checkModules ms
    else .error (.invalidConfig s!"invalid log directive '{directive}'")

/-- Checks the filter that settings ask for. Where all is off, modules are not looked at. -/
def checkFilter (s : LogSettings) : Except ConfigurationError Unit :=
  if s.level = "off" then .ok ()
  else if isFilter s.level then checkModules s.modules.toList
  else .error (.invalidConfig s!"invalid log level '{s.level}'")

/-- The format that settings ask for. -/
def formatOf (s : LogSettings) : Except ConfigurationError Format :=
  match Format.named? s.format with
  | some f => .ok f
  | none => .error (.invalidConfig s!"invalid log format: {s.format} (must be 'json' or 'text')")

end Logging

/-- Checks the settings of a log and finds the format. -/
def LogSettings.validate (env : Logging.Environment) (s : LogSettings) :
    Except ConfigurationError Logging.Format := do
  if env.filter.any Logging.isFilter then pure () else Logging.checkFilter s
  match env.format.bind Logging.Format.named? with
  | some f => return f
  | none => Logging.formatOf s

end KeyedState

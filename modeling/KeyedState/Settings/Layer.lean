import KeyedState.Json.Document
import KeyedState.KeyMap.Entries
import KeyedState.Settings.Number
import KeyedState.Unicode.LowerCase

/-!
# Layers of settings

Settings come in layers, each of which sets values at paths; later layers win. Tables are merged
name by name and everything else is replaced. Names do not distinguish upper and lower case.
-/

namespace KeyedState

/-- A value of a layer. -/
inductive Setting where
  /-- No value. -/
  | null
  /-- A truth value. -/
  | bool (b : Bool)
  /-- An integer. -/
  | int (n : Int)
  /-- A floating-point number. -/
  | real (x : FloatSetting)
  /-- A text. -/
  | text (s : String)
  /-- A list. -/
  | list (items : List Setting)
  /-- A table, in the order of its names. -/
  | table (entries : List (String × Setting))
deriving Inhabited

/-- A step of a path. -/
inductive SettingStep where
  /-- A name in a table. -/
  | key (name : String)
  /-- An index into a list; a negative one counts from the end. -/
  | index (i : Int)
deriving DecidableEq

namespace Setting

/-- The entries of a table; none where the value is no table. -/
def entries : Setting → List (String × Setting)
  | .table es => es
  | _ => []

/-- The items of a list; none where the value is no list. -/
def items : Setting → List Setting
  | .list vs => vs
  | _ => []

mutual

/-- What stands at a name after a value is set there, beside what stood there before. -/
def mergeInto (existing : Option Setting) : Setting → Setting
  | .table es => mergeEntries (existing.getD (.table [])) es
  | .null => .null
  | .bool b => .bool b
  | .int n => .int n
  | .real x => .real x
  | .text s => .text s
  | .list vs => .list vs

/-- What a value becomes when entries are set in it one after the other. -/
def mergeEntries (target : Setting) : List (String × Setting) → Setting
  | [] => target
  | (name, v) :: es =>
    let key := lowerCase name
    let old := target.entries
    mergeEntries (.table (Entries.insert key (mergeInto (Entries.get? key old) v) old)) es

end

/-- Where in a list of so many items an index leads. -/
def place (length : Nat) (i : Int) : Nat := if 0 ≤ i then i.toNat else length - i.natAbs

/-- The list with an item replaced; missing items before it become null. -/
def setItem (vs : List Setting) (n : Nat) (v : Setting) : List Setting :=
  (vs ++ List.replicate (n + 1 - vs.length) Setting.null).set n v

/-- What a value becomes when another is set in it at a path. -/
def setAt (value : Setting) (current : Setting) : SettingStep → List SettingStep → Setting
  | .key name, rest =>
    let key := lowerCase name
    let old := current.entries
    let new := match rest with
      | [] => mergeInto (Entries.get? key old) value
      | s :: rest => setAt value ((Entries.get? key old).getD .null) s rest
    .table (Entries.insert key new old)
  | .index i, rest =>
    let old := current.items
    let n := place old.length i
    let new := match rest with
      | [] => value
      | s :: rest => setAt value (old[n]?.getD .null) s rest
    .list (setItem old n new)

/-! ## Paths -/

/-- Whether a character may stand in a name of a path. -/
def isNameChar (c : Char) : Bool := c.isAlphanum || c == ' ' || c == '_' || c == '-'

/-- Reads an index from behind its opening bracket. -/
def readIndex? (cs : List Char) : Option (Int × List Char) :=
  let skip := List.dropWhile fun c : Char => c == ' ' || c == '\t'
  let cs := skip cs
  let (minus, cs) := match cs with
    | '-' :: cs => (true, cs)
    | cs => (false, cs)
  match FloatSetting.digits cs with
  | ([], _) => none
  | (ds, rest) =>
    match skip rest with
    | ']' :: rest =>
      let n : Nat := ds.foldl (fun n d => 10 * n + d) 0
      if n ≤ maxI64 then some (if minus then -(n : Int) else n, rest) else none
    | _ => none

/-- Reads the steps behind the first name of a path. Each takes at least one character. -/
def readSteps? : Nat → List Char → Option (List SettingStep)
  | _, [] => some []
  | 0, _ => none
  | fuel + 1, '.' :: cs =>
    let name := cs.takeWhile isNameChar
    if name.isEmpty then none
    else (readSteps? fuel (cs.dropWhile isNameChar)).map (.key (String.ofList name) :: ·)
  | fuel + 1, '[' :: cs =>
    match readIndex? cs with
    | none => none
    | some (i, rest) => (readSteps? fuel rest).map (.index i :: ·)
  | _ + 1, _ => none

/-- The path that a text spells: a name and further steps. A text that spells no path is one
name. -/
def pathOf (text : String) : String × List SettingStep :=
  let cs := text.toList
  let name := cs.takeWhile isNameChar
  match readSteps? cs.length (cs.dropWhile isNameChar) with
  | some steps => if name.isEmpty then (text, []) else (String.ofList name, steps)
  | none => (text, [])

/-- What a table becomes when a value is set in it at the path that a text spells. -/
def set (root : Setting) (path : String) (value : Setting) : Setting :=
  let (name, steps) := pathOf path
  setAt value root (.key name) steps

/-- What a table becomes when values are set in it one after the other. -/
def setAll (root : Setting) : List (String × Setting) → Setting
  | [] => root
  | (path, v) :: rest => setAll (root.set path v) rest

/-! ## Values -/

mutual

/-- The setting of a JSON value. An integer beyond the signed 64-bit range becomes a floating-point
number. -/
def ofJson : Json → Setting
  | .null => .null
  | .bool b => .bool b
  | .int n =>
    if n ≤ maxI64 then .int n
    else .real (.finite ((Binary64.ofRatio? false n.toNat 1).getD default))
  | .real x => .real (.finite x)
  | .str s => .text s
  | .array vs => .list (ofItems vs)
  | .object ms => .table (ofMembers ms)

/-- The settings of items. -/
def ofItems : List Json → List Setting
  | [] => []
  | v :: vs => ofJson v :: ofItems vs

/-- The settings of members. -/
def ofMembers : List (String × Json) → List (String × Setting)
  | [] => []
  | (name, v) :: ms => (name, ofJson v) :: ofMembers ms

end

/-- The setting that the text of a variable spells: a truth value, a number, or a text. -/
def ofVariable (text : String) : Setting :=
  let lower := lowerCase text
  if lower = "true" then .bool true
  else if lower = "false" then .bool false
  else match readI64 text with
    | .ok n => .int n
    | .error _ =>
      match FloatSetting.parse? text with
      | some x => .real x
      | none => .text text

/-! ## Typed readings -/

/-- The setting as an unsigned 64-bit integer. -/
def toU64? : Setting → Option U64
  | .int n => U64.ofInt? n
  | .bool b => some (if b then .one else .zero)
  | .real x => some x.toU64
  | .text s =>
    let lower := lowerCase s
    if ["true", "on", "yes"].contains lower then some .one
    else if ["false", "off", "no"].contains lower then some .zero
    else (readU64 s).toOption
  | _ => none

/-- The setting as an unsigned 64-bit integer that may be missing. -/
def toOptionalU64? : Setting → Option (Option U64)
  | .null => some none
  | v => v.toU64?.map some

/-- The setting as a truth value. -/
def toBool? : Setting → Option Bool
  | .bool b => some b
  | .int n => some (n != 0)
  | .real x => some x.isNonzero
  | .text s =>
    let lower := lowerCase s
    if ["1", "true", "on", "yes"].contains lower then some true
    else if ["0", "false", "off", "no"].contains lower then some false
    else none
  | _ => none

/-- The setting as a text. -/
def toText? : Setting → Option String
  | .text s => some s
  | .bool b => some (if b then "true" else "false")
  | .int n => some (toString n)
  | .real x => some x.text
  | _ => none

end Setting

end KeyedState

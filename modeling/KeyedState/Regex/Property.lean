import KeyedState.Regex.Basic
import KeyedState.Regex.Flags
import KeyedState.Unicode.Age
import KeyedState.Unicode.CaseFolding
import KeyedState.Unicode.GraphemeBreak
import KeyedState.Unicode.Script
import KeyedState.Unicode.ScriptExtension
import KeyedState.Unicode.SentenceBreak
import KeyedState.Unicode.WordBreak

/-!
# Named sets of characters

The sets that patterns name: the classes of one letter such as digits, the named classes of ASCII,
and the Unicode properties. Names of properties are compared after `Property.normalize`.
-/

namespace KeyedState.Regex

/-- The characters of a class of one lower-case letter: `d`, `s` or `w`. -/
def letterClass (unicode : Bool) (letter : Char) : CharSet :=
  if letter = 'd' then
    (if unicode then GeneralCategory.members .decimalNumber else .ofText "30-39")
  else if letter = 's' then
    (if unicode then .ofText "9-D 20 85 A0 1680 2000-200A 2028-2029 202F 205F 3000"
     else .ofText "9-D 20")
  else (if unicode then word else asciiWord)

/-- The named classes of ASCII. -/
def asciiClass? (name : String) : Option CharSet :=
  match name with
  | "alnum" => some (.ofText "30-39 41-5A 61-7A")
  | "alpha" => some (.ofText "41-5A 61-7A")
  | "ascii" => some (.ofText "0-7F")
  | "blank" => some (.ofText "9 20")
  | "cntrl" => some (.ofText "0-1F 7F")
  | "digit" => some (.ofText "30-39")
  | "graph" => some (.ofText "21-7E")
  | "lower" => some (.ofText "61-7A")
  | "print" => some (.ofText "20-7E")
  | "punct" => some (.ofText "21-2F 3A-40 5B-60 7B-7E")
  | "space" => some (.ofText "9-D 20")
  | "upper" => some (.ofText "41-5A")
  | "word" => some asciiWord
  | "xdigit" => some (.ofText "30-39 41-46 61-66")
  | _ => none

namespace Property

/-- A name in lower case without spaces, underscores, hyphens, characters beyond ASCII and the
word `is` in front. -/
def normalize (name : List Char) : String :=
  let keep := fun cs : List Char => (cs.filter fun c =>
    c != ' ' && c != '_' && c != '-' && c.toNat < 128).map Char.toLower
  match name.map Char.toLower with
  | 'i' :: 's' :: _ =>
    let rest := keep (name.drop 2)
    -- the name of one property would lose its first letters
    if rest = ['c'] then "isc" else String.ofList rest
  | _ => String.ofList (keep name)

/-- The names that belong to a category or a script although a property has them too. -/
def ambiguous : List String := ["cf", "sc", "lc"]

/-- The characters of a property, category or script given by its name alone. -/
def named? (name : List Char) : Option CharSet :=
  let name := normalize name
  let property := if ambiguous.contains name then none else BinaryProperty.named? name
  (property.or (GeneralCategory.named? name)).or (Script.named? name)

/-- The characters for which a property has a value. -/
def valued? (name value : List Char) : Option CharSet :=
  let value := normalize value
  match normalize name with
  | "gc" | "generalcategory" => GeneralCategory.named? value
  | "sc" | "script" => Script.named? value
  | "scx" | "scriptextensions" => ScriptExtension.named? value
  | "age" => Age.named? value
  | "gcb" | "graphemeclusterbreak" => GraphemeBreak.named? value
  | "wb" | "wordbreak" => WordBreak.named? value
  | "sb" | "sentencebreak" => SentenceBreak.named? value
  | _ => none

/-- Cuts a text at the first occurrence of a character. -/
def cutAtChar? (mark : Char) : List Char → Option (List Char × List Char)
  | [] => none
  | c :: cs =>
    if c = mark then some ([], cs)
    else (cutAtChar? mark cs).map fun (before, after) => (c :: before, after)

/-- Cuts a text at the first sign for inequality. -/
def cutAtInequality? : List Char → Option (List Char × List Char)
  | [] => none
  | '!' :: '=' :: cs => some ([], cs)
  | c :: cs => (cutAtInequality? cs).map fun (before, after) => (c :: before, after)

/-- A property as it is asked for. -/
structure Query where
  /-- The characters that have the property or value. -/
  set : CharSet
  /-- Whether the sign between name and value is the one for inequality. -/
  isNegated : Bool
deriving DecidableEq

/-- What the text between the braces of a property escape asks for. -/
def ofText? (text : List Char) : Option Query :=
  match cutAtInequality? text with
  | some (name, value) => (valued? name value).map (⟨·, true⟩)
  | none =>
    match (cutAtChar? ':' text).or (cutAtChar? '=' text) with
    | some (name, value) => (valued? name value).map (⟨·, false⟩)
    | none => (named? text).map (⟨·, false⟩)

end Property

end KeyedState.Regex

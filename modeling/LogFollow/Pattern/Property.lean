import LogFollow.Pattern.CodeSet
import LogFollow.Pattern.Table.Age
import LogFollow.Pattern.Table.Binary
import LogFollow.Pattern.Table.Break
import LogFollow.Pattern.Table.CaseFold
import LogFollow.Pattern.Table.Category
import LogFollow.Pattern.Table.Script
import LogFollow.Pattern.Table.ScriptExtension

/-!
# Classes of characters

The named classes that a pattern can mention: general categories, scripts, ages, bounds and binary
properties of Unicode, the classes with a one-letter escape, and the bracketed ASCII classes. Names are
compared without regard to case, blanks, dashes and underscores, and may start with `is`.
-/

namespace LogFollow.Pattern

namespace Property

/-- A property name in lower case without separators. -/
def squeeze (name : List Char) : List Char :=
  (name.filter fun c => c != ' ' && c != '_' && c != '-' && c.toNat < 0x80).map Char.toLower

/-- The form in which names are looked up. A leading `is` is dropped, except where only `c` would
be left. -/
def normalize (name : List Char) : String :=
  match name with
  | i :: s :: rest =>
    if i.toLower = 'i' ∧ s.toLower = 's' then
      let short := squeeze rest
      if short = ['c'] then "isc" else String.ofList short
    else String.ofList (squeeze name)
  | _ => String.ofList (squeeze name)

def row? (table : List (List String × String)) (name : String) : Option CodeSet :=
  (table.find? (·.1.contains name)).map fun row => CodeSet.ofRow row.2

/-- The categories that a group of categories is made of. -/
def categoryGroup (name : String) : List String :=
  match name with
  | "l" | "letter" => ["lu", "ll", "lt", "lm", "lo"]
  | "lc" | "casedletter" => ["lu", "ll", "lt"]
  | "m" | "mark" | "combiningmark" => ["mn", "mc", "me"]
  | "n" | "number" => ["nd", "nl", "no"]
  | "p" | "punctuation" | "punct" => ["pc", "pd", "ps", "pe", "pi", "pf", "po"]
  | "s" | "symbol" => ["sm", "sc", "sk", "so"]
  | "z" | "separator" => ["zs", "zl", "zp"]
  | "c" | "other" => ["cc", "cf", "cn", "co"]
  | _ => []

def categories (names : List String) : CodeSet :=
  CodeSet.ofRanges (names.flatMap fun n => ((row? Table.categories n).map (·.ranges)).getD [])

/-- The surrogates. They are no scalars, and no class holds them, but the ranges on both sides of them
may be joined over them. -/
def surrogates : CodeSet := ⟨[(0xD800, 0xDFFF)]⟩

def category? (name : String) : Option CodeSet :=
  match name with
  | "any" => some ⟨[(0, lastScalar)]⟩
  | "ascii" => some ⟨[(0, 0x7F)]⟩
  | "assigned" => (row? Table.categories "cn").map (CodeSet.complement lastScalar)
  | "c" | "other" => some ((categories (categoryGroup name)).union surrogates)
  | _ =>
    match categoryGroup name with
    | [] => row? Table.categories name
    | parts => some (categories parts)

def binary? (name : String) : Option CodeSet := row? Table.binaryProperties name

def script? (name : String) : Option CodeSet := row? Table.scripts name

def scriptExtension? (name : String) : Option CodeSet :=
  (row? Table.scriptExtensions name).orElse fun _ => script? name

/-- The rows up to the one with a name. -/
def rowsThrough (name : String) : List (List String × String) → List (List String × String)
  | [] => []
  | row :: rest => if row.1.contains name then [row] else row :: rowsThrough name rest

/-- The code points that a version of the standard knows. -/
def age? (name : String) : Option CodeSet :=
  if Table.ages.any (·.1.contains name) then
    some (CodeSet.ofRanges ((rowsThrough name Table.ages).flatMap fun row => (CodeSet.ofRow row.2).ranges))
  else none

/-- The code points of a class with a bare name: a binary property, a category or a script. -/
def named? (name : List Char) : Option CodeSet :=
  let name := normalize name
  (binary? name).orElse fun _ =>
    (category? name).orElse fun _ => script? name

/-- The code points of a class given as a property and its value. -/
def valued? (property value : List Char) : Option CodeSet :=
  match normalize property with
  | "gc" | "generalcategory" => category? (normalize value)
  | "sc" | "script" => script? (normalize value)
  | "scx" | "scriptextensions" => scriptExtension? (normalize value)
  | "age" => age? (normalize value)
  | "gcb" | "graphemeclusterbreak" => row? Table.graphemeBreaks (normalize value)
  | "wb" | "wordbreak" => row? Table.wordBreaks (normalize value)
  | "sb" | "sentencebreak" => row? Table.sentenceBreaks (normalize value)
  | _ => none

def digit : CodeSet := categories ["nd"]

def space : CodeSet := (binary? "whitespace").getD CodeSet.empty

def alphabetic : CodeSet := (binary? "alphabetic").getD CodeSet.empty

/-- Word characters: letters, marks, digits, connectors and joiners. -/
def word : CodeSet :=
  CodeSet.ofRanges (alphabetic.ranges ++ (categories ["mn", "mc", "me", "nd", "pc"]).ranges
    ++ [(0x200C, 0x200D)])

def asciiDigit : CodeSet := ⟨[(0x30, 0x39)]⟩

def asciiSpace : CodeSet := ⟨[(0x09, 0x0D), (0x20, 0x20)]⟩

def asciiWord : CodeSet := ⟨[(0x30, 0x39), (0x41, 0x5A), (0x5F, 0x5F), (0x61, 0x7A)]⟩

def ascii? (name : String) : Option CodeSet :=
  match name with
  | "alnum" => some ⟨[(0x30, 0x39), (0x41, 0x5A), (0x61, 0x7A)]⟩
  | "alpha" => some ⟨[(0x41, 0x5A), (0x61, 0x7A)]⟩
  | "ascii" => some ⟨[(0, 0x7F)]⟩
  | "blank" => some ⟨[(0x09, 0x09), (0x20, 0x20)]⟩
  | "cntrl" => some ⟨[(0, 0x1F), (0x7F, 0x7F)]⟩
  | "digit" => some asciiDigit
  | "graph" => some ⟨[(0x21, 0x7E)]⟩
  | "lower" => some ⟨[(0x61, 0x7A)]⟩
  | "print" => some ⟨[(0x20, 0x7E)]⟩
  | "punct" => some ⟨[(0x21, 0x2F), (0x3A, 0x40), (0x5B, 0x60), (0x7B, 0x7E)]⟩
  | "space" => some asciiSpace
  | "upper" => some ⟨[(0x41, 0x5A)]⟩
  | "word" => some asciiWord
  | "xdigit" => some ⟨[(0x30, 0x39), (0x41, 0x46), (0x61, 0x66)]⟩
  | _ => none

end Property

namespace CodeSet

/-- The numbers of a word in which commas join them. -/
def readOrbit (orbit : List Nat) (cur : Nat) : List Char → List Nat
  | [] => cur :: orbit
  | c :: rest =>
    if c = ',' then readOrbit (cur :: orbit) 0 rest
    else readOrbit orbit (cur * 16 + (hexDigit c).getD 0) rest

/-- The sets of code points that differ in case only. -/
def caseOrbits : List (List Nat) := (words Table.caseOrbits).map (readOrbit [] 0)

/-- The set with every code point that differs from a member in case only. -/
def foldCase (s : CodeSet) : CodeSet :=
  let orbits := caseOrbits.filter (·.any s.contains)
  ofRanges (s.ranges ++ orbits.flatten.map fun c => (c, c))

/-- The same for ASCII letters alone. -/
def foldCaseAscii (s : CodeSet) : CodeSet :=
  let swapped := (List.range 26).flatMap fun i =>
    (if s.contains (0x41 + i) then [(0x61 + i, 0x61 + i)] else [])
      ++ (if s.contains (0x61 + i) then [(0x41 + i, 0x41 + i)] else [])
  ofRanges (s.ranges ++ swapped)

end CodeSet

end LogFollow.Pattern

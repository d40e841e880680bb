import SerialDialogue.Regex.Tree
import SerialDialogue.Unicode.Age
import SerialDialogue.Unicode.GeneralCategory
import SerialDialogue.Unicode.Script
import SerialDialogue.Unicode.Segmentation
import SerialDialogue.Unicode.BinaryProperty
import SerialDialogue.Unicode.CharSet

/-!
# The characters of a class

What the named classes of a regular expression stand for: the letter classes in their
Unicode and their ASCII form, the named ASCII classes, and the character properties,
which are looked up by any of their names.
-/

namespace SerialDialogue

namespace Regex

open Unicode

def charRanges (ends : List (Char × Char)) : CharSet :=
  .ofRanges (ends.map fun (low, high) => (low.toNat, high.toNat))

def NamedClass.toSet : NamedClass → CharSet
  | .alnum => charRanges [('0', '9'), ('A', 'Z'), ('a', 'z')]
  | .alpha => charRanges [('A', 'Z'), ('a', 'z')]
  | .ascii => charRanges [('\x00', '\x7f')]
  | .blank => charRanges [('\t', '\t'), (' ', ' ')]
  | .cntrl => charRanges [('\x00', '\x1f'), ('\x7f', '\x7f')]
  | .digit => charRanges [('0', '9')]
  | .graph => charRanges [('!', '~')]
  | .lower => charRanges [('a', 'z')]
  | .print => charRanges [(' ', '~')]
  | .punct => charRanges [('!', '/'), (':', '@'), ('[', '\x60'), ('\x7b', '~')]
  | .space => charRanges [('\t', '\r'), (' ', ' ')]
  | .upper => charRanges [('A', 'Z')]
  | .word => charRanges [('0', '9'), ('A', 'Z'), ('_', '_'), ('a', 'z')]
  | .xdigit => charRanges [('0', '9'), ('A', 'F'), ('a', 'f')]

/-! ## Properties -/

/-- A property name as it is looked up: without separators, in lower case, without a
leading `is`. -/
def normalizeName (name : String) : String :=
  let chars := name.toList
  let (isForm, chars) :=
    match chars with
    | first :: second :: rest =>
        if first.toLower = 'i' ∧ second.toLower = 's' then (true, rest) else (false, chars)
    | _ => (false, chars)
  let kept := chars.filter fun c => c.toNat < 0x80 && c != ' ' && c != '_' && c != '-'
  let lowered := String.ofList (kept.map Char.toLower)
  if isForm ∧ lowered = "c" then "isc" else lowered

/-- The categories that are unions of two-letter ones. -/
def groupedCategories : List (List String × List String) :=
  [ (["c", "other"], ["cc", "cf", "cn", "co", "cs"]),
    (["l", "letter"], ["ll", "lm", "lo", "lt", "lu"]),
    (["lc", "casedletter"], ["ll", "lt", "lu"]),
    (["m", "mark", "combiningmark"], ["mc", "me", "mn"]),
    (["n", "number"], ["nd", "nl", "no"]),
    (["p", "punctuation", "punct"], ["pc", "pd", "pe", "pf", "pi", "po", "ps"]),
    (["s", "symbol"], ["sc", "sk", "sm", "so"]),
    (["z", "separator"], ["zl", "zp", "zs"]) ]

/-- The union of general categories, given by their two-letter names. -/
def categories (names : List String) : CharSet :=
  .unions (names.map (Property.setOf generalCategories))

/-- The characters of a general category, or of one of the three pseudo-categories.
Surrogates are no characters, so their category cannot be asked for. -/
def categorySet? (name : String) : Option CharSet :=
  if name = "any" then some .full
  else if name = "assigned" then some (categories ["cn"]).complement
  else if name = "ascii" then some NamedClass.ascii.toSet
  else if name = "cs" ∨ name = "surrogate" then none
  else
    match groupedCategories.find? (·.1.contains name) with
    | some group => some (categories group.2)
    | none => (Property.find? generalCategories name).map Property.toSet

/-- Names that look like a property but mean a category. -/
def categoryFirst : List String :=
  ["cf", "sc", "lc"]

/-- The characters of a property that is asked for by one name: a binary property, a
general category or a script. -/
def namedSet? (name : String) : Option CharSet :=
  let binary :=
    if categoryFirst.contains name then none
    else (Property.find? binaryProperties name).map Property.toSet
  binary.orElse fun _ =>
    (categorySet? name).orElse fun _ => (Property.find? scripts name).map Property.toSet

/-- The characters that a version of the standard has, with those of all versions
before it. -/
def ageSet? (version : String) : Option CharSet :=
  (ages.findIdx? (·.names.contains version)).map fun place =>
    .unions ((ages.take (place + 1)).map Property.toSet)

/-- The properties whose values have tables, under their names. -/
def valuedProperties : List (List String × List Property) :=
  [ (["sc", "script"], scripts),
    (["scx", "scriptextensions"], scriptExtensions),
    (["gcb", "graphemeclusterbreak"], graphemeClusterBreaks),
    (["wb", "wordbreak"], wordBreaks),
    (["sb", "sentencebreak"], sentenceBreaks) ]

/-- The characters of a property that is asked for by name and value. -/
def valuedSet? (name value : String) : Option CharSet :=
  if name = "gc" ∨ name = "generalcategory" then categorySet? value
  else if name = "age" then ageSet? value
  else do
    let (_, table) ← valuedProperties.find? (·.1.contains name)
    let property ← Property.find? table value
    return property.toSet

def PropertyQuery.toSet? : PropertyQuery → Option CharSet
  | .named name => namedSet? (normalizeName name)
  | .valued name value => valuedSet? (normalizeName name) (normalizeName value)

/-! ## Letter classes -/

def digitSet : CharSet :=
  categories ["nd"]

def spaceSet : CharSet :=
  Property.setOf binaryProperties "whitespace"

/-- Word characters: alphabetic ones, marks, decimal digits, connectors and joiners. -/
def wordSet : CharSet :=
  .unions
    [ Property.setOf binaryProperties "alphabetic",
      categories ["mc", "me", "mn", "nd", "pc"],
      Property.setOf binaryProperties "joincontrol" ]

/-- The characters of a letter class, in Unicode or in ASCII only. -/
def LetterClass.toSet (unicode : Bool) : LetterClass → CharSet
  | .digit => if unicode then digitSet else NamedClass.digit.toSet
  | .space => if unicode then spaceSet else NamedClass.space.toSet
  | .word => if unicode then wordSet else NamedClass.word.toSet

def isAsciiWord (c : Char) : Bool :=
  c.isAlphanum || c = '_'

def isWord (c : Char) : Bool :=
  if c.toNat < 0x80 then isAsciiWord c else wordSet.has c

end Regex

end SerialDialogue

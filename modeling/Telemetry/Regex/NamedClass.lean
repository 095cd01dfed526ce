import Telemetry.Regex.CharClass
import Telemetry.Regex.Segmentation
import Telemetry.Regex.Unicode.Age
import Telemetry.Regex.Unicode.Script

/-!
# Classes by name

The classes of Unicode properties that a pattern names: binary properties, general categories,
scripts, ages and the values of segmentation. Case, blanks, hyphens, underscores and a leading `is`
do not count in a name.

## Main definitions

- `CharClass.property?` — the class written `\p{name}`
- `CharClass.propertyValue?` — the class written `\p{name=value}`
-/

namespace Telemetry.CharClass

-- ════════════════════════════════════════════════════════════════════════
-- Categories, scripts and ages
-- ════════════════════════════════════════════════════════════════════════

/-- The general categories that are unions of others. -/
def compoundCategories : List (List String × List String) :=
  [(["l", "letter"], ["lu", "ll", "lt", "lm", "lo"]),
   (["lc", "casedletter"], ["lu", "ll", "lt"]),
   (["m", "mark", "combiningmark"], ["mn", "mc", "me"]),
   (["n", "number"], ["nd", "nl", "no"]),
   (["p", "punct", "punctuation"], ["pc", "pd", "ps", "pe", "pi", "pf", "po"]),
   (["s", "symbol"], ["sm", "sc", "sk", "so"]),
   (["z", "separator"], ["zs", "zl", "zp"])]

/-- The class of a general category. -/
def category? (name : String) : Option CharSet :=
  if name == "any" then some .all
  else if name == "ascii" then some (.ofRanges [(0, 0x7F)])
  else if name == "assigned" then some (categories assignedCategories)
  else if name == "cn" || name == "unassigned" then some (unassigned ())
  else if name == "c" || name == "other" then
    some ((unassigned ()).union (categories ["cc", "cf", "co"]))
  else
    match compoundCategories.find? fun r => r.1.contains name with
    | some r => some (categories r.2)
    | none => row? Unicode.categories name

/-- The class of a script, by the one script that a character has. -/
def script? (name : String) : Option CharSet :=
  row? Unicode.scripts name

/-- The class of a script, by all the scripts that use a character. -/
def scriptExtension? (name : String) : Option CharSet :=
  (Unicode.scripts.find? fun r => r.1.contains name).map fun r =>
    let short := r.1.head?.getD name
    let (mine, others) := Unicode.scriptExtensions.partition fun e => e.1.contains short
    let ranges (rows : List (List String × String)) : CharSet :=
      .ofRanges (rows.flatMap fun e => (CharSet.parse e.2).ranges)
    ((CharSet.parse r.2).diff (ranges others)).union (ranges mine)

/-- The class of an age: the code points that a version or an earlier one added. -/
def age? (name : String) : Option CharSet :=
  let earlier := Unicode.ages.takeWhile fun r => !r.1.contains name
  (row? Unicode.ages name).map fun s =>
    .ofRanges (s.ranges ++ earlier.flatMap fun r => (CharSet.parse r.2).ranges)

-- ════════════════════════════════════════════════════════════════════════
-- Properties
-- ════════════════════════════════════════════════════════════════════════

/-- A property name as the tables spell it: without a leading `is`, in lower case, and without
    blanks, hyphens, underscores and characters beyond ASCII. The lone letter `c` is not what is
    left of the name `isc`. -/
def normalName (t : Text) : String :=
  let lower := t.map Char.toLower
  let marked := ['i', 's'].isPrefixOf lower
  let kept := (if marked then lower.drop 2 else lower).filter fun c =>
    c.toNat < 0x80 && c != ' ' && c != '-' && c != '_'
  String.ofList (if marked && kept == ['c'] then ['i', 's', 'c'] else kept)

/-- The set of a definition with a given name. -/
def defined? (table : List (List String × (Unit → CharSet))) (name : String) : Option CharSet :=
  (table.find? fun r => r.1.contains name).map fun r => r.2 ()

/-- The class of a binary property. -/
def binary? (name : String) : Option CharSet :=
  (defined? derived name).or (row? Unicode.properties name)

/-- The class written `\p{name}`: a binary property, a general category or a script. -/
def property? (name : Text) : Option CharSet :=
  let n := normalName name
  ((binary? n).or (category? n)).or (script? n)

/-- The class written `\p{name=value}`. -/
def propertyValue? (name value : Text) : Option CharSet :=
  let n := normalName name
  let v := normalName value
  if n == "gc" || n == "generalcategory" then category? v
  else if n == "sc" || n == "script" then script? v
  else if n == "scx" || n == "scriptextensions" then scriptExtension? v
  else if n == "age" then age? v
  else if n == "gcb" || n == "graphemeclusterbreak" then defined? graphemeBreaks v
  else if n == "wb" || n == "wordbreak" then defined? wordBreaks v
  else if n == "sb" || n == "sentencebreak" then defined? sentenceBreaks v
  else none

end Telemetry.CharClass

import Telemetry.Regex.CharSet
import Telemetry.Regex.Unicode.CaseFold
import Telemetry.Regex.Unicode.Category
import Telemetry.Regex.Unicode.Property
import Telemetry.Text.Blank

/-!
# Character classes

The sets of characters on which the classes of patterns rest: digits, blanks and word characters,
the POSIX classes, and the derived properties of Unicode. A derived property is the union of
categories and single contributions by which Unicode defines it.

## Main definitions

- `CharClass.categories`, `CharClass.listed` — general categories and independent properties
- `CharClass.derived` — the properties that are defined through others
- `CharClass.decimalDigit`, `CharClass.blank`, `CharClass.word` — what `\d`, `\s` and `\w` stand for
- `CharClass.posix?` — the classes written `[:name:]`
- `CharClass.foldCase` — a set with all case variants of its members
-/

namespace Telemetry.CharClass

-- ════════════════════════════════════════════════════════════════════════
-- Look-up in the tables
-- ════════════════════════════════════════════════════════════════════════

/-- The set of the row with a given name. -/
def row? (table : List (List String × String)) (name : String) : Option CharSet :=
  (table.find? fun r => r.1.contains name).map fun r => CharSet.parse r.2

/-- The characters of any of some general categories. -/
def categories (names : List String) : CharSet :=
  CharSet.ofRanges (names.flatMap fun n => ((row? Unicode.categories n).getD .empty).ranges)

/-- The characters of a table text and of any of some general categories. -/
def withCategories (names : List String) (table : String) : CharSet :=
  (categories names).union (.parse table)

/-- The set of a row among the independent properties. -/
def listed (name : String) : CharSet :=
  (row? Unicode.properties name).getD .empty

/-- The names of all single categories of assigned characters. -/
def assignedCategories : List String :=
  Unicode.categories.filterMap fun r => r.1.head?

/-- The code points that no category holds. -/
def unassigned : Unit → CharSet := fun _ => (categories assignedCategories).compl

-- ════════════════════════════════════════════════════════════════════════
-- Derived properties
-- ════════════════════════════════════════════════════════════════════════

/-- The property `Uppercase`. -/
def uppercase : Unit → CharSet := fun _ => withCategories ["lu"] Unicode.otherUppercase

/-- The property `Lowercase`. -/
def lowercase : Unit → CharSet := fun _ => withCategories ["ll"] Unicode.otherLowercase

/-- The property `Cased`. -/
def cased : Unit → CharSet :=
  fun _ => ((uppercase ()).union (lowercase ())).union (categories ["lt"])

/-- The property `Alphabetic`. -/
def alphabetic : Unit → CharSet := fun _ =>
  (cased ()).union (withCategories ["lm", "lo", "nl"] Unicode.otherAlphabetic)

/-- The property `Math`. -/
def math : Unit → CharSet := fun _ => withCategories ["sm"] Unicode.otherMath

/-- The property `Grapheme_Extend`. -/
def graphemeExtend : Unit → CharSet := fun _ =>
  withCategories ["mn", "me"] Unicode.otherGraphemeExtend

/-- The characters that are reserved for the syntax of patterns. -/
def patternCharacters : Unit → CharSet := fun _ => (listed "patsyn").union (listed "patws")

/-- The property `ID_Start`. -/
def identifierStart : Unit → CharSet := fun _ =>
  (withCategories ["lu", "ll", "lt", "lm", "lo", "nl"] Unicode.otherIdentifierStart).diff
    (patternCharacters ())

/-- The property `ID_Continue`. -/
def identifierPart : Unit → CharSet := fun _ =>
  ((identifierStart ()).union
    (withCategories ["mn", "mc", "nd", "pc"] Unicode.otherIdentifierPart)).diff
      (patternCharacters ())

/-- The property `Grapheme_Base`. -/
def graphemeBase : Unit → CharSet := fun _ =>
  (((unassigned ()).union (categories ["cc", "cf", "co", "zl", "zp"])).union
    (graphemeExtend ())).compl

/-- The property `Changes_When_Lowercased`. -/
def changedByLowering : Unit → CharSet := fun _ =>
  ((uppercase ()).union (categories ["lt"])).diff (.parse Unicode.keptByLowering)

/-- The property `Changes_When_Uppercased`. -/
def changedByRaising : Unit → CharSet := fun _ =>
  ((lowercase ()).union (categories ["lt"])).diff (.parse Unicode.keptByRaising)

/-- The property `Changes_When_Titlecased`. -/
def changedByTitling : Unit → CharSet := fun _ =>
  ((changedByRaising ()).diff (.parse Unicode.raisedButNotTitled)).union
    (.parse Unicode.titledButNotRaised)

/-- The property `Changes_When_Casemapped`. -/
def changedByMapping : Unit → CharSet := fun _ =>
  ((changedByLowering ()).union (changedByRaising ())).union (changedByTitling ())

/-- The property `Changes_When_Casefolded`. -/
def changedByFolding : Unit → CharSet := fun _ =>
  ((changedByLowering ()).diff (.parse Unicode.loweredButNotFolded)).union
    (.parse Unicode.foldedButNotLowered)

/-- The properties that are defined through others. -/
def derived : List (List String × (Unit → CharSet)) :=
  [(["upper", "uppercase"], uppercase), (["lower", "lowercase"], lowercase), (["cased"], cased),
   (["alpha", "alphabetic"], alphabetic), (["math"], math),
   (["grext", "graphemeextend"], graphemeExtend), (["grbase", "graphemebase"], graphemeBase),
   (["ids", "idstart"], identifierStart), (["idc", "idcontinue"], identifierPart),
   (["xids", "xidstart"],
     fun _ => (identifierStart ()).diff (.parse Unicode.notInitialAsIdentifier)),
   (["xidc", "xidcontinue"],
     fun _ => (identifierPart ()).diff (.parse Unicode.notInsideIdentifier)),
   (["cwl", "changeswhenlowercased"], changedByLowering),
   (["cwu", "changeswhenuppercased"], changedByRaising),
   (["cwt", "changeswhentitlecased"], changedByTitling),
   (["cwcm", "changeswhencasemapped"], changedByMapping),
   (["cwcf", "changeswhencasefolded"], changedByFolding),
   (["oupper", "otheruppercase"], fun _ => .parse Unicode.otherUppercase),
   (["olower", "otherlowercase"], fun _ => .parse Unicode.otherLowercase),
   (["oalpha", "otheralphabetic"], fun _ => .parse Unicode.otherAlphabetic),
   (["omath", "othermath"], fun _ => .parse Unicode.otherMath),
   (["ogrext", "othergraphemeextend"], fun _ => .parse Unicode.otherGraphemeExtend),
   (["oids", "otheridstart"], fun _ => .parse Unicode.otherIdentifierStart),
   (["oidc", "otheridcontinue"], fun _ => .parse Unicode.otherIdentifierPart)]

-- ════════════════════════════════════════════════════════════════════════
-- Short classes
-- ════════════════════════════════════════════════════════════════════════

/-- What `\d` stands for: the decimal digits of all scripts. -/
def decimalDigit : CharSet := categories ["nd"]

/-- What `\s` stands for: the blanks. -/
def blank : CharSet := CharSet.ofRanges Text.blankRanges

/-- What `\w` stands for: letters, marks, decimal digits, connectors and joiners. -/
def word : CharSet :=
  (alphabetic ()).union
    ((categories ["mn", "mc", "me", "nd", "pc"]).union (listed "joinc"))

/-- What `\d` stands for among ASCII characters. -/
def asciiDigit : CharSet := .ofRanges [(0x30, 0x39)]

/-- What `\s` stands for among ASCII characters. -/
def asciiBlank : CharSet := .ofRanges [(0x9, 0xD), (0x20, 0x20)]

/-- What `\w` stands for among ASCII characters. -/
def asciiWord : CharSet := .ofRanges [(0x30, 0x39), (0x41, 0x5A), (0x5F, 0x5F), (0x61, 0x7A)]

/-- The classes that are written `[:name:]`, all of ASCII characters. -/
def posixRanges : List (String × List (Nat × Nat)) :=
  [("alnum", [(0x30, 0x39), (0x41, 0x5A), (0x61, 0x7A)]),
   ("alpha", [(0x41, 0x5A), (0x61, 0x7A)]),
   ("ascii", [(0x00, 0x7F)]),
   ("blank", [(0x09, 0x09), (0x20, 0x20)]),
   ("cntrl", [(0x00, 0x1F), (0x7F, 0x7F)]),
   ("digit", [(0x30, 0x39)]),
   ("graph", [(0x21, 0x7E)]),
   ("lower", [(0x61, 0x7A)]),
   ("print", [(0x20, 0x7E)]),
   ("punct", [(0x21, 0x2F), (0x3A, 0x40), (0x5B, 0x60), (0x7B, 0x7E)]),
   ("space", [(0x09, 0x0D), (0x20, 0x20)]),
   ("upper", [(0x41, 0x5A)]),
   ("word", [(0x30, 0x39), (0x41, 0x5A), (0x5F, 0x5F), (0x61, 0x7A)]),
   ("xdigit", [(0x30, 0x39), (0x41, 0x46), (0x61, 0x66)])]

/-- The POSIX class of a name. -/
def posix? (name : String) : Option CharSet :=
  (posixRanges.find? fun e => e.1 == name).map fun e => .ofRanges e.2

-- ════════════════════════════════════════════════════════════════════════
-- Letter case
-- ════════════════════════════════════════════════════════════════════════

/-- The classes of code points that are equal up to case. -/
def caseClasses : List (List Nat) :=
  (Text.splitChar '|' Unicode.caseClasses.toList).filterMap fun piece =>
    match (Text.fields piece).map CharSet.hexadecimal with
    | [] => none
    | members => some members

/-- A set with all case variants of its members. -/
def foldCase (s : CharSet) : CharSet :=
  let index := s.index
  let hit := caseClasses.filter fun members =>
    members.any fun n => index.search n 0 index.ranges.size
  CharSet.ofRanges (s.ranges ++ hit.flatMap fun members => members.map fun n => (n, n))

/-- A set of ASCII characters with the other case of its letters. -/
def foldAsciiCase (s : CharSet) : CharSet :=
  let lower := (s.inter (.ofRanges [(0x61, 0x7A)])).ranges.map fun r => (r.1 - 32, r.2 - 32)
  let upper := (s.inter (.ofRanges [(0x41, 0x5A)])).ranges.map fun r => (r.1 + 32, r.2 + 32)
  CharSet.ofRanges (s.ranges ++ lower ++ upper)

end Telemetry.CharClass

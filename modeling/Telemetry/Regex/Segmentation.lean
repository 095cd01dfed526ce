import Telemetry.Regex.CharClass
import Telemetry.Regex.Unicode.Script

/-!
# Classes of segmentation

The values of the Unicode properties `Grapheme_Cluster_Break`, `Word_Break` and `Sentence_Break`, by
which a text is cut into what readers take for single characters, words and sentences. Most values
are defined through categories and other properties, and a few code points are listed.

## Main definitions

- `CharClass.graphemeBreaks`, `CharClass.wordBreaks`, `CharClass.sentenceBreaks` — the names and the
  sets of the values

## Design notes

A code point has one value of each property, so that a definition takes away what another value
claims. The value of all that no other value claims has no class, as is the rule for patterns.
-/

namespace Telemetry.CharClass

-- ════════════════════════════════════════════════════════════════════════
-- Grapheme clusters
-- ════════════════════════════════════════════════════════════════════════

/-- Code points that belong to the grapheme after them. -/
def prepended : String :=
  "600-605 6DD 70F 890-891 8E2 D4E 110BD 110CD 111C2-111C3 113D1 1193F 11941 11A84-11A89 11D46
   11F02"

/-- Spacing marks that start a grapheme of their own. -/
def detachedMarks : String :=
  "102B-102C 1038 1062-1064 1067-106D 1083 1087-108C 108F 109A-109C 1A61 1A63-1A64 AA7B AA7D
   11720-11721"

/-- Controls and unassigned code points without a shape, which stand apart from all others. -/
def isolated : Unit → CharSet := fun _ =>
  (((categories ["zl", "zp", "cc", "cf"]).union
    ((listed "di").inter (unassigned ()))).diff
      ((graphemeExtend ()).union (.parse prepended))).diff (.parse "A D 200D")

/-- The syllables of Hangul that have no final consonant: one in each row of 28. -/
def openSyllables : CharSet :=
  .ofRanges ((List.range 399).map fun k => (0xAC00 + 28 * k, 0xAC00 + 28 * k))

/-- The values of `Grapheme_Cluster_Break`. -/
def graphemeBreaks : List (List String × (Unit → CharSet)) :=
  [(["cr"], fun _ => .parse "D"), (["lf"], fun _ => .parse "A"),
   (["zwj"], fun _ => .parse "200D"),
   (["cn", "control"], isolated),
   (["ex", "extend"], fun _ => (graphemeExtend ()).union (listed "emod")),
   (["pp", "prepend"], fun _ => .parse prepended),
   (["sm", "spacingmark"], fun _ =>
     (((categories ["mc"]).diff (graphemeExtend ())).diff (.parse detachedMarks)).union
       (.parse "E33 EB3")),
   (["ri", "regionalindicator"], fun _ => listed "ri"),
   (["l"], fun _ => .parse "1100-115F A960-A97C"),
   (["v"], fun _ => .parse "1160-11A7 D7B0-D7C6 16D63 16D67-16D6A"),
   (["t"], fun _ => .parse "11A8-11FF D7CB-D7FB"),
   (["lv"], fun _ => openSyllables),
   (["lvt"], fun _ => (CharSet.parse "AC00-D7A3").diff openSyllables)]

-- ════════════════════════════════════════════════════════════════════════
-- Words
-- ════════════════════════════════════════════════════════════════════════

/-- Letters of scripts that write no breaks between words. -/
def unbrokenLetters : String :=
  "E01-E30 E32-E33 E40-E46 E81-E82 E84 E86-E8A E8C-EA3 EA5 EA7-EB0 EB2-EB3 EBD EC0-EC4 EC6 EDC-EDF
   1000-102A 103F 1050-1055 105A-105D 1061 1065-1066 106E-1070 1075-1081 108E 1780-17B3 17D7 17DC
   1950-196D 1970-1974 1980-19AB 19B0-19C9 1A20-1A54 1AA7 A9E0-A9E4 A9E6-A9EF A9FA-A9FE AA60-AA76
   AA7A AA7E-AAAF AAB1 AAB5-AAB6 AAB9-AABD AAC0 AAC2 AADB-AADD 11700-1171A 11740-11746"

/-- Code points inside words that are not alphabetic. -/
def otherWordLetters : String :=
  "B8 2C2-2C5 2D2-2D7 2DE-2DF 2E5-2EB 2ED 2EF-2FF 55A-55C 55E 58A 5F3 70F A708-A716 A720-A721
   A789-A78A AB5B"

/-- What may follow a letter of a word as a part of it. -/
def wordExtend : Unit → CharSet := fun _ =>
  ((graphemeExtend ()).union (categories ["mc"])).union (listed "emod")

/-- The letters of the Hebrew script. -/
def hebrewLetters : Unit → CharSet := fun _ =>
  ((row? Unicode.scripts "hebr").getD .empty).inter (categories ["lo"])

/-- The characters of Katakana with those that it shares. -/
def katakana : Unit → CharSet := fun _ =>
  ((row? Unicode.scripts "kana").getD .empty).union (.parse "3031-3035 309B-309C 30A0 30FC FF70")

/-- The letters of words in scripts that write breaks between them. -/
def wordLetters : Unit → CharSet := fun _ =>
  ((alphabetic ()).diff
    (((listed "ideo").union ((row? Unicode.scripts "hira").getD .empty)).union
      ((((wordExtend ()).union (hebrewLetters ())).union (katakana ())).union
        (.parse unbrokenLetters)))).union (.parse otherWordLetters)

/-- Marks that stand before a number and span its digits. -/
def numberMarks : Unit → CharSet := fun _ => (listed "pcm").diff (.parse "70F")

/-- The values of `Word_Break`. -/
def wordBreaks : List (List String × (Unit → CharSet)) :=
  [(["cr"], fun _ => .parse "D"), (["lf"], fun _ => .parse "A"),
   (["nl", "newline"], fun _ => .parse "B-C 85 2028-2029"),
   (["zwj"], fun _ => .parse "200D"),
   (["wsegspace"], fun _ => .parse "20 1680 2000-2006 2008-200A 205F 3000"),
   (["sq", "singlequote"], fun _ => .parse "27"), (["dq", "doublequote"], fun _ => .parse "22"),
   (["mb", "midnumlet"], fun _ => .parse "2E 2018-2019 2024 FE52 FF07 FF0E"),
   (["ml", "midletter"], fun _ => .parse "3A B7 387 55F 5F4 2027 FE13 FE55 FF1A"),
   (["mn", "midnum"], fun _ =>
     .parse "2C 3B 37E 589 60C-60D 66C 7F8 2044 FE50 FE54 FF0C FF1B"),
   (["extend"], wordExtend),
   (["fo", "format"], fun _ =>
     ((categories ["cf"]).diff ((listed "pcm").union (graphemeExtend ()))).diff
       (.parse "200B 200D")),
   (["nu", "numeric"], fun _ =>
     ((categories ["nd"]).union (numberMarks ())).union (.parse "66B 19DA")),
   (["ex", "extendnumlet"], fun _ => withCategories ["pc"] "202F"),
   (["ri", "regionalindicator"], fun _ => listed "ri"),
   (["ka", "katakana"], katakana),
   (["hl", "hebrewletter"], hebrewLetters),
   (["le", "aletter"], wordLetters)]

-- ════════════════════════════════════════════════════════════════════════
-- Sentences
-- ════════════════════════════════════════════════════════════════════════

/-- Capitals that may start a sentence. Those of Georgian write whole words and start none. -/
def sentenceUpper : Unit → CharSet := fun _ =>
  ((uppercase ()).union (categories ["lt"])).diff (.parse "1C90-1CBA 1CBD-1CBF")

/-- Small letters, which start no sentence. -/
def sentenceLower : Unit → CharSet := fun _ =>
  ((lowercase ()).diff (graphemeExtend ())).diff (.parse "10D0-10FA 10FD-10FF")

/-- What may follow a character of a sentence as a part of it. -/
def sentenceExtend : Unit → CharSet := fun _ =>
  ((graphemeExtend ()).union (categories ["mc"])).union (.parse "200D")

/-- Full stops that also end abbreviations. -/
def ambiguousStops : String := "2E 2024 FE52 FF0E"

/-- Line ends other than carriage return and line feed. -/
def lineSeparators : String := "85 2028-2029"

/-- The values of `Sentence_Break`. -/
def sentenceBreaks : List (List String × (Unit → CharSet)) :=
  [(["cr"], fun _ => .parse "D"), (["lf"], fun _ => .parse "A"),
   (["se", "sep"], fun _ => .parse lineSeparators),
   (["sp"], fun _ => ((listed "space").diff (.parse lineSeparators)).diff (.parse "A D")),
   (["ex", "extend"], sentenceExtend),
   (["fo", "format"], fun _ =>
     (categories ["cf"]).diff ((numberMarks ()).union (sentenceExtend ()))),
   (["lo", "lower"], sentenceLower), (["up", "upper"], sentenceUpper),
   (["le", "oletter"], fun _ =>
     ((alphabetic ()).union (.parse "5F3")).diff
       (((sentenceLower ()).union (sentenceUpper ())).union (sentenceExtend ()))),
   (["nu", "numeric"], fun _ =>
     ((categories ["nd"]).union (numberMarks ())).union (.parse "66B-66C 19DA")),
   (["at", "aterm"], fun _ => .parse ambiguousStops),
   (["st", "sterm"], fun _ => (listed "sterm").diff (.parse ambiguousStops)),
   (["cl", "close"], fun _ =>
     withCategories ["ps", "pe", "pi", "pf"]
       "22 27 275B-2760 2E00-2E01 2E06-2E08 2E0B 1F676-1F678"),
   (["sc", "scontinue"], fun _ =>
     .parse
       "2C-2D 3A-3B 37E 55D 60C-60D 7F8 1802 1808 2013-2014 3001 FE10-FE11 FE13-FE14 FE31-FE32
        FE50-FE51 FE54-FE55 FE58 FE63 FF0C-FF0D FF1A-FF1B FF64")]

end Telemetry.CharClass

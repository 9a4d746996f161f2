import TermSearch.Regex.CharSet
import TermSearch.Unicode.Category
import TermSearch.Unicode.Property
import TermSearch.Unicode.Script

/-!
# Break properties

What a character does to the breaks in a text: between what is seen as one character (`graphemeBreak?`), between words
(`wordBreak?`) and between sentences (`sentenceBreak?`). There are no tables of these values. Each value is told from
categories, scripts and other properties by its rule in the standard, and a character of several rules has the value
that is left to it by the differences.
-/

namespace TermSearch.Regex

open Unicode

/-- The set that the lines of a table write. -/
def CharSet.ofLines (lines : List String) : CharSet := .ranges (.ofLines lines)

/-- The characters of a script. -/
def scriptChars (name : String) : CharSet := (Script.named? name).elim .none .ranges

/-- The characters that go with the one before them. -/
def graphemeExtend : CharSet :=
  .ofTables [Category.nonspacingMark, Category.enclosingMark, Property.otherGraphemeExtend]

/-- The signs for skin tones. -/
def emojiModifier : CharSet := .ofLines ["1F3FB-1F3FF"]

/-- The letters that write flags in pairs. -/
def regionalIndicator : CharSet := .ofLines ["1F1E6-1F1FF"]

/-! ## Graphemes -/

namespace GraphemeBreak

def extend : CharSet := .union graphemeExtend emojiModifier

def control : CharSet :=
  .minus
    (.ofTables [Category.lineSeparator, Category.paragraphSeparator, Category.control, Category.format,
      Property.reservedIgnorable])
    (.unions [.ofLines ["A D 200C-200D"], .ranges Property.prependedConcatenation, graphemeExtend])

/-- Signs that go with the character after them. -/
def prepend : CharSet :=
  .union (.ranges Property.prependedConcatenation)
    (.ofLines ["D4E 111C2-111C3 113D1 1193F 11941 11A3A 11A84-11A89 11D46 11F02"])

def spacingMark : CharSet :=
  .minus (.union (.ranges Category.spacingMark) (.ofLines ["E33 EB3"]))
    (.union extend
      (.ofLines ["102B-102C 1038 1062-1064 1067-106D 1083 1087-108C 108F 109A-109C 1A61 1A63-1A64 AA7B AA7D",
        "11720-11721"]))

/-- The first syllable of each run of Hangul syllables with the same beginning. -/
def openSyllable : CharSet := .ranges ⟨(List.range 399).map fun k => (0xac00 + 28 * k, 0xac00 + 28 * k)⟩

def closedSyllable : CharSet := .minus (.ofLines ["AC00-D7A3"]) openSyllable

end GraphemeBreak

/-- The characters with a value of Grapheme_Cluster_Break. -/
def graphemeBreak? : String → Option CharSet
  | "cn" | "control" => some GraphemeBreak.control
  | "cr" => some (.single '\r')
  | "ex" | "extend" => some GraphemeBreak.extend
  | "l" => some (.ofLines ["1100-115F A960-A97C"])
  | "lf" => some (.single '\n')
  | "lv" => some GraphemeBreak.openSyllable
  | "lvt" => some GraphemeBreak.closedSyllable
  | "pp" | "prepend" => some GraphemeBreak.prepend
  | "ri" | "regionalindicator" => some regionalIndicator
  | "sm" | "spacingmark" => some GraphemeBreak.spacingMark
  | "t" => some (.ofLines ["11A8-11FF D7CB-D7FB"])
  | "v" => some (.ofLines ["1160-11A7 D7B0-D7C6 16D63 16D67-16D6A"])
  | "zwj" => some (.ofLines ["200D"])
  | _ => none

/-! ## Words -/

namespace WordBreak

def extend : CharSet :=
  .minus (.unions [graphemeExtend, .ranges Category.spacingMark, emojiModifier]) (.ofLines ["200D"])

/-- Signs in front of numbers are numeric, and the sign of a Syriac abbreviation is a letter. -/
def format : CharSet :=
  .minus (.ranges Category.format)
    (.unions [.ofLines ["200B-200D"], .ranges Property.prependedConcatenation, graphemeExtend])

def hebrewLetter : CharSet := .inter (scriptChars "hebrew") (.ranges Category.otherLetter)

def katakana : CharSet := .union (scriptChars "katakana") (.ofLines ["3031-3035 309B-309C 30A0 30FC FF70"])

def letter : CharSet :=
  .minus
    (.union (.ranges Property.alphabetic)
      (.ofLines ["2C2-2C5 2D2-2D7 2DE-2DF 2E5-2EB 2ED 2EF-2FF 55A-55C 55E 58A 5F3 70F A708-A716 A720-A721 A789-A78A",
        "AB5B"]))
    (.unions [.ranges Property.ideographic, katakana, .ranges Property.complexContext, scriptChars "hiragana", extend,
      hebrewLetter])

def numeric : CharSet :=
  .unions [.ranges Category.decimalNumber, .ofLines ["66B 19DA"],
    .minus (.ranges Property.prependedConcatenation) (.ofLines ["70F"])]

/-- Blanks that do not hold together what they stand between. -/
def blank : CharSet := .minus (.ranges Category.spaceSeparator) (.ofLines ["A0 2007 202F"])

end WordBreak

/-- The characters with a value of Word_Break. -/
def wordBreak? : String → Option CharSet
  | "cr" => some (.single '\r')
  | "dq" | "doublequote" => some (.single '"')
  | "ex" | "extendnumlet" => some (.union (.ranges Category.connectorPunctuation) (.ofLines ["202F"]))
  | "extend" => some WordBreak.extend
  | "fo" | "format" => some WordBreak.format
  | "hl" | "hebrewletter" => some WordBreak.hebrewLetter
  | "ka" | "katakana" => some WordBreak.katakana
  | "le" | "aletter" => some WordBreak.letter
  | "lf" => some (.single '\n')
  | "mb" | "midnumlet" => some (.ofLines ["2E 2018-2019 2024 FE52 FF07 FF0E"])
  | "ml" | "midletter" => some (.ofLines ["3A B7 387 55F 5F4 2027 FE13 FE55 FF1A"])
  | "mn" | "midnum" => some (.ofLines ["2C 3B 37E 589 60C-60D 66C 7F8 2044 FE10 FE14 FE50 FE54 FF0C FF1B"])
  | "nl" | "newline" => some (.ofLines ["B-C 85 2028-2029"])
  | "nu" | "numeric" => some WordBreak.numeric
  | "ri" | "regionalindicator" => some regionalIndicator
  | "sq" | "singlequote" => some (.ofLines ["27"])
  | "wsegspace" => some WordBreak.blank
  | "zwj" => some (.ofLines ["200D"])
  | _ => none

/-! ## Sentences -/

namespace SentenceBreak

def extend : CharSet := .unions [graphemeExtend, .ofLines ["200D"], .ranges Category.spacingMark]

def format : CharSet :=
  .minus (.ranges Category.format)
    (.unions [.ofLines ["200C-200D"], .minus (.ranges Property.prependedConcatenation) (.ofLines ["70F"]),
      graphemeExtend])

def separator : CharSet := .ofLines ["85 2028-2029"]

def blank : CharSet := .minus (.ranges Property.whiteSpace) (.union separator (.ofLines ["A D"]))

def lower : CharSet :=
  .minus (.ranges Property.lowercase) (.union graphemeExtend (.ofLines ["10D0-10FA 10FD-10FF"]))

def upper : CharSet :=
  .minus (.ofTables [Property.uppercase, Category.titlecaseLetter]) (.ofLines ["1C90-1CBA 1CBD-1CBF"])

def otherLetter : CharSet :=
  .minus (.union (.ranges Property.alphabetic) (.ofLines ["5F3"])) (.unions [lower, upper, extend])

def numeric : CharSet := .union WordBreak.numeric (.ofLines ["66C"])

/-- The end of a sentence or of an abbreviation. -/
def fullStop : CharSet := .ofLines ["2E 2024 FE52 FF0E"]

/-- Signs within a sentence. -/
def continues : CharSet :=
  .ofLines ["2C-2D 3A-3B 37E 55D 60C-60D 7F8 1802 1808 2013-2014 3001 FE10-FE11 FE13-FE14 FE31-FE32 FE50-FE51",
    "FE54-FE55 FE58 FE63 FF0C-FF0D FF1A-FF1B FF64"]

def terminal : CharSet := .minus (.ranges Property.sentenceTerminal) fullStop

/-- Brackets and quotation marks. -/
def close : CharSet :=
  .minus (.ofTables [Category.openPunctuation, Category.closePunctuation, Property.quotation])
    (.unions [.ofLines ["5F3"], fullStop, terminal, continues])

end SentenceBreak

/-- The characters with a value of Sentence_Break. -/
def sentenceBreak? : String → Option CharSet
  | "at" | "aterm" => some SentenceBreak.fullStop
  | "cl" | "close" => some SentenceBreak.close
  | "cr" => some (.single '\r')
  | "ex" | "extend" => some SentenceBreak.extend
  | "fo" | "format" => some SentenceBreak.format
  | "le" | "oletter" => some SentenceBreak.otherLetter
  | "lf" => some (.single '\n')
  | "lo" | "lower" => some SentenceBreak.lower
  | "nu" | "numeric" => some SentenceBreak.numeric
  | "sc" | "scontinue" => some SentenceBreak.continues
  | "se" | "sep" => some SentenceBreak.separator
  | "sp" => some SentenceBreak.blank
  | "st" | "sterm" => some SentenceBreak.terminal
  | "up" | "upper" => some SentenceBreak.upper
  | _ => none

end TermSearch.Regex

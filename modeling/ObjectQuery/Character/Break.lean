import ObjectQuery.Character.Script
import ObjectQuery.Character.Trait

/-!
# Where text breaks

Three properties tell how a character takes part in the division of text into graphemes, words and
sentences. Each has a value for every character; the value of those that matter to no rule has no
set.
-/

namespace ObjectQuery.Character

open Category

/-! ## Graphemes -/

namespace Grapheme

/-- A character that extends the grapheme before. -/
def extend : CharSet := Trait.graphemeExtend ∪ Trait.emojiModifier

/-- A control, or whatever else stands alone. -/
def control : CharSet :=
  (cc ∪ cf ∪ zl ∪ zp ∪ (unassigned ∩ Trait.defaultIgnorable)) \
    (Trait.prependedConcatenationMark ∪ .ofText "a d 200c-200d e0020-e007f")

/-- A mark that takes space. -/
def spacingMark : CharSet :=
  (mc ∪ .ofText "e33 eb3") \ (extend ∪ .ofLines [
    "102b-102c 1038 1062-1064 1067-106d 1083 1087-108c 108f 109a-109c 1a61 1a63-1a64 aa7b aa7d",
    "11720-11721"])

/-- A syllable of Hangul without final consonant: every twenty-eighth, nineteen times twenty-one. -/
def openSyllable : CharSet := .ofPoints ((List.range 399).map (fun i => 0xac00 + 28 * i))

/-- Any other syllable of Hangul. -/
def closedSyllable : CharSet := .range 0xac00 0xd7a3 \ openSyllable

/-- The values by their names, each name in its normal form. -/
def named : List (String × CharSet) := [
  ("cr", .ofText "d"),
  ("cn control", control),
  ("ex extend", extend),
  ("l", .ofText "1100-115f a960-a97c"),
  ("lf", .ofText "a"),
  ("lv", openSyllable),
  ("lvt", closedSyllable),
  ("pp prepend", .ofLines [
    "600-605 6dd 70f 890-891 8e2 d4e 110bd 110cd 111c2-111c3 113d1 1193f 11941 11a3a 11a84-11a89",
    "11d46 11f02"]),
  ("ri regionalindicator", Trait.regionalIndicator),
  ("sm spacingmark", spacingMark),
  ("t", .ofText "11a8-11ff d7cb-d7fb"),
  ("v", .ofText "1160-11a7 d7b0-d7c6 16d63 16d67-16d6a"),
  ("zwj", .ofText "200d")]

end Grapheme

/-! ## Sentences -/

namespace Sentence

/-- A character that extends the one before. -/
def extend : CharSet := Trait.graphemeExtend ∪ mc ∪ .ofText "200d"

/-- Marks that stand before a number, the abbreviation mark apart. -/
def numberSign : CharSet := Trait.prependedConcatenationMark \ .ofText "70f"

/-- A format character. -/
def format : CharSet := cf \ (numberSign ∪ .ofText "200c-200d e0020-e007f")

/-- A small letter. -/
def lower : CharSet := Trait.lowercase \ (Trait.graphemeExtend ∪ .ofText "10d0-10fa 10fd-10ff")

/-- A capital. -/
def upper : CharSet := (Trait.uppercase ∪ lt) \ .ofText "1c90-1cba 1cbd-1cbf"

/-- Any other letter. -/
def otherLetter : CharSet := (Trait.alphabetic \ (lower ∪ upper ∪ extend)) ∪ .ofText "5f3"

/-- A digit, or what belongs to a number. -/
def numeric : CharSet := nd ∪ numberSign ∪ .ofText "66b-66c 19da"

/-- A bracket or quotation mark. -/
def closing : CharSet :=
  (ps ∪ pe ∪ pi ∪ pf ∪ Trait.quotationMark ∪
    .ofText "275b-2760 2e00-2e01 2e06-2e08 2e0b 1f676-1f678") \ .ofText "ff02 ff07"

/-- The values by their names, each name in its normal form. -/
def named : List (String × CharSet) := [
  ("at aterm", .ofText "2e 2024 fe52 ff0e"),
  ("cr", .ofText "d"),
  ("cl close", closing),
  ("ex extend", extend),
  ("fo format", format),
  ("lf", .ofText "a"),
  ("lo lower", lower),
  ("nu numeric", numeric),
  ("le oletter", otherLetter),
  ("sc scontinue", .ofLines [
    "2c-2d 3a-3b 37e 55d 60c-60d 7f8 1802 1808 2013-2014 3001 fe10-fe11 fe13-fe14 fe31-fe32",
    "fe50-fe51 fe54-fe55 fe58 fe63 ff0c-ff0d ff1a-ff1b ff64"]),
  ("st sterm", Trait.sentenceTerminal \ .ofText "2e 2024 fe52 ff0e"),
  ("se sep", .ofText "85 2028-2029"),
  ("sp", Trait.whiteSpace \ .ofText "a d 85 2028-2029"),
  ("up upper", upper)]

end Sentence

/-! ## Words -/

namespace Word

/-- The characters of a script. -/
def ofScript (name : String) : CharSet := (Script.named? name).getD .empty

/-- A character that extends the one before. -/
def extend : CharSet := Trait.graphemeExtend ∪ mc ∪ Trait.emojiModifier

/-- A sign of Katakana. -/
def katakana : CharSet := ofScript "katakana" ∪ .ofText "3031-3035 309b-309c 30a0 30fc ff70"

/-- A letter of Hebrew. -/
def hebrewLetter : CharSet := ofScript "hebrew" ∩ lo

/-- Alphabetic characters of scripts that set no blanks between words. -/
def unspaced : CharSet := .ofLines [
  "e01-e30 e32-e33 e40-e46 e81-e82 e84 e86-e8a e8c-ea3 ea5 ea7-eb0 eb2-eb3 ebd ec0-ec4 ec6",
  "edc-edf 1000-102a 103f 1050-1055 105a-105d 1061 1065-1066 106e-1070 1075-1081 108e 1780-17b3",
  "17d7 17dc 1950-196d 1970-1974 1980-19ab 19b0-19c9 1a20-1a54 1aa7 a9e0-a9e4 a9e6-a9ef a9fa-a9fe",
  "aa60-aa76 aa7a aa7e-aaaf aab1 aab5-aab6 aab9-aabd aac0 aac2 aadb-aadd 11700-1171a 11740-11746"]

/-- Any other letter of words that blanks separate. -/
def letter : CharSet :=
  (Trait.alphabetic \ (Trait.ideographic ∪ ofScript "hiragana" ∪ katakana ∪ hebrewLetter ∪ extend ∪
    unspaced)) ∪ .ofLines [
    "2c2-2c5 2d2-2d7 2de-2df 2e5-2eb 2ed 2ef-2ff 55a-55c 55e 58a 5f3 70f a708-a716 a720-a721",
    "a789-a78a ab5b"]

/-- The values by their names, each name in its normal form. -/
def named : List (String × CharSet) := [
  ("le aletter", letter),
  ("cr", .ofText "d"),
  ("dq doublequote", .ofText "22"),
  ("extend", extend),
  ("ex extendnumlet", pc ∪ .ofText "202f"),
  ("fo format", Sentence.format \ .ofText "70f 200b"),
  ("hl hebrewletter", hebrewLetter),
  ("ka katakana", katakana),
  ("lf", .ofText "a"),
  ("ml midletter", .ofText "3a b7 387 55f 5f4 2027 fe13 fe55 ff1a"),
  ("mn midnum", .ofText "2c 3b 37e 589 60c-60d 66c 7f8 2044 fe50 fe54 ff0c ff1b"),
  ("mb midnumlet", .ofText "2e 2018-2019 2024 fe52 ff07 ff0e"),
  ("nl newline", .ofText "b-c 85 2028-2029"),
  ("nu numeric", nd ∪ Sentence.numberSign ∪ .ofText "66b 19da"),
  ("ri regionalindicator", Trait.regionalIndicator),
  ("sq singlequote", .ofText "27"),
  ("wsegspace", zs \ .ofText "a0 2007 202f"),
  ("zwj", .ofText "200d")]

end Word

end ObjectQuery.Character

import LangBench.Unicode.Flag
import LangBench.Unicode.Script

/-!
# Breaks in text

Three classifications of characters tell where graphemes, words and sentences end.

* `graphemeBreak?`, `wordBreak?`, `sentenceBreak?`: the set of a class, by any of its names.

Characters without a class of their own are in the class `other`, which cannot be asked for.
-/

namespace LangBench.Unicode

/-- The carriage return. -/
def carriageReturn : CharSet := CharSet.codes 0xd 0xd

/-- The line feed. -/
def lineFeed : CharSet := CharSet.codes 0xa 0xa

/-- The zero width joiner. -/
def joiner : CharSet := CharSet.codes 0x200d 0x200d

/-- The tag characters. -/
def tags : CharSet := CharSet.codes 0xe0020 0xe007f

/-- Marks in front of a number. -/
def numberSigns : CharSet := flag "prependedconcatenationmark"

/-! ### Graphemes -/

/-- Characters that end a grapheme on both sides. -/
def graphemeControl : CharSet :=
  (CharSet.unions
    [categories ["zl", "zp", "cc", "cf"], unassigned.inter defaultIgnorable]).diff
    (CharSet.unions
      [carriageReturn, lineFeed, CharSet.codes 0x200c 0x200d, numberSigns, tags])

/-- Characters that belong to the grapheme before them. -/
def graphemeExtenders : CharSet :=
  graphemeExtend.union (flag "emojimodifier")

/-- Spacing marks that do not belong to the grapheme before them. -/
def looseMarks : CharSet :=
  CharSet.read
    "102b-102c 1038 1062-1064 1067-106d 1083 1087-108c 108f 109a-109c 1a61 1a63-1a64 aa7b aa7d
    11720-11721"

/-- Spacing marks that belong to the grapheme before them. -/
def graphemeMarks : CharSet :=
  ((category "mc").diff (graphemeExtenders.union looseMarks)).union (CharSet.read "e33 eb3")

/-- Characters that belong to the grapheme after them. -/
def graphemePrefixes : CharSet :=
  numberSigns.union (CharSet.read
    "d4e 111c2-111c3 113d1 1193f 11941 11a3a 11a84-11a89 11d46 11f02")

/-- Hangul syllables. -/
def syllables : CharSet := CharSet.codes 0xac00 0xd7a3

/-- Hangul syllables without a final consonant. -/
def openSyllables : CharSet :=
  ⟨(List.range 399).map fun i => (0xac00 + 28 * i, 0xac00 + 28 * i)⟩

/-- The set of a class of characters in graphemes, by any of its names. -/
def graphemeBreak? (name : String) : Option CharSet :=
  match name with
  | "cr" => some carriageReturn
  | "lf" => some lineFeed
  | "zwj" => some joiner
  | "control" | "cn" => some graphemeControl
  | "extend" | "ex" => some graphemeExtenders
  | "prepend" | "pp" => some graphemePrefixes
  | "spacingmark" | "sm" => some graphemeMarks
  | "regionalindicator" | "ri" => some (flag "regionalindicator")
  | "l" => some (CharSet.read "1100-115f a960-a97c")
  | "v" => some (CharSet.read "1160-11a7 d7b0-d7c6 16d63 16d67-16d6a")
  | "t" => some (CharSet.read "11a8-11ff d7cb-d7fb")
  | "lv" => some openSyllables
  | "lvt" => some (syllables.diff openSyllables)
  | _ => none

/-! ### Words -/

/-- Characters that belong to the word before them. -/
def wordExtenders : CharSet :=
  (CharSet.unions [graphemeExtend, category "mc", flag "emojimodifier"]).diff joiner

/-- Characters of format within words. -/
def wordFormat : CharSet :=
  (category "cf").diff (CharSet.unions [CharSet.codes 0x200b 0x200d, numberSigns, tags])

/-- Letters of Hebrew. -/
def hebrewLetters : CharSet :=
  CharSet.read
    "5d0-5ea 5ef-5f2 fb1d fb1f-fb28 fb2a-fb36 fb38-fb3c fb3e fb40-fb41 fb43-fb44 fb46-fb4f"

/-- Letters of Katakana. -/
def katakana : CharSet :=
  CharSet.read
    "3031-3035 309b-309c 30a0-30fa 30fc-30ff 31f0-31ff 32d0-32fe 3300-3357 ff66-ff9d 1aff0-1aff3
    1aff5-1affb 1affd-1affe 1b000 1b120-1b122 1b155 1b164-1b167"

/-- Signs that count as letters within words. -/
def letterLike : CharSet :=
  CharSet.read
    "2c2-2c5 2d2-2d7 2de-2df 2e5-2eb 2ed 2ef-2ff 55a-55c 55e 58a 5f3 70f a708-a716 a720-a721
    a789-a78a ab5b"

/-- Letters of languages that do not part words by blanks. -/
def unpartedLetters : CharSet :=
  CharSet.read
    "e01-e30 e32-e33 e40-e46 e81-e82 e84 e86-e8a e8c-ea3 ea5 ea7-eb0 eb2-eb3 ebd ec0-ec4 ec6
    edc-edf 1000-102a 103f 1050-1055 105a-105d 1061 1065-1066 106e-1070 1075-1081 108e 1780-17b3
    17d7 17dc 1950-196d 1970-1974 1980-19ab 19b0-19c9 1a20-1a54 1aa7 a9e0-a9e4 a9e6-a9ef a9fa-a9fe
    aa60-aa76 aa7a aa7e-aaaf aab1 aab5-aab6 aab9-aabd aac0 aac2 aadb-aadd 11700-1171a 11740-11746"

/-- Letters of words. -/
def wordLetters : CharSet :=
  (alphabetic.diff (CharSet.unions
    [flag "ideographic", katakana, (script? "hiragana").getD CharSet.empty, wordExtenders,
     hebrewLetters, unpartedLetters])).union letterLike

/-- Digits and signs that count as digits. -/
def wordNumbers : CharSet :=
  (category "nd").union (CharSet.read "600-605 66b 6dd 890-891 8e2 19da 110bd 110cd")

/-- The classes of characters in words that are written down. -/
def wordTable : List (List String × String) :=
  [(["doublequote", "dq"], "22"),
   (["singlequote", "sq"], "27"),
   (["extendnumlet", "ex"], "5f 202f 203f-2040 2054 fe33-fe34 fe4d-fe4f ff3f"),
   (["midletter", "ml"], "3a b7 387 55f 5f4 2027 fe13 fe55 ff1a"),
   (["midnum", "mn"], "2c 3b 37e 589 60c-60d 66c 7f8 2044 fe50 fe54 ff0c ff1b"),
   (["midnumlet", "mb"], "2e 2018-2019 2024 fe52 ff07 ff0e"),
   (["newline", "nl"], "b-c 85 2028-2029"),
   (["wsegspace"], "20 1680 2000-2006 2008-200a 205f 3000")]

/-- The set of a class of characters in words, by any of its names. -/
def wordBreak? (name : String) : Option CharSet :=
  match name with
  | "cr" => some carriageReturn
  | "lf" => some lineFeed
  | "zwj" => some joiner
  | "aletter" | "le" => some wordLetters
  | "hebrewletter" | "hl" => some hebrewLetters
  | "katakana" | "ka" => some katakana
  | "extend" => some wordExtenders
  | "format" | "fo" => some wordFormat
  | "numeric" | "nu" => some wordNumbers
  | "regionalindicator" | "ri" => some (flag "regionalindicator")
  | _ => (row? wordTable name).map CharSet.read

/-! ### Sentences -/

/-- Characters that belong to the character before them. -/
def sentenceExtenders : CharSet :=
  graphemeExtend.union ((category "mc").union joiner)

/-- Characters of format within sentences. -/
def sentenceFormat : CharSet :=
  ((category "cf").diff (CharSet.unions [CharSet.codes 0x200c 0x200d, numberSigns, tags])).union
    (CharSet.codes 0x70f 0x70f)

/-- Small letters within sentences. -/
def sentenceLower : CharSet :=
  lowercase.diff (graphemeExtend.union (CharSet.read "10d0-10fa 10fd-10ff"))

/-- Capital letters within sentences. -/
def sentenceUpper : CharSet :=
  ((category "lt").union uppercase).diff (CharSet.read "1c90-1cba 1cbd-1cbf")

/-- Other letters within sentences. -/
def sentenceLetters : CharSet :=
  (alphabetic.union (CharSet.codes 0x5f3 0x5f3)).diff
    (CharSet.unions [sentenceLower, sentenceUpper, sentenceExtenders])

/-- Brackets and quotation marks. -/
def sentenceClose : CharSet :=
  (categories ["ps", "pe", "pi", "pf"]).union
    (CharSet.read "22 27 275b-2760 2e00-2e01 2e06-2e08 2e0b 1f676-1f678")

/-- Full stops. -/
def fullStops : CharSet := CharSet.read "2e 2024 fe52 ff0e"

/-- The classes of characters in sentences that are written down. -/
def sentenceTable : List (List String × String) :=
  [(["scontinue", "sc"],
     "2c-2d 3a-3b 37e 55d 60c-60d 7f8 1802 1808 2013-2014 3001 fe10-fe11 fe13-fe14 fe31-fe32
     fe50-fe51 fe54-fe55 fe58 fe63 ff0c-ff0d ff1a-ff1b ff64"),
   (["sep", "se"], "85 2028-2029"),
   (["sp"], "9 b-c 20 a0 1680 2000-200a 202f 205f 3000")]

/-- The set of a class of characters in sentences, by any of its names. -/
def sentenceBreak? (name : String) : Option CharSet :=
  match name with
  | "cr" => some carriageReturn
  | "lf" => some lineFeed
  | "aterm" | "at" => some fullStops
  | "sterm" | "st" => some ((flag "sentenceterminal").diff fullStops)
  | "lower" | "lo" => some sentenceLower
  | "upper" | "up" => some sentenceUpper
  | "oletter" | "le" => some sentenceLetters
  | "numeric" | "nu" =>
    some ((category "nd").union (CharSet.read "600-605 66b-66c 6dd 890-891 8e2 19da 110bd 110cd"))
  | "extend" | "ex" => some sentenceExtenders
  | "format" | "fo" => some sentenceFormat
  | "close" | "cl" => some sentenceClose
  | _ => (row? sentenceTable name).map CharSet.read

end LangBench.Unicode

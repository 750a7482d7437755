import GlobalImports.Unicode.BinaryProperty
import GlobalImports.Unicode.Script

/-! The classes by which Unicode 16 divides texts into graphemes, words and sentences, by their
names in lower case and without separators. -/

namespace GlobalImports.Unicode.Segmentation

open Ranges (ofList ofTable union unions diff single)

/-! ### Sets that several divisions share -/

def lineFeed : Ranges := single '\n'

def carriageReturn : Ranges := single '\r'

/-- The other breaks between paragraphs. -/
def separator : Ranges := ofTable ["85 2028-2029"]

def joiner : Ranges := single '\u200d'

/-- Marks in front of digits, and letters that are drawn over the next one. -/
def prepended : Ranges :=
  union prependedMark
    (ofTable ["d4e 111c2-111c3 113d1 1193f 11941 11a3a 11a84-11a89 11d46 11f02"])

/-- Marks in front of digits that belong to the number. -/
def numberMark : Ranges := ofTable ["600-605 6dd 890-891 8e2 110bd 110cd"]

def spacingMark : Ranges := ofCategories [.mc]

/-! ### Graphemes -/

def graphemeExtend : Ranges := union extending emojiModifier

def hangulLead : Ranges := ofTable ["1100-115f a960-a97c"]

def hangulVowel : Ranges := ofTable ["1160-11a7 d7b0-d7c6 16d63 16d67-16d6a"]

def hangulTrail : Ranges := ofTable ["11a8-11ff d7cb-d7fb"]

/-- Syllables without a trailing consonant: every twenty-eighth. -/
def hangulOpen : Ranges :=
  ofList ((List.range 399).map fun i => (0xac00 + 28 * i, 0xac00 + 28 * i))

def hangulClosed : Ranges := diff (ofTable ["ac00-d7a3"]) hangulOpen

def graphemeControl : Ranges :=
  diff
    (union (ofCategories [.zl, .zp, .cc, .cf])
      (Ranges.inter (ofCategories [.cn]) defaultIgnorable))
    (unions [carriageReturn, lineFeed, joiner, graphemeExtend, prepended])

/-- Spacing marks that are part of the grapheme before them. -/
def graphemeSpacing : Ranges :=
  diff (union spacingMark (ofTable ["e33 eb3"]))
    (union graphemeExtend
      (ofTable
        ["102b-102c 1038 1062-1064 1067-106d 1083 1087-108c 108f 109a-109c 1a61 1a63-1a64 aa7b",
         "aa7d 11720-11721"]))

/-- The set of a class of graphemes. -/
def grapheme? (name : String) : Option Ranges :=
  match name with
  | "control" | "cn" => some graphemeControl
  | "cr" => some carriageReturn
  | "extend" | "ex" => some graphemeExtend
  | "l" => some hangulLead
  | "lf" => some lineFeed
  | "lv" => some hangulOpen
  | "lvt" => some hangulClosed
  | "prepend" | "pp" => some prepended
  | "regionalindicator" | "ri" => some regionalIndicator
  | "spacingmark" | "sm" => some graphemeSpacing
  | "t" => some hangulTrail
  | "v" => some hangulVowel
  | "zwj" => some joiner
  | _ => none

/-! ### Words -/

def wordExtend : Ranges := diff (union graphemeExtend spacingMark) joiner

def katakana : Ranges :=
  union (Script.ofCode "kana") (ofTable ["3031-3035 309b-309c 30a0 30fc ff70"])

def hebrewLetter : Ranges := Ranges.inter (Script.ofCode "hebr") (ofCategories [.lo])

/-- Letters of scripts that are written without spaces between words. -/
def unspaced : Ranges := ofTable
  ["e01-e3a e40-e4e e81-eda edc-edf 1000-103f 1050-108f 109a-109f 1780-17d3 17d7 17dc-17dd",
   "1950-19df 1a20-1aad a9e0-a9ef a9fa-a9fe aa60-aac2 aadb-aadf 11700-11746"]

/-- Characters beside the alphabetic ones that words are made of. -/
def otherWordLetter : Ranges := ofTable
  ["2c2-2c5 2d2-2d7 2de-2df 2e5-2eb 2ed 2ef-2ff 55a-55c 55e 58a 5f3 70f a708-a716 a720-a721",
   "a789-a78a ab5b"]

def wordLetter : Ranges :=
  diff (union alphabetic otherWordLetter)
    (unions [ideographic, katakana, unspaced, Script.ofCode "hira", wordExtend, hebrewLetter])

/-- The set of a class of parts of words. -/
def word? (name : String) : Option Ranges :=
  match name with
  | "aletter" | "le" => some wordLetter
  | "cr" => some carriageReturn
  | "doublequote" | "dq" => some (single '"')
  | "extend" => some wordExtend
  | "extendnumlet" | "ex" => some (union (ofCategories [.pc]) (ofTable ["202f"]))
  | "format" | "fo" =>
    some (diff (ofCategories [.cf]) (unions [ofTable ["200b-200d"], wordExtend, prepended]))
  | "hebrewletter" | "hl" => some hebrewLetter
  | "katakana" | "ka" => some katakana
  | "lf" => some lineFeed
  | "midletter" | "ml" => some (ofTable ["3a b7 387 55f 5f4 2027 fe13 fe55 ff1a"])
  | "midnum" | "mn" =>
    some (ofTable ["2c 3b 37e 589 60c-60d 66c 7f8 2044 fe10 fe14 fe50 fe54 ff0c ff1b"])
  | "midnumlet" | "mb" => some (ofTable ["2e 2018-2019 2024 fe52 ff07 ff0e"])
  | "newline" | "nl" => some (union separator (ofTable ["b-c"]))
  | "numeric" | "nu" => some (unions [digit, ofTable ["66b"], numberMark])
  | "regionalindicator" | "ri" => some regionalIndicator
  | "singlequote" | "sq" => some (single '\'')
  | "wsegspace" => some (diff (ofCategories [.zs]) (ofTable ["a0 2007 202f"]))
  | "zwj" => some joiner
  | _ => none

/-! ### Sentences -/

def sentenceExtend : Ranges := unions [extending, joiner, spacingMark]

def sentenceLower : Ranges := diff lowercase (union extending (ofTable ["10d0-10fa 10fd-10ff"]))

def sentenceUpper : Ranges :=
  diff (union uppercase (ofCategories [.lt])) (ofTable ["1c90-1cba 1cbd-1cbf"])

/-- Full stops. -/
def stop : Ranges := ofTable ["2e 2024 fe52 ff0e"]

/-- Brackets and quotation marks. -/
def closing : Ranges :=
  union (ofCategories [.ps, .pe, .pi, .pf])
    (union (diff quotationMark (ofTable ["ff02 ff07"]))
      (ofTable ["275b-2760 2e00-2e01 2e06-2e08 2e0b 1f676-1f678"]))

/-- The set of a class of parts of sentences. -/
def sentence? (name : String) : Option Ranges :=
  match name with
  | "aterm" | "at" => some stop
  | "close" | "cl" => some (diff closing (union stop sentenceTerminal))
  | "cr" => some carriageReturn
  | "extend" | "ex" => some sentenceExtend
  | "format" | "fo" =>
    some (diff (ofCategories [.cf]) (unions [joiners, sentenceExtend, prepended]))
  | "lf" => some lineFeed
  | "lower" | "lo" => some sentenceLower
  | "numeric" | "nu" => some (unions [digit, ofTable ["66b-66c"], numberMark])
  | "oletter" | "le" =>
    some (diff (union alphabetic (ofTable ["5f3 70f"]))
      (unions [sentenceLower, sentenceUpper, sentenceExtend]))
  | "scontinue" | "sc" =>
    some (ofTable
      ["2c-2d 3a-3b 37e 55d 60c-60d 7f8 1802 1808 2013-2014 3001 fe10-fe11 fe13-fe14 fe31-fe32",
       "fe50-fe51 fe54-fe55 fe58 fe63 ff0c-ff0d ff1a-ff1b ff64"])
  | "sep" | "se" => some separator
  | "sp" => some (diff blank (unions [carriageReturn, lineFeed, separator]))
  | "sterm" | "st" => some (diff sentenceTerminal stop)
  | "upper" | "up" => some sentenceUpper
  | _ => none

end GlobalImports.Unicode.Segmentation

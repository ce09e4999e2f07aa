import TraversalPlanner.Unicode.Script
import TraversalPlanner.Unicode.Trait

/-
  This file defines the parts that characters play where a text
  is divided into graphemes, words and sentences, as they are in
  Unicode 16.

  Key definitions include:
    * `Unicode.graphemeClass?`
    * `Unicode.wordClass?`
    * `Unicode.sentenceClass?`
-/

namespace TraversalPlanner

namespace Unicode

------------------------------------------------------------
-- Ends of Lines
------------------------------------------------------------

/- Carriage returns. -/
def carriageReturn : CodeSet :=
  .ofText "d"

/- Line feeds. -/
def lineFeed : CodeSet :=
  .ofText "a"

/- Joiners that make one grapheme of several. -/
def zeroWidthJoiner : CodeSet :=
  .ofText "200d"

------------------------------------------------------------
-- Graphemes
------------------------------------------------------------

/- What extends a grapheme, emoji included. -/
def graphemeExtension : CodeSet :=
  graphemeExtend.union (trait "emod")

/- What a grapheme continues behind. -/
def graphemePrepend : CodeSet :=
  (trait "pcm").union <|
    .ofText
      "d4e 111c2-111c3 113d1 1193f 11941 11a3a 11a84-11a89 11d46 11f02"

/- What stands alone. -/
def graphemeControl : CodeSet :=
  .difference
    (.union
      (categories ["zl", "zp", "cc", "cf"])
      (defaultIgnorable.difference assigned))
    (.unionAll
      [carriageReturn, lineFeed, zeroWidthJoiner, trait "pcm",
       graphemeExtension])

/- Marks with a width that belong to the grapheme before them. -/
def graphemeSpacingMark : CodeSet :=
  .difference
    ((categories ["mc"]).union (.ofText "e33 eb3"))
    (graphemeExtension.union <|
      .ofText
        "102b-102c 1038 1062-1064 1067-106d 1083 1087-108c 108f 109a-109c
         1a61 1a63-1a64 aa7b aa7d 11720-11721")

/- The syllables of Hangul. -/
def hangulSyllables : CodeSet :=
  .ofText "ac00-d7a3"

/- The syllables of Hangul that end in a vowel: each 28th one. -/
def openSyllables : CodeSet :=
  .ofCodes ((List.range 399).map fun i => 0xac00 + 28 * i)

/- The classes of characters within graphemes. -/
def graphemeClasses : NamedSets :=
  [(["cr"], carriageReturn),
   (["lf"], lineFeed),
   (["zwj"], zeroWidthJoiner),
   (["cn", "control"], graphemeControl),
   (["ex", "extend"], graphemeExtension),
   (["pp", "prepend"], graphemePrepend),
   (["sm", "spacingmark"], graphemeSpacingMark),
   (["ri", "regionalindicator"], trait "ri"),
   (["l"], .ofText "1100-115f a960-a97c"),
   (["v"], .ofText "1160-11a7 d7b0-d7c6 16d63 16d67-16d6a"),
   (["t"], .ofText "11a8-11ff d7cb-d7fb"),
   (["lv"], openSyllables),
   (["lvt"], hangulSyllables.difference openSyllables)]

/- The characters of a class within graphemes. -/
def graphemeClass? (name : String) : Option CodeSet :=
  graphemeClasses.named? name

------------------------------------------------------------
-- Words
------------------------------------------------------------

/- What extends a letter within a word. -/
def wordExtension : CodeSet :=
  (graphemeExtension.union (categories ["mc"])).difference zeroWidthJoiner

/- Formats within a word. -/
def wordFormat : CodeSet :=
  (categories ["cf"]).difference <|
    .unionAll [.ofText "200b-200d", wordExtension, trait "pcm"]

/- Katakana, with the marks that belong to it. -/
def wordKatakana : CodeSet :=
  (script "katakana").union (.ofText "3031-3035 309b-309c 30a0 30fc ff70")

/- The letters of Hebrew. -/
def hebrewLetters : CodeSet :=
  (script "hebrew").intersection (categories ["lo"])

/- Scripts that are written without blanks between words. -/
def unspacedScripts : CodeSet :=
  .unionAll <|
    ["thai", "lao", "myanmar", "khmer", "taile", "newtailue", "taitham",
      "taiviet", "ahom", "hiragana"].map script

/- Letters of words with blanks between them. -/
def wordLetters : CodeSet :=
  .difference
    (alphabetic.union <|
      .ofText
        "2c2-2c5 2d2-2d7 2de-2df 2e5-2eb 2ed 2ef-2ff 55a-55c 55e 58a 5f3
         70f a708-a716 a720-a721 a789-a78a ab5b")
    (.unionAll
      [trait "ideo", wordKatakana, unspacedScripts, wordExtension,
       hebrewLetters])

/- What numbers are made of. -/
def numeric : CodeSet :=
  .union
    (categories ["nd"])
    ((trait "pcm").difference (.ofText "70f"))

/- The classes of characters within words. -/
def wordClasses : NamedSets :=
  [(["cr"], carriageReturn),
   (["lf"], lineFeed),
   (["zwj"], zeroWidthJoiner),
   (["nl", "newline"], .ofText "b-c 85 2028-2029"),
   (["extend"], wordExtension),
   (["ri", "regionalindicator"], trait "ri"),
   (["fo", "format"], wordFormat),
   (["ka", "katakana"], wordKatakana),
   (["hl", "hebrewletter"], hebrewLetters),
   (["le", "aletter"], wordLetters),
   (["sq", "singlequote"], .ofText "27"),
   (["dq", "doublequote"], .ofText "22"),
   (["ml", "midletter"], .ofText "3a b7 387 55f 5f4 2027 fe13 fe55 ff1a"),
   (["mb", "midnumlet"], .ofText "2e 2018-2019 2024 fe52 ff07 ff0e"),
   (["mn", "midnum"],
     .ofText
       "2c 3b 37e 589 60c-60d 66c 7f8 2044 fe10 fe14 fe50 fe54 ff0c ff1b"),
   (["nu", "numeric"], numeric.union (.ofText "66b")),
   (["ex", "extendnumlet"], (categories ["pc"]).union (.ofText "202f")),
   (["wsegspace"],
     (categories ["zs"]).difference (.ofText "a0 2007 202f"))]

/- The characters of a class within words. -/
def wordClass? (name : String) : Option CodeSet :=
  wordClasses.named? name

------------------------------------------------------------
-- Sentences
------------------------------------------------------------

/- What extends a character within a sentence. -/
def sentenceExtension : CodeSet :=
  graphemeExtend.union ((categories ["mc"]).union zeroWidthJoiner)

/- What separates paragraphs. -/
def paragraphSeparators : CodeSet :=
  .ofText "85 2028-2029"

/- Small letters, apart from Georgian ones. -/
def sentenceLower : CodeSet :=
  lowercase.difference <|
    sentenceExtension.union (.ofText "10d0-10fa 10fd-10ff")

/- Capital letters, apart from Georgian ones. -/
def sentenceUpper : CodeSet :=
  ((categories ["lt"]).union uppercase).difference <|
    .ofText "1c90-1cba 1cbd-1cbf"

/- Letters without a case. -/
def sentenceLetters : CodeSet :=
  (alphabetic.union (.ofText "5f3")).difference <|
    .unionAll [sentenceLower, sentenceUpper, sentenceExtension]

/- Full stops, which do not always end a sentence. -/
def fullStops : CodeSet :=
  .ofText "2e 2024 fe52 ff0e"

/- The classes of characters within sentences. -/
def sentenceClasses : NamedSets :=
  [(["cr"], carriageReturn),
   (["lf"], lineFeed),
   (["ex", "extend"], sentenceExtension),
   (["se", "sep"], paragraphSeparators),
   (["fo", "format"],
     (categories ["cf"]).difference <|
       sentenceExtension.union (.ofText "200c-200d")),
   (["sp"], (trait "wspace").difference (.ofText "a d 85 2028-2029")),
   (["lo", "lower"], sentenceLower),
   (["up", "upper"], sentenceUpper),
   (["le", "oletter"], sentenceLetters),
   (["nu", "numeric"], numeric.union (.ofText "66b-66c")),
   (["at", "aterm"], fullStops),
   (["sc", "scontinue"],
     .ofText
       "2c-2d 3a 55d 60c-60d 7f8 1802 1808 2013-2014 3001 fe10-fe11 fe13
        fe31-fe32 fe50-fe51 fe55 fe58 fe63 ff0c-ff0d ff1a ff64"),
   (["st", "sterm"], (trait "sterm").difference fullStops),
   (["cl", "close"],
     (categories ["ps", "pe", "pi", "pf"]).union <|
       .ofText "22 27 275b-2760 2e00-2e0d 1f676-1f678")]

/- The characters of a class within sentences. -/
def sentenceClass? (name : String) : Option CodeSet :=
  sentenceClasses.named? name

end Unicode

end TraversalPlanner

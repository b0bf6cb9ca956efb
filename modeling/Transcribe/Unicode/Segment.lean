import Transcribe.Unicode.Table
/-!
# `Unicode.Segment` — the properties that break text into graphemes, words and sentences

Text is cut into grapheme clusters, words and sentences by rules over three properties
of code points: Grapheme_Cluster_Break, Word_Break and Sentence_Break. Each gives a code
point one value, such as Extend or ALetter, or none (Unicode calls that Other). The
tables are those of Unicode 16.0.
-/

namespace Transcribe.Unicode

/-- The values of Grapheme_Cluster_Break, in the order of their numbers. -/
def graphemeBreakNames : Array String :=
  #["CR", "Control", "Extend", "L", "LF", "LV", "LVT",
    "Prepend", "Regional_Indicator", "SpacingMark", "T", "V", "ZWJ"]

/-- The values of Word_Break, in the order of their numbers. -/
def wordBreakNames : Array String :=
  #["ALetter", "CR", "Double_Quote", "Extend", "ExtendNumLet", "Format",
    "Hebrew_Letter", "Katakana", "LF", "MidLetter", "MidNum", "MidNumLet",
    "Newline", "Numeric", "Regional_Indicator", "Single_Quote", "WSegSpace", "ZWJ"]

/-- The values of Sentence_Break, in the order of their numbers. -/
def sentenceBreakNames : Array String :=
  #["ATerm", "CR", "Close", "Extend", "Format", "LF", "Lower",
    "Numeric", "OLetter", "SContinue", "STerm", "Sep", "Sp", "Upper"]

/-- Grapheme_Cluster_Break as runs; `graphemeBreakNames.size` stands for none. -/
def graphemeBreakRuns : RunMap := .ofPacked <| String.join
  ["0 1 a 4 1 1 2 0 1 1 12 d 5f 1 21 d d 1 1 d 252 2 70 d 113 2 7 d 107 2 2d d 1 2 1 d 1 2 2 ",
   "d 1 2 2 d 1 2 1 d 38 7 6 d a 2 b d 1 1 1 d 2e 2 15 d 10 2 1 d 65 2 7 7 1 d 1 2 6 d 2 2 2 ",
   "d 1 2 4 d 21 7 1 d 1 2 1 d 1e 2 1b d 5b 2 b d 3a 2 9 d 9 2 1 d 18 2 4 d 1 2 9 d 1 2 3 d ",
   "1 2 5 d 2b 2 3 d 34 7 2 d 5 2 9 d 2a 2 18 7 1 2 20 9 1 d 36 2 1 9 1 2 1 d 1 9 3 2 8 9 4 ",
   "2 1 9 2 d 1 2 7 d a 2 2 d 1d 2 1 9 2 d 38 2 1 d 1 2 1 9 2 2 4 d 2 9 2 d 2 9 2 2 1 d 9 2 ",
   "1 d a 2 2 d 1a 2 1 d 2 2 2 9 1 d 38 2 1 d 1 9 3 2 2 d 4 2 2 d 2 2 3 d 3 2 1 d 1e 2 2 d 3 ",
   "2 1 d b 2 2 9 1 d 38 2 1 d 1 9 3 2 5 d 1 2 2 9 1 d 1 9 2 2 1 d 14 2 2 d 16 2 6 d 1 2 1 9 ",
   "2 d 38 2 1 d 1 2 2 9 1 2 4 d 2 9 2 d 2 9 2 2 1 d 7 2 3 d a 2 2 d 1e 2 1 d 3b 2 1 9 1 2 1 ",
   "9 2 d 3 9 3 d 1 9 3 2 1 d 9 2 1 d 28 2 1 9 3 2 1 d 37 2 1 d 1 2 3 9 4 d 1 2 3 d 1 2 4 d ",
   "7 2 2 d b 2 2 d 1d 2 1 9 2 d 38 2 1 d 1 9 1 2 1 9 2 2 1 9 2 d 1 2 1 9 2 d 1 9 2 2 2 d 7 ",
   "2 2 d b 2 2 d f 9 1 d c 2 2 9 2 d 37 2 2 d 1 2 1 9 2 2 4 d 1 9 3 d 1 9 3 2 1 7 1 d 8 2 1 ",
   "d a 2 2 d 1d 2 1 9 2 d 46 2 1 d 4 2 1 9 2 2 3 d 1 2 1 d 1 9 7 2 1 d 12 9 2 d 3d 2 1 d 1 ",
   "9 1 2 7 d c 2 8 d 62 2 1 d 1 9 1 2 9 d b 2 7 d 49 2 2 d 1b 2 1 d 1 2 1 d 1 2 1 d 4 9 2 d ",
   "31 2 e 9 1 2 5 d 1 2 2 d 5 2 b d 1 2 24 d 9 2 1 d 66 2 4 9 1 2 6 d 1 2 2 9 2 2 2 d 17 9 ",
   "2 2 2 d 4 2 3 d 10 2 4 d d 2 1 d 1 9 1 2 2 d 6 2 1 d f 2 1 d 62 3 60 b 48 a 58 d 15d 2 3 ",
   "d 3b2 2 3 9 1 d 1c 2 2 9 1 d 1d 2 2 d 1e 2 2 d 40 2 2 9 1 2 7 9 8 2 1 9 2 2 b d 9 2 1 d ",
   "2d 2 3 1 1 2 1 d 75 2 2 d 22 2 1 d 76 2 3 9 4 2 2 9 3 d 4 9 2 2 1 9 6 2 3 d db 2 2 9 2 2 ",
   "1 d 39 9 1 2 1 9 1 2 7 d 1 2 1 d 1 2 1 d 2 2 8 9 6 2 a d 2 2 1 d 30 2 1f d 31 2 4 9 1 d ",
   "2f 2 7 9 1 2 1 9 5 2 1 9 2 d 26 2 9 d c 2 2 9 1 d 1e 9 1 2 4 9 2 2 2 9 1 2 3 d 38 2 1 9 ",
   "1 2 2 9 3 2 1 9 1 2 3 9 2 d 30 9 8 2 8 9 2 2 2 d 98 2 3 d 1 2 d 9 1 2 7 d 4 2 1 d 6 2 1 ",
   "d 2 9 1 2 2 d c6 2 40 d 20b 1 1 2 1 c 1 1 2 d 18 1 7 d 31 1 10 d 60 2 21 d bfe 2 3 d 8d ",
   "2 1 d 60 2 20 d 22a 2 6 d 69 2 2 d 75d4 2 4 d 1 2 a d 20 2 2 d 50 2 2 d 110 2 1 d 3 2 1 ",
   "d 4 2 1 d 17 9 2 2 2 9 1 d 4 2 1 d 53 9 2 d 32 9 10 2 2 d 1a 2 12 d d 2 1 d 26 2 8 d 19 ",
   "2 b 9 2 d c 3 1d d 3 2 3 9 1 d 2f 2 1 9 2 2 4 9 2 2 2 9 3 d 24 2 1 d 43 2 6 9 2 2 2 9 2 ",
   "2 2 d c 2 1 d 8 2 1 9 1 d 2e 2 1 d 33 2 1 d 1 2 3 d 2 2 2 d 5 2 2 d 1 2 1 d 29 9 1 2 2 9 ",
   "2 d 5 9 1 2 1 d ec 9 2 2 1 9 2 2 1 9 2 d 1 9 1 2 1 d 12 5 1 6 1b 5 1 6 1b 5 1 6 1b 5 1 6 ",
   "1b 5 1 6 1b 5 1 6 1b 5 1 6 1b 5 1 6 1b 5 1 6 1b 5 1 6 1b 5 1 6 1b 5 1 6 1b 5 1 6 1b 5 1 ",
   "6 1b 5 1 6 1b 5 1 6 1b 5 1 6 1b 5 1 6 1b 5 1 6 1b 5 1 6 1b 5 1 6 1b 5 1 6 1b 5 1 6 1b 5 ",
   "1 6 1b 5 1 6 1b 5 1 6 1b 5 1 6 1b 5 1 6 1b 5 1 6 1b 5 1 6 1b 5 1 6 1b 5 1 6 1b 5 1 6 1b ",
   "5 1 6 1b 5 1 6 1b 5 1 6 1b 5 1 6 1b 5 1 6 1b 5 1 6 1b 5 1 6 1b 5 1 6 1b 5 1 6 1b 5 1 6 ",
   "1b 5 1 6 1b 5 1 6 1b 5 1 6 1b 5 1 6 1b 5 1 6 1b 5 1 6 1b 5 1 6 1b 5 1 6 1b 5 1 6 1b 5 1 ",
   "6 1b 5 1 6 1b 5 1 6 1b 5 1 6 1b 5 1 6 1b 5 1 6 1b 5 1 6 1b 5 1 6 1b 5 1 6 1b 5 1 6 1b 5 ",
   "1 6 1b 5 1 6 1b 5 1 6 1b 5 1 6 1b 5 1 6 1b 5 1 6 1b 5 1 6 1b 5 1 6 1b 5 1 6 1b 5 1 6 1b ",
   "5 1 6 1b 5 1 6 1b 5 1 6 1b 5 1 6 1b 5 1 6 1b 5 1 6 1b 5 1 6 1b 5 1 6 1b 5 1 6 1b 5 1 6 ",
   "1b 5 1 6 1b 5 1 6 1b 5 1 6 1b 5 1 6 1b 5 1 6 1b 5 1 6 1b 5 1 6 1b 5 1 6 1b 5 1 6 1b 5 1 ",
   "6 1b 5 1 6 1b 5 1 6 1b 5 1 6 1b 5 1 6 1b 5 1 6 1b 5 1 6 1b 5 1 6 1b 5 1 6 1b 5 1 6 1b 5 ",
   "1 6 1b 5 1 6 1b 5 1 6 1b 5 1 6 1b 5 1 6 1b 5 1 6 1b 5 1 6 1b 5 1 6 1b 5 1 6 1b 5 1 6 1b ",
   "5 1 6 1b 5 1 6 1b 5 1 6 1b 5 1 6 1b 5 1 6 1b 5 1 6 1b 5 1 6 1b 5 1 6 1b 5 1 6 1b 5 1 6 ",
   "1b 5 1 6 1b 5 1 6 1b 5 1 6 1b 5 1 6 1b 5 1 6 1b 5 1 6 1b 5 1 6 1b 5 1 6 1b 5 1 6 1b 5 1 ",
   "6 1b 5 1 6 1b 5 1 6 1b 5 1 6 1b 5 1 6 1b 5 1 6 1b 5 1 6 1b 5 1 6 1b 5 1 6 1b 5 1 6 1b 5 ",
   "1 6 1b 5 1 6 1b 5 1 6 1b 5 1 6 1b 5 1 6 1b 5 1 6 1b 5 1 6 1b 5 1 6 1b 5 1 6 1b 5 1 6 1b ",
   "5 1 6 1b 5 1 6 1b 5 1 6 1b 5 1 6 1b 5 1 6 1b 5 1 6 1b 5 1 6 1b 5 1 6 1b 5 1 6 1b 5 1 6 ",
   "1b 5 1 6 1b 5 1 6 1b 5 1 6 1b 5 1 6 1b 5 1 6 1b 5 1 6 1b 5 1 6 1b 5 1 6 1b 5 1 6 1b 5 1 ",
   "6 1b 5 1 6 1b 5 1 6 1b 5 1 6 1b 5 1 6 1b 5 1 6 1b 5 1 6 1b 5 1 6 1b 5 1 6 1b 5 1 6 1b 5 ",
   "1 6 1b 5 1 6 1b 5 1 6 1b 5 1 6 1b 5 1 6 1b 5 1 6 1b 5 1 6 1b 5 1 6 1b 5 1 6 1b 5 1 6 1b ",
   "5 1 6 1b 5 1 6 1b 5 1 6 1b 5 1 6 1b 5 1 6 1b 5 1 6 1b 5 1 6 1b 5 1 6 1b 5 1 6 1b 5 1 6 ",
   "1b 5 1 6 1b 5 1 6 1b 5 1 6 1b 5 1 6 1b 5 1 6 1b 5 1 6 1b 5 1 6 1b 5 1 6 1b 5 1 6 1b 5 1 ",
   "6 1b 5 1 6 1b 5 1 6 1b 5 1 6 1b 5 1 6 1b 5 1 6 1b 5 1 6 1b 5 1 6 1b 5 1 6 1b 5 1 6 1b 5 ",
   "1 6 1b 5 1 6 1b 5 1 6 1b 5 1 6 1b 5 1 6 1b 5 1 6 1b 5 1 6 1b 5 1 6 1b 5 1 6 1b 5 1 6 1b ",
   "5 1 6 1b 5 1 6 1b 5 1 6 1b 5 1 6 1b 5 1 6 1b 5 1 6 1b 5 1 6 1b 5 1 6 1b 5 1 6 1b 5 1 6 ",
   "1b 5 1 6 1b 5 1 6 1b 5 1 6 1b 5 1 6 1b 5 1 6 1b 5 1 6 1b 5 1 6 1b 5 1 6 1b 5 1 6 1b 5 1 ",
   "6 1b 5 1 6 1b 5 1 6 1b 5 1 6 1b 5 1 6 1b 5 1 6 1b 5 1 6 1b 5 1 6 1b 5 1 6 1b 5 1 6 1b 5 ",
   "1 6 1b 5 1 6 1b 5 1 6 1b 5 1 6 1b 5 1 6 1b 5 1 6 1b 5 1 6 1b 5 1 6 1b 5 1 6 1b 5 1 6 1b ",
   "5 1 6 1b 5 1 6 1b 5 1 6 1b 5 1 6 1b 5 1 6 1b 5 1 6 1b 5 1 6 1b 5 1 6 1b 5 1 6 1b 5 1 6 ",
   "1b 5 1 6 1b 5 1 6 1b 5 1 6 1b 5 1 6 1b 5 1 6 1b 5 1 6 1b 5 1 6 1b 5 1 6 1b 5 1 6 1b 5 1 ",
   "6 1b 5 1 6 1b 5 1 6 1b 5 1 6 1b 5 1 6 1b 5 1 6 1b 5 1 6 1b 5 1 6 1b 5 1 6 1b 5 1 6 1b 5 ",
   "1 6 1b 5 1 6 1b 5 1 6 1b 5 1 6 1b 5 1 6 1b 5 1 6 1b 5 1 6 1b 5 1 6 1b 5 1 6 1b 5 1 6 1b ",
   "5 1 6 1b 5 1 6 1b 5 1 6 1b 5 1 6 1b 5 1 6 1b 5 1 6 1b 5 1 6 1b 5 1 6 1b 5 1 6 1b 5 1 6 ",
   "1b 5 1 6 1b 5 1 6 1b 5 1 6 1b 5 1 6 1b 5 1 6 1b 5 1 6 1b 5 1 6 1b 5 1 6 1b 5 1 6 1b 5 1 ",
   "6 1b 5 1 6 1b 5 1 6 1b 5 1 6 1b 5 1 6 1b 5 1 6 1b 5 1 6 1b 5 1 6 1b 5 1 6 1b 5 1 6 1b 5 ",
   "1 6 1b 5 1 6 1b 5 1 6 1b 5 1 6 1b 5 1 6 1b 5 1 6 1b 5 1 6 1b 5 1 6 1b 5 1 6 1b 5 1 6 1b ",
   "5 1 6 1b 5 1 6 1b 5 1 6 1b 5 1 6 1b 5 1 6 1b 5 1 6 1b 5 1 6 1b 5 1 6 1b 5 1 6 1b 5 1 6 ",
   "1b 5 1 6 1b 5 1 6 1b 5 1 6 1b 5 1 6 1b 5 1 6 1b 5 1 6 1b 5 1 6 1b 5 1 6 1b 5 1 6 1b 5 1 ",
   "6 1b 5 1 6 1b 5 1 6 1b 5 1 6 1b 5 1 6 1b 5 1 6 1b 5 1 6 1b 5 1 6 1b 5 1 6 1b 5 1 6 1b 5 ",
   "1 6 1b 5 1 6 1b 5 1 6 1b 5 1 6 1b 5 1 6 1b 5 1 6 1b 5 1 6 1b 5 1 6 1b 5 1 6 1b 5 1 6 1b ",
   "5 1 6 1b 5 1 6 1b 5 1 6 1b 5 1 6 1b 5 1 6 1b 5 1 6 1b 5 1 6 1b 5 1 6 1b 5 1 6 1b 5 1 6 ",
   "1b 5 1 6 1b 5 1 6 1b 5 1 6 1b 5 1 6 1b 5 1 6 1b d c b 17 d 4 a 31 d 2322 2 1 d 2e1 2 10 ",
   "d 10 2 10 d cf 1 1 d 9e 2 2 d 50 1 c d 201 2 1 d e2 2 1 d 95 2 5 d 686 2 3 d 1 2 2 d 5 2 ",
   "4 d 28 2 3 d 4 2 1 d a5 2 2 d 23d 2 4 d 41 2 5 d 13d 2 2 d 4f 2 4 d 46 2 b d 31 2 4 d 7a ",
   "9 1 2 1 9 1 d 35 2 f d 29 2 1 d 2 2 2 d a 2 3 9 1 d 2d 9 3 2 4 9 2 2 2 d 2 7 1 d 4 2 1 d ",
   "a 7 1 d 32 2 3 d 24 2 5 9 1 2 8 d 10 9 2 d 2c 2 1 d c 2 2 9 1 d 30 9 3 2 9 9 2 d 1 7 2 d ",
   "5 2 4 d 1 9 1 2 1 d 5c 9 3 2 3 9 2 2 1 9 1 2 2 d 6 2 1 d 2 2 1 d 9d 2 1 9 3 2 8 d 15 2 2 ",
   "9 2 d 37 2 2 d 1 2 1 9 1 2 1 9 4 d 2 9 2 d 2 9 3 d 9 2 1 d a 9 2 d 2 2 7 d 3 2 5 d 43 2 ",
   "1 9 2 2 6 d 1 2 1 d 2 2 1 d 1 2 3 9 1 d 1 9 2 2 3 d 1 2 1 d e 2 2 d 52 9 3 2 8 9 2 2 3 9 ",
   "1 2 1 d 17 2 1 d 51 2 1 9 2 2 6 9 1 2 1 9 2 2 1 9 1 2 2 9 1 2 2 d eb 2 1 9 2 2 4 d 2 9 4 ",
   "2 2 9 1 2 2 d 1b 2 2 d 52 9 3 2 8 9 2 2 1 9 1 2 2 d 6a 2 1 9 1 2 1 9 2 2 6 9 1 2 1 d 65 ",
   "2 3 d 2 2 4 9 1 2 5 d 100 9 3 2 9 9 1 2 2 d f5 2 1 9 5 d 1 9 2 d 2 2 2 9 1 2 1 7 1 9 1 7 ",
   "1 9 1 2 1 d 8d 9 3 2 4 d 2 2 2 9 4 2 1 d 3 9 1 d 1c 2 a d 28 2 6 9 1 7 1 2 4 d 8 2 1 d 9 ",
   "2 6 9 2 2 3 d 28 7 6 2 d 9 1 2 2 d 195 9 1 2 7 d 1 2 6 9 1 2 1 d 52 2 16 d 1 9 1 2 7 9 1 ",
   "2 2 9 1 2 2 d 7a 2 6 d 3 2 1 d 1 2 2 d 1 2 7 7 1 2 1 d 42 9 5 d 1 2 2 d 1 9 2 2 1 9 1 2 ",
   "1 d 15b 2 2 9 2 d 9 2 2 7 1 9 1 d 30 9 2 2 5 d 3 9 2 2 1 9 1 2 1 d 17 2 1 d 14d5 1 10 2 ",
   "1 d 6 2 f d 2cc8 2 c 9 3 2 3 d 9c0 2 5 d 3b 2 7 d 418 2 1 d 1 9 37 d 7 2 4 d 51 2 1 d b ",
   "9 2 d 4cab 2 2 d 1 1 4 d 125c 2 2e d 2 2 17 d 21e 2 1 9 1 2 3 d 3 9 1 2 5 1 8 2 8 d 2 2 ",
   "7 d 1e 2 4 d 94 2 3 d 7bb 2 37 d 4 2 32 d 8 2 1 d e 2 1 d 16 2 5 d 1 2 f d 550 2 7 d 1 2 ",
   "11 d 2 2 7 d 1 2 2 d 1 2 5 d 64 2 1 d a0 2 7 d 177 2 1 d 3d 2 4 d 1fc 2 4 d fe 2 2 d 2e0 ",
   "2 7 d 6d 2 7 d 89b 8 1a d 1fb 2 5 d c0c00 1 20 2 60 1 80 2 f0 1 e10 d"]

/-- Word_Break as runs; `wordBreakNames.size` stands for none. -/
def wordBreakRuns : RunMap := .ofPacked <| String.join
  ["0 12 a 8 1 c 2 1 1 12 12 10 1 12 1 2 1 12 4 f 1 12 4 a 1 12 1 b 1 12 1 d a 9 1 a 1 12 5 ",
   "0 1a 12 4 4 1 12 1 0 1a 12 a c 1 12 24 0 1 12 2 5 1 12 7 0 1 12 1 9 1 12 2 0 1 12 5 0 17 ",
   "12 1 0 1f 12 1 0 1e0 12 6 0 22 3 70 0 5 12 1 0 2 12 2 0 4 a 1 0 1 12 6 0 1 9 1 0 3 12 1 ",
   "0 1 12 1 0 14 12 1 0 53 12 1 0 8b 12 1 3 7 0 a6 12 1 0 26 12 2 0 4 12 1 0 1 9 1 0 29 a 1 ",
   "0 1 12 6 3 2d 12 1 3 1 12 1 3 2 12 1 3 2 12 1 3 1 12 8 6 1b 12 4 6 4 0 1 9 1 12 b 5 6 12 ",
   "6 a 2 12 2 3 b 12 1 5 1 12 3 0 2b 3 15 d a 12 1 d 1 a 1 12 1 0 2 3 1 0 63 12 1 0 1 3 7 5 ",
   "1 12 1 3 6 0 2 3 2 12 1 3 4 0 2 d a 0 3 12 2 0 1 12 f 5 1 0 1 3 1 0 1e 3 1b 12 2 0 59 3 ",
   "b 0 1 12 e d a 0 21 3 9 0 2 12 2 a 1 12 1 0 1 12 2 3 1 12 2 0 16 3 4 0 1 3 9 0 1 3 3 0 1 ",
   "3 5 12 12 0 19 3 3 12 4 0 b 12 5 0 18 12 1 0 6 12 1 5 2 12 5 3 9 0 2a 3 18 5 1 3 21 0 36 ",
   "3 3 0 1 3 12 0 1 3 7 0 a 3 2 12 2 d a 12 1 0 10 3 3 12 1 0 8 12 2 0 2 12 2 0 16 12 1 0 7 ",
   "12 1 0 1 12 3 0 4 12 2 3 1 0 1 3 7 12 2 3 2 12 2 3 3 0 1 12 8 3 1 12 4 0 2 12 1 0 3 3 2 ",
   "12 2 d a 0 2 12 a 0 1 12 1 3 1 12 2 3 3 12 1 0 6 12 4 0 2 12 2 0 16 12 1 0 7 12 1 0 2 12 ",
   "1 0 2 12 1 0 2 12 2 3 1 12 1 3 5 12 4 3 2 12 2 3 3 12 3 3 1 12 7 0 4 12 1 0 1 12 7 d a 3 ",
   "2 0 3 3 1 12 b 3 3 12 1 0 9 12 1 0 3 12 1 0 16 12 1 0 7 12 1 0 2 12 1 0 5 12 2 3 1 0 1 3 ",
   "8 12 1 3 3 12 1 3 3 12 2 0 1 12 f 0 2 3 2 12 2 d a 12 9 0 1 3 6 12 1 3 3 12 1 0 8 12 2 0 ",
   "2 12 2 0 16 12 1 0 7 12 1 0 2 12 1 0 5 12 2 3 1 0 1 3 7 12 2 3 2 12 2 3 3 12 7 3 3 12 4 ",
   "0 2 12 1 0 3 3 2 12 2 d a 12 1 0 1 12 10 3 1 0 1 12 1 0 6 12 3 0 3 12 1 0 4 12 3 0 2 12 ",
   "1 0 1 12 1 0 2 12 3 0 2 12 3 0 3 12 3 0 c 12 4 3 5 12 3 3 3 12 1 3 4 12 2 0 1 12 6 3 1 ",
   "12 e d a 12 10 3 5 0 8 12 1 0 3 12 1 0 17 12 1 0 10 12 2 3 1 0 1 3 7 12 1 3 3 12 1 3 4 ",
   "12 7 3 2 12 1 0 3 12 2 0 1 12 2 0 2 3 2 12 2 d a 12 10 0 1 3 3 12 1 0 8 12 1 0 3 12 1 0 ",
   "17 12 1 0 a 12 1 0 5 12 2 3 1 0 1 3 7 12 1 3 3 12 1 3 4 12 7 3 2 12 6 0 2 12 1 0 2 3 2 ",
   "12 2 d a 12 1 0 2 3 1 12 c 3 4 0 9 12 1 0 3 12 1 0 29 3 2 0 1 3 7 12 1 3 3 12 1 3 4 0 1 ",
   "12 5 0 3 3 1 12 7 0 3 3 2 12 2 d a 12 a 0 6 12 1 3 3 12 1 0 12 12 3 0 18 12 1 0 9 12 1 0 ",
   "1 12 2 0 7 12 3 3 1 12 4 3 6 12 1 3 1 12 1 3 8 12 6 d a 12 2 3 2 12 3d 3 1 12 2 3 7 12 c ",
   "3 8 12 1 d a 12 57 3 1 12 2 3 9 12 b 3 7 12 1 d a 12 26 0 1 12 17 3 2 12 6 d a 12 b 3 1 ",
   "12 1 3 1 12 1 3 1 12 4 3 2 0 8 12 1 0 24 12 4 3 14 12 1 3 2 0 5 3 b 12 1 3 24 12 9 3 1 ",
   "12 64 3 14 12 1 d a 12 c 3 4 12 4 3 3 12 1 3 3 12 2 3 7 12 3 3 4 12 d 3 c 12 1 3 1 d a 3 ",
   "4 12 2 0 26 12 1 0 1 12 5 0 1 12 2 0 2b 12 1 0 14d 12 1 0 4 12 2 0 7 12 1 0 1 12 1 0 4 ",
   "12 2 0 29 12 1 0 4 12 2 0 21 12 1 0 4 12 2 0 7 12 1 0 1 12 1 0 4 12 2 0 f 12 1 0 39 12 1 ",
   "0 4 12 2 0 43 12 2 3 3 12 20 0 10 12 10 0 56 12 2 0 6 12 3 0 26c 12 2 0 11 10 1 0 1a 12 ",
   "5 0 4b 12 3 0 b 12 7 0 12 3 4 12 9 0 13 3 3 12 b 0 12 3 2 12 c 0 d 12 1 0 3 12 1 3 2 12 ",
   "40 3 20 12 9 3 1 12 2 d a 12 21 3 3 5 1 3 1 d a 12 6 0 59 12 7 0 5 3 2 0 22 3 1 0 1 12 5 ",
   "0 46 12 a 0 1f 12 1 3 c 12 4 3 c 12 a d a 12 80 d a 12 26 0 17 3 5 12 39 3 a 12 1 3 1d ",
   "12 2 3 1 d a 12 6 d a 12 16 3 1f 12 31 3 5 0 2f 3 11 0 8 12 3 d a 12 11 3 9 12 c 3 3 0 ",
   "1e 3 d 0 2 d a 0 2c 3 e 12 c 0 24 3 14 12 8 d a 12 3 0 3 d a 0 24 12 2 0 b 12 5 0 2b 12 ",
   "2 0 3 12 10 3 3 12 1 3 15 0 4 3 1 0 6 3 1 0 2 3 3 0 1 12 5 0 c0 3 40 0 116 12 2 0 6 12 2 ",
   "0 26 12 2 0 6 12 2 0 8 12 1 0 1 12 1 0 1 12 1 0 1 12 1 0 1f 12 2 0 35 12 1 0 7 12 1 0 1 ",
   "12 3 0 3 12 1 0 7 12 3 0 4 12 2 0 6 12 4 0 d 12 5 0 3 12 1 0 7 12 3 10 7 12 1 10 3 12 1 ",
   "3 1 11 1 5 2 12 8 b 2 12 a b 1 12 2 9 1 c 2 5 5 4 1 12 f 4 2 12 3 a 1 12 f 4 1 12 a 10 1 ",
   "5 5 12 1 5 a 12 1 0 1 12 d 0 1 12 10 0 d 12 33 3 21 12 11 0 1 12 4 0 1 12 2 0 a 12 1 0 1 ",
   "12 3 0 5 12 6 0 1 12 1 0 1 12 1 0 1 12 1 0 4 12 1 0 b 12 2 0 4 12 5 0 5 12 4 0 1 12 11 0 ",
   "29 12 32d 0 34 12 716 0 e5 12 6 0 4 3 3 0 2 12 c 0 26 12 1 0 1 12 5 0 1 12 2 0 38 12 7 0 ",
   "1 12 f 3 1 0 17 12 9 0 7 12 1 0 7 12 1 0 7 12 1 0 7 12 1 0 7 12 1 0 7 12 1 0 7 12 1 0 7 ",
   "12 1 3 20 12 2f 0 1 12 1d0 10 1 12 4 0 1 12 24 3 6 12 1 7 5 12 5 0 2 12 5c 3 2 7 2 12 3 ",
   "7 5b 12 1 7 4 12 5 0 2b 12 1 0 5e 12 11 0 20 12 30 7 10 12 d0 7 2f 12 1 7 58 12 6ca8 0 ",
   "48d 12 43 0 2e 12 2 0 10d 12 3 0 10 d a 0 2 12 14 0 2f 3 4 12 1 3 a 12 1 0 1f 3 2 0 50 3 ",
   "2 12 16 0 c6 12 2 0 2 12 1 0 1 12 1 0 8 12 15 0 10 3 1 0 3 3 1 0 4 3 1 0 17 3 5 12 4 3 1 ",
   "12 13 0 34 12 c 3 2 0 32 3 12 12 a d a 12 6 3 12 0 6 12 3 0 1 12 1 0 2 3 1 d a 0 1c 3 8 ",
   "12 2 0 17 3 d 12 c 0 1d 12 3 3 4 0 2f 3 e 12 e 0 1 d a 12 b 3 1 12 a d a 12 6 0 29 3 e ",
   "12 9 0 3 3 1 0 8 3 2 12 2 d a 12 21 3 3 12 32 3 1 12 1 3 3 12 2 3 2 12 5 3 2 12 1 3 1 12 ",
   "1e 0 b 3 5 12 2 0 3 3 2 12 a 0 6 12 2 0 6 12 2 0 6 12 9 0 7 12 1 0 7 12 1 0 3a 12 6 0 73 ",
   "3 8 12 1 3 2 12 2 d a 12 6 0 2ba4 12 c 0 17 12 4 0 31 12 2304 0 7 12 c 0 5 12 5 6 1 3 1 ",
   "6 a 12 1 6 d 12 1 6 5 12 1 6 1 12 1 6 2 12 1 6 2 12 1 6 a 0 62 12 21 0 16b 12 12 0 40 12 ",
   "2 0 36 12 28 0 c 12 4 3 10 a 1 12 2 9 1 a 1 12 b 3 10 12 3 4 2 12 18 4 3 a 1 12 1 b 1 12 ",
   "1 a 1 9 1 12 1a 0 5 12 1 0 87 12 2 5 1 12 7 b 1 12 4 a 1 12 1 b 1 12 1 d a 9 1 a 1 12 5 ",
   "0 1a 12 4 4 1 12 1 0 1a 12 b 7 38 3 2 0 1f 12 3 0 6 12 2 0 6 12 2 0 6 12 2 0 3 12 1c 5 3 ",
   "12 4 0 c 12 1 0 1a 12 1 0 13 12 1 0 2 12 1 0 f 12 2 0 e 12 22 0 7b 12 45 0 35 12 88 3 1 ",
   "12 82 0 1d 12 3 0 31 12 f 3 1 12 1f 0 20 12 d 0 1e 12 5 0 26 3 5 12 5 0 1e 12 2 0 24 12 ",
   "4 0 8 12 1 0 5 12 2a 0 9e 12 2 d a 12 6 0 24 12 4 0 24 12 4 0 28 12 8 0 34 12 c 0 b 12 1 ",
   "0 f 12 1 0 7 12 1 0 2 12 1 0 b 12 1 0 f 12 1 0 7 12 1 0 2 12 3 0 34 12 c 0 137 12 9 0 16 ",
   "12 a 0 8 12 18 0 6 12 1 0 2a 12 1 0 9 12 45 0 6 12 2 0 1 12 1 0 2c 12 1 0 2 12 3 0 1 12 ",
   "2 0 17 12 a 0 17 12 9 0 1f 12 41 0 13 12 1 0 2 12 a 0 16 12 a 0 1a 12 46 0 38 12 6 0 2 ",
   "12 40 0 1 3 3 12 1 3 2 12 5 3 4 0 4 12 1 0 3 12 1 0 1d 12 2 3 3 12 4 3 1 12 20 0 1d 12 3 ",
   "0 1d 12 23 0 8 12 1 0 1c 3 2 12 19 0 36 12 a 0 16 12 a 0 13 12 d 0 12 12 6e 0 49 12 37 0 ",
   "33 12 d 0 33 12 d 0 24 3 4 12 8 d a 12 6 d a 0 1c 12 3 3 5 12 1 0 17 12 fa 0 2a 12 1 3 2 ",
   "12 3 0 2 12 10 0 3 12 37 3 4 0 1d 12 a 0 1 12 8 0 16 3 b 12 1f 0 12 3 4 12 2a 0 15 12 1b ",
   "0 17 12 9 3 3 0 35 3 f 12 1f d a 3 1 0 2 3 2 0 1 12 9 3 4 0 2d 3 b 12 2 5 1 12 4 3 1 12 ",
   "a 5 1 12 2 0 19 12 7 d a 12 6 3 3 0 24 3 e 12 1 d a 12 4 0 1 3 2 0 1 12 8 0 23 3 1 12 2 ",
   "0 1 12 9 3 3 0 30 3 e 0 4 12 4 3 4 12 1 3 2 d a 0 1 12 1 0 1 12 23 0 12 12 1 0 19 3 c 12 ",
   "6 3 1 0 2 3 1 12 3e 0 7 12 1 0 1 12 1 0 4 12 1 0 f 12 1 0 a 12 7 0 2f 3 c 12 5 d a 12 6 ",
   "3 4 12 1 0 8 12 2 0 2 12 2 0 16 12 1 0 7 12 1 0 2 12 1 0 5 12 1 3 2 0 1 3 7 12 2 3 2 12 ",
   "2 3 3 12 2 0 1 12 6 3 1 12 5 0 5 3 2 12 2 3 7 12 3 3 5 12 b 0 a 12 1 0 1 12 2 0 1 12 1 0 ",
   "26 12 1 0 1 3 9 12 1 3 1 12 2 3 1 12 1 3 4 12 1 3 5 0 1 3 1 0 1 12 d 3 2 12 1d 0 35 3 12 ",
   "0 4 12 5 d a 12 4 3 1 0 3 12 1e 0 30 3 14 0 2 12 1 0 1 12 8 d a 12 a6 0 2f 3 7 12 2 3 9 ",
   "12 17 0 4 3 2 12 22 0 30 3 11 12 3 0 1 12 b d a 12 26 0 2b 3 d 0 1 12 7 d a 12 6 d 14 12 ",
   "39 3 f 12 4 d a 12 c6 0 2c 3 f 12 65 0 40 d a 12 15 0 8 12 2 0 1 12 2 0 8 12 1 0 2 12 1 ",
   "0 18 3 6 12 1 3 2 12 2 3 4 0 1 3 1 0 1 3 2 12 c d a 12 46 0 8 12 2 0 27 3 7 12 2 3 7 0 1 ",
   "12 1 0 1 3 1 12 1b 0 1 3 a 0 28 3 7 0 1 3 4 12 8 3 1 12 8 0 1 3 b 0 2e 3 10 12 3 0 1 12 ",
   "12 0 49 12 c7 0 21 12 f d a 12 6 0 9 12 1 0 25 3 8 12 1 3 8 0 1 12 f d a 12 18 0 1e 12 2 ",
   "3 16 12 1 3 e 12 49 0 7 12 1 0 2 12 1 0 26 3 6 12 3 3 1 12 1 3 2 12 1 3 7 0 1 3 1 12 8 d ",
   "a 12 6 0 6 12 1 0 2 12 1 0 20 3 5 12 1 3 2 12 1 3 5 0 1 12 7 d a 12 136 0 13 3 4 12 9 3 ",
   "2 0 1 3 1 0 d 12 1 0 22 3 7 12 3 3 5 12 d d a 3 1 12 55 0 1 12 4f 0 39a 12 66 0 6f 12 11 ",
   "0 c4 12 a4c 0 61 12 f 0 430 5 10 3 1 0 6 3 f 12 a 0 f9b 12 5 0 247 12 1ab9 0 1e 3 12 d a ",
   "12 6c6 0 239 12 7 0 1f 12 1 d a 12 6 0 4f 12 1 d a 12 6 0 1e 12 2 3 5 12 b 0 30 3 7 12 9 ",
   "0 4 12 c d a 12 9 0 15 12 5 0 13 12 1b0 0 2d 12 3 d a 12 c6 0 40 12 80 0 4b 12 4 3 1 0 1 ",
   "3 37 12 7 3 4 0 d 12 40 0 2 12 1 0 1 3 1 12 b 3 2 12 3ffe 7 4 12 1 7 7 12 1 7 2 12 1 7 1 ",
   "12 11f 7 3 12 32 7 1 12 e 7 4 12 a98 0 6b 12 5 0 d 12 3 0 9 12 7 0 a 12 3 3 2 12 1 5 4 ",
   "12 104c d a 12 206 3 2e 12 2 3 17 12 21e 3 5 12 3 3 6 5 8 3 8 12 2 3 7 12 1e 3 4 12 94 3 ",
   "3 12 1bb 0 55 12 1 0 47 12 1 0 2 12 2 0 1 12 2 0 2 12 2 0 4 12 1 0 c 12 1 0 1 12 1 0 7 ",
   "12 1 0 41 12 1 0 4 12 2 0 8 12 1 0 7 12 1 0 1c 12 1 0 4 12 1 0 5 12 1 0 1 12 3 0 7 12 1 ",
   "0 154 12 2 0 19 12 1 0 19 12 1 0 1f 12 1 0 19 12 1 0 1f 12 1 0 19 12 1 0 1f 12 1 0 19 12 ",
   "1 0 1f 12 1 0 19 12 1 0 8 12 2 d 32 12 200 3 37 12 4 3 32 12 8 3 1 12 e 3 1 12 16 3 5 12 ",
   "1 3 f 12 450 0 1f 12 6 0 6 12 d5 3 7 12 1 3 11 12 2 3 7 12 1 3 2 12 1 3 5 12 5 0 3e 12 ",
   "21 3 1 12 70 0 2d 12 3 3 7 0 7 12 2 d a 12 4 0 1 12 141 0 1e 3 1 12 11 0 2c 3 4 d a 12 ",
   "1d6 0 1c 3 4 d a 12 d6 0 1e 3 2 0 1 d a 12 1e5 0 7 12 1 0 4 12 1 0 2 12 1 0 f 12 1 0 c5 ",
   "12 b 3 7 12 29 0 44 3 7 0 1 12 4 d a 12 4a6 0 4 12 1 0 1b 12 1 0 2 12 1 0 1 12 2 0 1 12 ",
   "1 0 a 12 1 0 4 12 1 0 1 12 1 0 1 12 6 0 1 12 4 0 1 12 1 0 1 12 1 0 1 12 1 0 3 12 1 0 2 ",
   "12 1 0 1 12 2 0 1 12 1 0 1 12 1 0 1 12 1 0 1 12 1 0 1 12 1 0 2 12 1 0 1 12 2 0 4 12 1 0 ",
   "7 12 1 0 4 12 1 0 4 12 1 0 1 12 1 0 a 12 1 0 11 12 5 0 3 12 1 0 5 12 1 0 11 12 274 0 1a ",
   "12 6 0 1a 12 6 0 1a 12 5c e 1a 12 1fb 3 5 12 7f0 d a 12 c0407 5 1 12 1e 3 60 12 80 3 f0 ",
   "12"]

/-- Sentence_Break as runs; `sentenceBreakNames.size` stands for none. -/
def sentenceBreakRuns : RunMap := .ofPacked <| String.join
  ["0 e 9 c 1 5 1 c 2 1 1 e 12 c 1 a 1 2 1 e 4 2 3 e 2 9 2 0 1 e 1 7 a 9 1 e 4 a 1 e 1 d 1a ",
   "2 1 e 1 2 1 e 3 6 1a 2 1 e 1 2 1 e 7 b 1 e 1a c 1 e 9 6 1 2 1 e 1 4 1 e 7 6 1 e 4 6 1 2 ",
   "1 e 4 d 17 e 1 d 7 6 18 e 1 6 8 d 1 6 1 d 1 6 1 d 1 6 1 d 1 6 1 d 1 6 1 d 1 6 1 d 1 6 1 ",
   "d 1 6 1 d 1 6 1 d 1 6 1 d 1 6 1 d 1 6 1 d 1 6 1 d 1 6 1 d 1 6 1 d 1 6 1 d 1 6 1 d 1 6 1 ",
   "d 1 6 1 d 1 6 1 d 1 6 1 d 1 6 1 d 1 6 1 d 1 6 1 d 1 6 1 d 1 6 1 d 1 6 1 d 1 6 2 d 1 6 1 ",
   "d 1 6 1 d 1 6 1 d 1 6 1 d 1 6 1 d 1 6 1 d 1 6 1 d 1 6 2 d 1 6 1 d 1 6 1 d 1 6 1 d 1 6 1 ",
   "d 1 6 1 d 1 6 1 d 1 6 1 d 1 6 1 d 1 6 1 d 1 6 1 d 1 6 1 d 1 6 1 d 1 6 1 d 1 6 1 d 1 6 1 ",
   "d 1 6 1 d 1 6 1 d 1 6 1 d 1 6 1 d 1 6 1 d 1 6 1 d 1 6 1 d 1 6 1 d 2 6 1 d 1 6 1 d 1 6 3 ",
   "d 2 6 1 d 1 6 1 d 2 6 1 d 3 6 2 d 4 6 1 d 2 6 1 d 3 6 3 d 2 6 1 d 2 6 1 d 1 6 1 d 1 6 1 ",
   "d 2 6 1 d 1 6 2 d 1 6 1 d 2 6 1 d 3 6 1 d 1 6 1 d 2 6 2 8 1 d 1 6 3 8 4 d 2 6 1 d 2 6 1 ",
   "d 2 6 1 d 1 6 1 d 1 6 1 d 1 6 1 d 1 6 1 d 1 6 1 d 1 6 1 d 1 6 1 d 1 6 2 d 1 6 1 d 1 6 1 ",
   "d 1 6 1 d 1 6 1 d 1 6 1 d 1 6 1 d 1 6 1 d 1 6 1 d 1 6 2 d 2 6 1 d 1 6 1 d 3 6 1 d 1 6 1 ",
   "d 1 6 1 d 1 6 1 d 1 6 1 d 1 6 1 d 1 6 1 d 1 6 1 d 1 6 1 d 1 6 1 d 1 6 1 d 1 6 1 d 1 6 1 ",
   "d 1 6 1 d 1 6 1 d 1 6 1 d 1 6 1 d 1 6 1 d 1 6 1 d 1 6 1 d 1 6 1 d 1 6 1 d 1 6 1 d 1 6 1 ",
   "d 1 6 1 d 1 6 1 d 1 6 1 d 1 6 1 d 1 6 1 d 1 6 7 d 2 6 1 d 2 6 2 d 1 6 1 d 4 6 1 d 1 6 1 ",
   "d 1 6 1 d 1 6 1 d 1 6 45 8 1 6 24 8 7 6 2 e 4 8 c e e 6 5 e 7 8 1 e 1 8 1 e 11 3 70 d 1 ",
   "6 1 d 1 6 1 8 1 e 1 d 1 6 1 e 2 6 4 e 1 d 1 e 6 d 1 e 1 d 3 e 1 d 1 e 1 d 2 6 1 d 11 e 1 ",
   "d 9 6 23 d 1 6 2 d 3 6 3 d 1 6 1 d 1 6 1 d 1 6 1 d 1 6 1 d 1 6 1 d 1 6 1 d 1 6 1 d 1 6 1 ",
   "d 1 6 1 d 1 6 1 d 1 6 1 d 1 6 5 d 1 6 1 e 1 d 1 6 1 d 2 6 2 d 33 6 30 d 1 6 1 d 1 6 1 d ",
   "1 6 1 d 1 6 1 d 1 6 1 d 1 6 1 d 1 6 1 d 1 6 1 d 1 6 1 d 1 6 1 d 1 6 1 d 1 6 1 d 1 6 1 d ",
   "1 6 1 d 1 6 1 d 1 6 1 d 1 6 1 e 1 3 7 d 1 6 1 d 1 6 1 d 1 6 1 d 1 6 1 d 1 6 1 d 1 6 1 d ",
   "1 6 1 d 1 6 1 d 1 6 1 d 1 6 1 d 1 6 1 d 1 6 1 d 1 6 1 d 1 6 1 d 1 6 1 d 1 6 1 d 1 6 1 d ",
   "1 6 1 d 1 6 1 d 1 6 1 d 1 6 1 d 1 6 1 d 1 6 1 d 1 6 1 d 1 6 1 d 1 6 1 d 1 6 1 d 2 6 1 d ",
   "1 6 1 d 1 6 1 d 1 6 1 d 1 6 1 d 1 6 1 d 1 6 2 d 1 6 1 d 1 6 1 d 1 6 1 d 1 6 1 d 1 6 1 d ",
   "1 6 1 d 1 6 1 d 1 6 1 d 1 6 1 d 1 6 1 d 1 6 1 d 1 6 1 d 1 6 1 d 1 6 1 d 1 6 1 d 1 6 1 d ",
   "1 6 1 d 1 6 1 d 1 6 1 d 1 6 1 d 1 6 1 d 1 6 1 d 1 6 1 d 1 6 1 d 1 6 1 d 1 6 1 d 1 6 1 d ",
   "1 6 1 d 1 6 1 d 1 6 1 d 1 6 1 d 1 6 1 d 1 6 1 d 1 6 1 d 1 6 1 d 1 6 1 d 1 6 1 d 1 6 1 d ",
   "1 6 1 d 1 6 1 d 1 6 1 d 1 6 1 d 1 6 1 d 1 6 1 d 1 6 1 d 1 6 1 d 1 6 1 d 1 6 1 e 1 d 26 e ",
   "2 8 1 e 3 9 1 e 2 6 29 a 1 e 7 3 2d e 1 3 1 e 1 3 2 e 1 3 2 e 1 3 1 e 8 8 1b e 4 8 5 e c ",
   "4 6 e 6 9 2 e 2 3 b e 1 4 1 a 3 8 2b 3 15 7 a e 1 7 2 e 1 8 2 3 1 8 63 a 1 8 1 3 7 4 1 e ",
   "1 3 6 8 2 3 2 e 1 3 4 8 2 7 a 8 3 e 2 8 1 a 3 e c 4 1 8 1 3 1 8 1e 3 1b e 2 8 59 3 b 8 1 ",
   "e e 7 a 8 21 3 9 8 2 e 2 9 1 a 1 8 1 e 2 3 1 e 2 8 16 3 4 8 1 3 9 8 1 3 3 8 1 3 5 e 9 a ",
   "1 e 1 a 1 e 3 a 2 e 1 8 19 3 3 e 4 8 b e 5 8 18 e 1 8 6 e 1 4 2 e 5 3 9 8 2a 3 18 4 1 3 ",
   "21 8 36 3 3 8 1 3 12 8 1 3 7 8 a 3 2 a 2 7 a e 1 8 10 3 3 e 1 8 8 e 2 8 2 e 2 8 16 e 1 8 ",
   "7 e 1 8 1 e 3 8 4 e 2 3 1 8 1 3 7 e 2 3 2 e 2 3 3 8 1 e 8 3 1 e 4 8 2 e 1 8 3 3 2 e 2 7 ",
   "a 8 2 e a 8 1 e 1 3 1 e 2 3 3 e 1 8 6 e 4 8 2 e 2 8 16 e 1 8 7 e 1 8 2 e 1 8 2 e 1 8 2 e ",
   "2 3 1 e 1 3 5 e 4 3 2 e 2 3 3 e 3 3 1 e 7 8 4 e 1 8 1 e 7 7 a 3 2 8 3 3 1 e b 3 3 e 1 8 ",
   "9 e 1 8 3 e 1 8 16 e 1 8 7 e 1 8 2 e 1 8 5 e 2 3 1 8 1 3 8 e 1 3 3 e 1 3 3 e 2 8 1 e f 8 ",
   "2 3 2 e 2 7 a e 9 8 1 3 6 e 1 3 3 e 1 8 8 e 2 8 2 e 2 8 16 e 1 8 7 e 1 8 2 e 1 8 5 e 2 3 ",
   "1 8 1 3 7 e 2 3 2 e 2 3 3 e 7 3 3 e 4 8 2 e 1 8 3 3 2 e 2 7 a e 1 8 1 e 10 3 1 8 1 e 1 8 ",
   "6 e 3 8 3 e 1 8 4 e 3 8 2 e 1 8 1 e 1 8 2 e 3 8 2 e 3 8 3 e 3 8 c e 4 3 5 e 3 3 3 e 1 3 ",
   "4 e 2 8 1 e 6 3 1 e e 7 a e 10 3 5 8 8 e 1 8 3 e 1 8 17 e 1 8 10 e 2 3 1 8 1 3 7 e 1 3 3 ",
   "e 1 3 4 e 7 3 2 e 1 8 3 e 2 8 1 e 2 8 2 3 2 e 2 7 a e 10 8 1 3 3 e 1 8 8 e 1 8 3 e 1 8 ",
   "17 e 1 8 a e 1 8 5 e 2 3 1 8 1 3 7 e 1 3 3 e 1 3 4 e 7 3 2 e 6 8 2 e 1 8 2 3 2 e 2 7 a e ",
   "1 8 2 3 1 e c 3 4 8 9 e 1 8 3 e 1 8 29 3 2 8 1 3 7 e 1 3 3 e 1 3 4 8 1 e 5 8 3 3 1 e 7 8 ",
   "3 3 2 e 2 7 a e a 8 6 e 1 3 3 e 1 8 12 e 3 8 18 e 1 8 9 e 1 8 1 e 2 8 7 e 3 3 1 e 4 3 6 ",
   "e 1 3 1 e 1 3 8 e 6 7 a e 2 3 2 e d 8 30 3 1 8 2 3 7 e 5 8 7 3 8 e 1 7 a e 27 8 2 e 1 8 ",
   "1 e 1 8 5 e 1 8 18 e 1 8 1 e 1 8 a 3 1 8 2 3 9 8 1 e 2 8 5 e 1 8 1 e 1 3 7 e 1 7 a e 2 8 ",
   "4 e 20 8 1 e 17 3 2 e 6 7 a e b 3 1 e 1 3 1 e 1 3 1 2 4 3 2 8 8 e 1 8 24 e 4 3 14 e 1 3 ",
   "2 8 5 3 b e 1 3 24 e 9 3 1 e 39 8 2b 3 14 8 1 7 a a 2 e 4 8 6 3 4 8 4 3 3 8 1 3 3 8 2 3 ",
   "7 8 3 3 4 8 d 3 c 8 1 3 1 7 a 3 4 e 2 d 26 e 1 d 1 e 5 d 1 e 2 8 2b e 1 6 1 8 14c e 1 8 ",
   "4 e 2 8 7 e 1 8 1 e 1 8 4 e 2 8 29 e 1 8 4 e 2 8 21 e 1 8 4 e 2 8 7 e 1 8 1 e 1 8 4 e 2 ",
   "8 f e 1 8 39 e 1 8 4 e 2 8 43 e 2 3 3 e 2 a 1 e 4 a 2 e 17 8 10 e 10 d 56 e 2 6 6 e 3 8 ",
   "26c e 1 a 1 8 11 c 1 8 1a 2 2 e 3 8 4b e 3 8 b e 7 8 12 3 4 e 9 8 13 3 3 a 2 e 9 8 12 3 ",
   "2 e c 8 d e 1 8 3 e 1 3 2 e c 8 34 3 20 e 3 8 1 e 4 8 1 3 1 e 2 7 a e 18 9 1 a 1 e 4 9 1 ",
   "a 1 e 1 3 3 4 1 3 1 7 a e 6 8 59 e 7 8 5 3 2 8 22 3 1 8 1 e 5 8 46 e a 8 1f e 1 3 c e 4 ",
   "3 c e 8 a 2 7 a 8 1e e 2 8 5 e b 8 2c e 4 8 1a e 6 7 a e 26 8 17 3 5 e 4 8 35 3 a e 1 3 ",
   "1d e 2 3 1 7 a e 6 7 a e d 8 1 a 4 e 4 3 1f e 31 3 5 8 2f 3 11 8 8 e 1 a 2 7 a a 2 e 2 a ",
   "2 e b 3 9 e 9 a 3 3 3 8 1e 3 d 8 2 7 a 8 2c 3 e e c 8 24 3 14 e 3 a 2 e 3 7 a e 3 8 3 7 ",
   "a 8 24 a 2 6 9 d 1 6 1 e 5 8 2b e 2 8 3 e 10 3 3 e 1 3 15 8 4 3 1 8 6 3 1 8 2 3 3 8 1 e ",
   "5 6 c0 3 40 d 1 6 1 d 1 6 1 d 1 6 1 d 1 6 1 d 1 6 1 d 1 6 1 d 1 6 1 d 1 6 1 d 1 6 1 d 1 ",
   "6 1 d 1 6 1 d 1 6 1 d 1 6 1 d 1 6 1 d 1 6 1 d 1 6 1 d 1 6 1 d 1 6 1 d 1 6 1 d 1 6 1 d 1 ",
   "6 1 d 1 6 1 d 1 6 1 d 1 6 1 d 1 6 1 d 1 6 1 d 1 6 1 d 1 6 1 d 1 6 1 d 1 6 1 d 1 6 1 d 1 ",
   "6 1 d 1 6 1 d 1 6 1 d 1 6 1 d 1 6 1 d 1 6 1 d 1 6 1 d 1 6 1 d 1 6 1 d 1 6 1 d 1 6 1 d 1 ",
   "6 1 d 1 6 1 d 1 6 1 d 1 6 1 d 1 6 1 d 1 6 1 d 1 6 1 d 1 6 1 d 1 6 1 d 1 6 1 d 1 6 1 d 1 ",
   "6 1 d 1 6 1 d 1 6 1 d 1 6 1 d 1 6 1 d 1 6 1 d 1 6 1 d 1 6 1 d 1 6 1 d 1 6 1 d 1 6 1 d 1 ",
   "6 1 d 1 6 1 d 1 6 1 d 1 6 1 d 1 6 1 d 1 6 1 d 1 6 1 d 1 6 1 d 1 6 1 d 1 6 1 d 1 6 9 d 1 ",
   "6 1 d 1 6 1 d 1 6 1 d 1 6 1 d 1 6 1 d 1 6 1 d 1 6 1 d 1 6 1 d 1 6 1 d 1 6 1 d 1 6 1 d 1 ",
   "6 1 d 1 6 1 d 1 6 1 d 1 6 1 d 1 6 1 d 1 6 1 d 1 6 1 d 1 6 1 d 1 6 1 d 1 6 1 d 1 6 1 d 1 ",
   "6 1 d 1 6 1 d 1 6 1 d 1 6 1 d 1 6 1 d 1 6 1 d 1 6 1 d 1 6 1 d 1 6 1 d 1 6 1 d 1 6 1 d 1 ",
   "6 1 d 1 6 1 d 1 6 1 d 1 6 1 d 1 6 1 d 1 6 1 d 1 6 1 d 1 6 1 d 1 6 1 d 1 6 1 d 1 6 1 d 1 ",
   "6 1 d 1 6 1 d 1 6 1 d 1 6 1 d 1 6 9 d 8 6 6 e 2 d 6 e 2 6 8 d 8 6 8 d 8 6 6 e 2 d 6 e 2 ",
   "6 8 e 1 d 1 e 1 d 1 e 1 d 1 e 1 d 1 6 8 d 8 6 e e 2 6 8 d 8 6 8 d 8 6 8 d 8 6 5 e 1 6 2 ",
   "d 5 e 1 6 1 e 3 6 3 e 1 6 2 d 5 e 3 6 4 e 2 6 2 d 4 e 4 6 8 d 5 e 5 6 3 e 1 6 2 d 5 e 3 ",
   "c b 4 1 3 2 4 2 e 3 9 2 e 3 2 8 e 4 0 1 e 3 b 2 4 5 c 1 e 9 2 2 e 1 a 2 e 7 2 2 a 3 e 15 ",
   "c 1 4 5 e 1 4 a e 1 6 1 e b 2 2 6 1 e d 2 2 e 1 6 d e 33 3 21 e 11 d 1 e 4 d 1 e 2 6 1 d ",
   "3 6 2 d 3 6 1 e 1 d 1 e 3 d 5 e 6 d 1 e 1 d 1 e 1 d 1 e 1 d 4 e 1 6 1 d 4 6 1 8 4 6 1 e ",
   "2 6 2 d 2 e 5 d 1 6 4 e 4 6 1 e 11 d 10 6 10 8 3 d 1 6 1 8 4 e 17f 2 4 e 1d 2 2 e 18b d ",
   "1a 6 1a e 271 2 6 e 7 2 e e 4f 2 2 e 1f 2 a e 193 2 16 e 3f 2 4 e 20 2 2 e 202 d 30 6 30 ",
   "d 1 6 1 d 3 6 2 d 1 6 1 d 1 6 1 d 1 6 1 d 4 6 1 d 1 6 2 d 1 6 8 d 3 6 1 d 1 6 1 d 1 6 1 ",
   "d 1 6 1 d 1 6 1 d 1 6 1 d 1 6 1 d 1 6 1 d 1 6 1 d 1 6 1 d 1 6 1 d 1 6 1 d 1 6 1 d 1 6 1 ",
   "d 1 6 1 d 1 6 1 d 1 6 1 d 1 6 1 d 1 6 1 d 1 6 1 d 1 6 1 d 1 6 1 d 1 6 1 d 1 6 1 d 1 6 1 ",
   "d 1 6 1 d 1 6 1 d 1 6 1 d 1 6 1 d 1 6 1 d 1 6 1 d 1 6 1 d 1 6 1 d 1 6 1 d 1 6 1 d 1 6 1 ",
   "d 1 6 1 d 1 6 1 d 1 6 1 d 1 6 1 d 1 6 1 d 1 6 1 d 1 6 1 d 1 6 1 d 1 6 1 d 1 6 1 d 1 6 1 ",
   "d 1 6 1 d 1 6 1 d 1 6 2 e 6 d 1 6 1 d 1 6 1 3 3 d 1 6 1 e c 6 26 e 1 6 1 e 5 6 1 e 2 8 ",
   "38 e 7 8 1 e f 3 1 8 17 e 9 8 7 e 1 8 7 e 1 8 7 e 1 8 7 e 1 8 7 e 1 8 7 e 1 8 7 e 1 8 7 ",
   "e 1 3 20 2 e e e 2 2 e 2 2 a e 4 a 1 8 1 e c a 1 e 5 2 1 e 10 a 2 2 8 e 1a3 c 1 9 1 a 1 ",
   "e 2 8 3 2 a e 2 2 8 e 1 2 3 e 1 8 9 3 6 e 1 8 5 e 2 8 5 e 4 8 56 e 2 3 2 e 2 8 3 e 1 8 ",
   "5a e 1 8 4 e 5 8 2b e 1 8 5e e 11 8 20 e 30 8 10 e 200 8 19c0 e 40 8 568d e 43 8 2e e 1 ",
   "a 1 8 10d e 1 a 2 8 10 7 a 8 2 e 14 d 1 6 1 d 1 6 1 d 1 6 1 d 1 6 1 d 1 6 1 d 1 6 1 d 1 ",
   "6 1 d 1 6 1 d 1 6 1 d 1 6 1 d 1 6 1 d 1 6 1 d 1 6 1 d 1 6 1 d 1 6 1 d 1 6 1 d 1 6 1 d 1 ",
   "6 1 d 1 6 1 d 1 6 1 d 1 6 1 d 1 6 1 d 1 6 1 8 1 3 4 e 1 3 a e 1 8 1 d 1 6 1 d 1 6 1 d 1 ",
   "6 1 d 1 6 1 d 1 6 1 d 1 6 1 d 1 6 1 d 1 6 1 d 1 6 1 d 1 6 1 d 1 6 1 d 1 6 1 d 1 6 1 d 1 ",
   "6 3 3 2 8 50 3 2 e 1 a 1 e 3 a 1 e 1f 8 9 e 2 d 1 6 1 d 1 6 1 d 1 6 1 d 1 6 1 d 1 6 1 d ",
   "1 6 1 d 1 6 3 d 1 6 1 d 1 6 1 d 1 6 1 d 1 6 1 d 1 6 1 d 1 6 1 d 1 6 1 d 1 6 1 d 1 6 1 d ",
   "1 6 1 d 1 6 1 d 1 6 1 d 1 6 1 d 1 6 1 d 1 6 1 d 1 6 1 d 1 6 1 d 1 6 1 d 1 6 1 d 1 6 1 d ",
   "1 6 1 d 1 6 1 d 1 6 1 d 1 6 1 d 1 6 1 d 1 6 1 d 1 6 1 d 1 6 1 d 1 6 1 d 1 6 1 d 1 6 a d ",
   "1 6 1 d 1 6 1 d 2 6 1 d 1 6 1 d 1 6 1 d 1 6 1 d 1 6 1 8 1 e 2 d 1 6 1 d 1 6 1 8 1 d 1 6 ",
   "1 d 1 6 3 d 1 6 1 d 1 6 1 d 1 6 1 d 1 6 1 d 1 6 1 d 1 6 1 d 1 6 1 d 1 6 1 d 1 6 1 d 1 6 ",
   "1 d 5 6 1 d 5 6 1 d 1 6 1 d 1 6 1 d 1 6 1 d 1 6 1 d 1 6 1 d 1 6 1 d 1 6 1 d 4 6 1 d 1 6 ",
   "1 d 2 6 1 e 2 d 1 6 1 e 1 6 1 e 1 6 1 d 1 6 1 d 1 6 1 d 1 6 1 d 1 e 15 6 3 d 1 6 1 8 1 6 ",
   "3 8 7 3 1 8 3 3 1 8 4 3 1 8 17 3 5 e 4 3 1 e 13 8 34 e 2 a 2 e 8 3 2 8 32 3 12 e 8 a 2 7 ",
   "a e 6 3 12 8 6 e 3 8 1 e 1 8 2 3 1 7 a 8 1c 3 8 e 1 a 1 8 17 3 d e c 8 1d e 3 3 4 8 2f 3 ",
   "e e 7 a 2 e 5 8 1 7 a e 6 8 5 3 1 8 a 7 a 8 5 e 1 8 29 3 e e 9 8 3 3 1 8 8 3 2 e 2 7 a e ",
   "3 a 3 8 17 e 3 8 1 3 3 8 32 3 1 8 1 3 3 8 2 3 2 8 5 3 2 8 1 3 1 8 1 e 18 8 3 e 2 8 b 3 5 ",
   "a 2 8 3 3 2 e a 8 6 e 2 8 6 e 2 8 6 e 9 8 7 e 1 8 7 e 1 6 2b e 1 6 e e 6 6 50 8 23 3 8 a ",
   "1 3 2 e 2 7 a e 6 8 2ba4 e c 8 17 e 4 8 31 e 2104 8 16e e 2 8 6a e 26 6 7 e c 6 5 e 5 8 ",
   "1 3 1 8 a e 1 8 d e 1 8 5 e 1 8 1 e 1 8 2 e 1 8 2 e 1 8 6c e 21 8 16b 2 2 e 10 8 40 e 2 ",
   "8 36 e 28 8 c e 4 3 10 9 2 e 1 9 1 e 3 2 2 e 7 3 10 e 1 9 2 e 2 2 10 e 2 2 2 e 7 9 2 0 1 ",
   "e 2 9 1 a 2 9 1 2 6 e 4 9 1 e c 8 5 e 1 8 87 e 2 4 1 e 1 a 1 e 6 2 2 e 2 9 2 0 1 e 1 7 a ",
   "9 1 e 4 a 1 e 1 d 1a 2 1 e 1 2 1 e 3 6 1a 2 1 e 1 2 1 e 1 2 2 a 1 2 2 9 1 e 1 8 38 3 2 8 ",
   "1f e 3 8 6 e 2 8 6 e 2 8 6 e 2 8 3 e 1c 4 3 e 4 8 c e 1 8 1a e 1 8 13 e 1 8 2 e 1 8 f e ",
   "2 8 e e 22 8 7b e 45 8 35 e 88 3 1 e 82 8 1d e 3 8 31 e f 3 1 e 1f 8 20 e d 8 1e e 5 8 ",
   "26 3 5 e 5 8 1e e 2 8 24 e 4 8 8 e 1 8 5 e 2a d 28 6 28 8 4e e 2 7 a e 6 d 24 e 4 6 24 e ",
   "4 8 28 e 8 8 34 e c d b e 1 d f e 1 d 7 e 1 d 2 e 1 6 b e 1 6 f e 1 6 7 e 1 6 2 e 3 8 34 ",
   "e c 8 137 e 9 8 16 e a 8 8 e 18 6 1 8 2 6 3 e 1 6 2a e 1 6 9 e 45 8 6 e 2 8 1 e 1 8 2c e ",
   "1 8 2 e 3 8 1 e 2 8 17 e a 8 17 e 9 8 1f e 41 8 13 e 1 8 2 e a 8 16 e a 8 1a e 46 8 38 e ",
   "6 8 2 e 40 8 1 3 3 e 1 3 2 e 5 3 4 8 4 e 1 8 3 e 1 8 1d e 2 3 3 e 4 3 1 e 16 a 2 e 8 8 ",
   "1d e 3 8 1d e 23 8 8 e 1 8 1c 3 2 e 19 8 36 e a 8 16 e a 8 13 e d 8 12 e 6e 8 49 e 37 d ",
   "33 e d 6 33 e d 8 24 3 4 e 8 7 a e 6 7 a 8 6 d 16 e 3 3 5 e 1 8 1 6 16 e fa 8 2a e 1 3 2 ",
   "e 3 8 2 e 10 8 3 e 37 3 4 8 1d e a 8 1 e 8 8 16 3 b e 4 a 5 e 16 8 12 3 4 a 4 e 26 8 15 ",
   "e 1b 8 17 e 9 3 3 8 35 3 f a 2 e 1d 7 a 3 1 8 2 3 2 8 1 e 9 3 4 8 2d 3 b e 2 4 1 a 4 3 1 ",
   "e a 4 1 e 2 8 19 e 7 7 a e 6 3 3 8 24 3 e e 1 7 a e 1 a 3 8 1 3 2 8 1 e 8 8 23 3 1 e 2 8 ",
   "1 e 9 3 3 8 30 3 e 8 4 a 2 e 2 3 4 a 1 3 2 7 a 8 1 e 1 8 1 e 1 a 2 e 20 8 12 e 1 8 19 3 ",
   "c a 2 e 1 a 2 e 1 3 1 8 2 3 1 e 3e 8 7 e 1 8 1 e 1 8 4 e 1 8 f e 1 8 a a 1 e 6 8 2f 3 c ",
   "e 5 7 a e 6 3 4 e 1 8 8 e 2 8 2 e 2 8 16 e 1 8 7 e 1 8 2 e 1 8 5 e 1 3 2 8 1 3 7 e 2 3 2 ",
   "e 2 3 3 e 2 8 1 e 6 3 1 e 5 8 5 3 2 e 2 3 7 e 3 3 5 e b 8 a e 1 8 1 e 2 8 1 e 1 8 26 e 1 ",
   "8 1 3 9 e 1 3 1 e 2 3 1 e 1 3 4 e 1 3 5 8 1 3 1 8 1 a 2 e b 3 2 e 1d 8 35 3 12 8 4 a 2 e ",
   "3 7 a e 4 3 1 8 3 e 1e 8 30 3 14 8 2 e 1 8 1 e 8 7 a e a6 8 2f 3 7 e 2 3 9 e 1 a 2 e 5 a ",
   "f 8 4 3 2 e 22 8 30 3 11 a 2 e 1 8 1 e b 7 a e 26 8 2b 3 d 8 1 e 7 7 a e 6 7 14 e 1c 8 ",
   "1b e 2 3 f e 4 7 a e 2 a 3 e 1 8 7 e b9 8 2c 3 f e 65 d 20 6 20 7 a e 15 8 8 e 2 8 1 e 2 ",
   "8 8 e 1 8 2 e 1 8 18 3 6 e 1 3 2 e 2 3 4 8 1 3 1 8 1 3 2 a 1 e 1 a 1 e 9 7 a e 46 8 8 e ",
   "2 8 27 3 7 e 2 3 7 8 1 e 1 8 1 3 1 e 1b 8 1 3 a 8 28 3 7 8 1 3 4 e 3 a 2 e 3 3 1 e 8 8 1 ",
   "3 b 8 2e 3 10 e 1 a 2 8 1 e 12 8 49 e c7 8 21 e f 7 a e 6 8 9 e 1 8 25 3 8 e 1 3 8 8 1 a ",
   "2 e d 7 a e 18 8 1e e 2 3 16 e 1 3 e e 49 8 7 e 1 8 2 e 1 8 26 3 6 e 3 3 1 e 1 3 2 e 1 3 ",
   "7 8 1 3 1 e 8 7 a e 6 8 6 e 1 8 2 e 1 8 20 3 5 e 1 3 2 e 1 3 5 8 1 e 7 7 a e 136 8 13 3 ",
   "4 a 2 e 7 3 2 8 1 3 1 8 d e 1 8 22 3 7 e 3 3 5 a 2 e b 7 a 3 1 e 55 8 1 e 4f 8 39a e 66 ",
   "8 6f e 11 8 c4 e a4c 8 61 e f 8 430 4 10 3 1 8 6 3 f e a 8 f9b e 5 8 247 e 1ab9 8 1e 3 ",
   "12 7 a e 6c6 8 239 e 7 8 1f e 1 7 a e 4 a 2 8 4f e 1 7 a e 6 8 1e e 2 3 5 a 1 e a 8 30 3 ",
   "7 a 2 e 7 8 4 a 1 e b 7 a e 9 8 15 e 5 8 13 e 1b0 8 2d e 1 a 2 7 a e c6 d 20 6 20 e 18 a ",
   "1 e 67 8 4b e 4 3 1 8 1 3 37 e 7 3 4 8 d e 40 8 2 e 1 8 1 3 1 e b 3 2 e e 8 17f8 e 8 8 ",
   "4d6 e 29 8 a e 22e7 8 4 e 1 8 7 e 1 8 2 e 1 8 123 e f 8 1 e 1d 8 3 e 2 8 1 e e 8 4 e 8 8 ",
   "18c e 904 8 6b e 5 8 d e 3 8 9 e 7 8 a e 3 3 2 a 1 4 4 e 104c 7 a e 206 3 2e e 2 3 17 e ",
   "21e 3 5 e 3 3 6 4 8 3 8 e 2 3 7 e 1e 3 4 e 94 3 3 e 1bb d 1a 6 1a d 1a 6 7 e 1 6 12 d 1a ",
   "6 1a d 1 e 1 d 2 e 2 d 1 e 2 d 2 e 2 d 4 e 1 d 8 6 4 e 1 6 1 e 1 6 7 e 1 6 b d 1a 6 1a d ",
   "2 e 1 d 4 e 2 d 8 e 1 d 7 e 1 6 1a d 2 e 1 d 4 e 1 d 5 e 1 d 1 e 3 d 7 e 1 6 1a d 1a 6 ",
   "1a d 1a 6 1a d 1a 6 1a d 1a 6 1a d 1a 6 1a d 1a 6 1c e 2 d 19 e 1 6 19 e 1 6 6 d 19 e 1 ",
   "6 19 e 1 6 6 d 19 e 1 6 19 e 1 6 6 d 19 e 1 6 19 e 1 6 6 d 19 e 1 6 19 e 1 6 6 d 1 6 1 e ",
   "2 7 32 e 200 3 37 e 4 3 32 e 8 3 1 e e 3 1 e 3 a 1 e 12 3 5 e 1 3 f e 450 6 a 8 1 6 14 e ",
   "6 6 6 e d5 3 7 e 1 3 11 e 2 3 7 e 1 3 2 e 1 3 5 e 5 6 3e e 21 3 1 e 70 8 2d e 3 3 7 8 7 ",
   "e 2 7 a e 4 8 1 e 141 8 1e 3 1 e 11 8 2c 3 4 7 a e 1d6 8 1c 3 4 7 a e d6 8 1e 3 2 8 1 7 ",
   "a e 1e5 8 7 e 1 8 4 e 1 8 2 e 1 8 f e 1 8 c5 e b 3 7 e 29 d 22 6 22 3 7 8 1 e 4 7 a e ",
   "4a6 8 4 e 1 8 1b e 1 8 2 e 1 8 1 e 2 8 1 e 1 8 a e 1 8 4 e 1 8 1 e 1 8 1 e 6 8 1 e 4 8 1 ",
   "e 1 8 1 e 1 8 1 e 1 8 3 e 1 8 2 e 1 8 1 e 2 8 1 e 1 8 1 e 1 8 1 e 1 8 1 e 1 8 1 e 1 8 2 ",
   "e 1 8 1 e 2 8 4 e 1 8 7 e 1 8 4 e 1 8 4 e 1 8 1 e 1 8 a e 1 8 11 e 5 8 3 e 1 8 5 e 1 8 ",
   "11 e 274 d 1a e 6 d 1a e 6 d 1a e 4ec 2 3 e 577 7 a e 406 8 a6e0 e 20 8 103a e 6 8 de e ",
   "2 8 1682 e e 8 1d31 e c1f 8 21e e 5e2 8 134b e 5 8 1060 e adc51 4 1 e 1e 3 60 e 80 3 f0 ",
   "e"]

end Transcribe.Unicode

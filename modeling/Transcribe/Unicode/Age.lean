import Transcribe.Unicode.Table
/-!
# `Unicode.Age` — the version of Unicode that assigned each code point

A code point's age is the version of Unicode that first assigned it, from 1.1 to 16.0.
Code points not yet assigned have no age.
-/

namespace Transcribe.Unicode

/-- The versions of Unicode, oldest first, as their property values name them. -/
def ageNames : Array String :=
  #["V1_1", "V2_0", "V2_1", "V3_0", "V3_1", "V3_2", "V4_0", "V4_1", "V5_0",
    "V5_1", "V5_2", "V6_0", "V6_1", "V6_2", "V6_3", "V7_0", "V8_0", "V9_0",
    "V10_0", "V11_0", "V12_0", "V12_1", "V13_0", "V14_0", "V15_0", "V15_1", "V16_0"]

/-- The age of every code point, as runs of positions in `ageNames`; `ageNames.size`
stands for not yet assigned. -/
def ageRuns : RunMap := .ofPacked <| String.join
  ["0 0 1f6 3 4 0 1e 3 8 5 1 6 1 3 12 6 3 7 b 8 e 0 59 3 5 6 2 0 2f 3 1 0 a 3 5 6 11 0 46 3 ",
   "9 5 1 6 8 7 5 6 3 0 2 3 1 5 d 9 4 0 2 9 2 1b 2 0 1 8 3 0 1 f 1 1b 4 0 7 1b 1 0 1 1b 1 0 ",
   "14 1b 1 0 2c 9 1 0 7 3 1 5 2 0 1 3 1 0 1 3 1 0 1 3 1 0 1 3 1 0 12 4 2 5 1 6 5 7 4 3 1 0 ",
   "c 3 1 0 42 3 1 0 c 3 1 0 29 9 1 3 2 5 2 3 4 0 35 5 2 0 2 5 2 0 2 5 2 8 1 0 1c 3 2 0 8 7 ",
   "2 0 2 8 6 5 10 8 4 9 10 a 2 b 2 f 8 1b 1 0 26 1b 2 0 7 13 1 0 27 13 1 0 1 3 1 1b 2 f 2 c ",
   "1 1b 1 1 11 7 1 1 d 0 a 8 1 0 9 1 1 7 3 1b 8 0 1b 1b 4 13 1 0 5 1b b 6 4 c 1 f 1 9 5 7 1 ",
   "0 1 6 9 9 5 0 1 e 1 17 1 7 1 0 1 b 1 0 1a 9 5 0 13 3 3 6 3 7 6 b 1 0 e 5 2 0 48 3 2 0 5 ",
   "3 1 0 f 3 1 0 1e 6 2 0 a 3 5 6 1 3 e 1b 1 3 1e 6 3 3 1b 1b 2 6 3 7 1e 9 12 3 31 5 1 1b e ",
   "8 3b 1b 2 13 3 a 2e 1b 2 a f 1b 1 b 1c 1b 2 b 1 1b 1 12 b 1b 5 17 1f 1b 1 17 2 1b 5 1a 1 ",
   "17 8 c 1 f 1 c b f 6 10 2 17 1 11 8 16 a 17 b 13 1 11 f 10 1 c 1b f 1 a 1 0 3 6 1 0 35 b ",
   "2 0 12 a 1 b 1 0 5 a 1 b 2 0 19 9 2 b 5 f 1 a 2 8 2 7 1 8 2 f 1 0 3 1b 1 0 8 1b 2 0 2 1b ",
   "2 0 16 1b 1 0 7 1b 1 0 1 1b 3 0 4 1b 2 0 1 6 1 0 7 1b 2 0 2 1b 2 0 3 7 1 1b 8 0 1 1b 4 0 ",
   "2 1b 1 0 5 1b 2 0 15 a 1 12 2 13 1 1b 2 6 1 0 1 6 1 1b 1 0 6 1b 4 0 2 1b 2 0 16 1b 1 0 7 ",
   "1b 1 0 2 1b 1 0 2 1b 1 0 2 1b 2 0 1 1b 1 0 5 1b 4 0 2 1b 2 0 3 1b 3 9 1 1b 7 0 4 1b 1 0 ",
   "1 1b 7 0 f 9 1 13 1 1b a 0 3 1b 1 0 7 6 1 0 1 1b 1 0 3 1b 1 0 16 1b 1 0 7 1b 1 0 2 1b 1 ",
   "0 5 1b 2 0 a 1b 1 0 3 1b 1 0 3 1b 2 0 1 1b f 0 1 6 3 1b 2 0 a c 1 6 1 1b 7 10 1 12 6 1b ",
   "1 0 3 1b 1 0 8 1b 2 0 2 1b 2 0 16 1b 1 0 7 1b 1 0 2 1b 1 6 1 0 4 1b 2 0 8 9 1 1b 2 0 2 ",
   "1b 2 0 3 1b 7 16 1 0 2 1b 4 0 2 1b 1 0 3 9 2 1b 2 0 b 6 1 b 6 1b a 0 2 1b 1 0 6 1b 3 0 3 ",
   "1b 1 0 4 1b 3 0 2 1b 1 0 1 1b 1 0 2 1b 3 0 2 1b 3 0 3 1b 3 0 8 7 1 0 3 1b 4 0 5 1b 3 0 3 ",
   "1b 1 0 4 1b 2 9 1 1b 6 0 1 1b e 7 1 0 c 6 8 1b 5 f 1 0 3 13 1 0 8 1b 1 0 3 1b 1 0 17 1b ",
   "1 0 a f 1 0 5 1b 2 17 1 9 1 0 7 1b 1 0 3 1b 1 0 4 1b 7 0 2 1b 1 9 2 10 1 1b 2 17 1 1b 2 ",
   "0 2 9 2 1b 2 0 a 1b 7 14 1 9 8 11 1 f 1 0 2 13 1 0 8 1b 1 0 3 1b 1 0 17 1b 1 0 a 1b 1 0 ",
   "5 1b 2 6 2 0 7 1b 1 0 3 1b 1 0 4 1b 7 0 2 1b 6 17 1 0 1 1b 1 0 2 8 2 1b 2 0 a 1b 1 8 2 ",
   "18 1 1b c 12 1 f 1 0 2 16 1 0 8 1b 1 0 3 1b 1 0 17 b 1 0 10 b 1 12 2 9 1 0 6 9 1 1b 1 0 ",
   "3 1b 1 0 4 b 1 11 1 1b 4 11 3 0 1 11 7 10 1 0 2 9 2 1b 2 0 a 9 6 11 3 9 7 1b 1 16 1 3 2 ",
   "1b 1 3 12 1b 3 3 18 1b 1 3 9 1b 1 3 1 1b 2 3 7 1b 3 3 1 1b 4 3 6 1b 1 3 1 1b 1 3 8 1b 6 ",
   "f a 1b 2 3 3 1b c 0 3a 1b 4 0 1d 1b 25 0 2 1b 1 0 1 1b 1 14 1 0 2 14 1 0 1 1b 1 14 1 0 1 ",
   "14 6 0 4 14 1 0 7 14 1 0 3 1b 1 0 1 1b 1 0 1 14 2 0 2 14 1 0 d 14 1 0 3 1b 2 0 5 1b 1 0 ",
   "1 1b 1 0 6 18 1 1b 1 0 a 1b 2 0 2 c 2 1b 20 1 48 1b 1 1 21 3 1 9 2 1b 4 1 1b b 4 1 6 3 1 ",
   "1 1 1b 1 1 15 3 3 1 7 3 1 1 1 3 3 1b 1 3 f 1b 1 9 1 3 1 7 2 9 3 a 4 b 2 1b 25 3 22 9 1 3 ",
   "5 9 1 3 2 9 1 3 7 9 3 3 4 9 6 3 1a 9 40 a 4 9 2 0 26 1b 1 c 1 1b 5 c 1 1b 2 0 27 5 2 7 2 ",
   "0 1 7 1 c 3 0 5a a 5 0 44 a 5 0 52 a 6 3 7 7 1 3 3f 7 1 3 1 1b 1 3 4 1b 2 3 7 1b 1 3 1 ",
   "1b 1 3 4 1b 2 3 27 7 1 3 1 1b 1 3 4 1b 2 3 1f 7 1 3 1 1b 1 3 4 1b 2 3 7 1b 1 3 1 1b 1 3 ",
   "4 1b 2 3 7 7 1 3 7 1b 1 3 17 7 1 3 1f 7 1 3 1 1b 1 3 4 1b 2 3 7 7 1 3 27 7 1 3 13 1b 2 b ",
   "2 7 2 3 1c 1b 3 7 1a 1b 6 3 55 10 1 1b 2 10 6 1b 2 a 1 3 276 a 9 3 1d 1b 3 3 51 f 8 1b 7 ",
   "5 d 17 1 5 7 17 1 1b 9 17 1 5 17 1b 9 5 14 1b c 5 d 1b 1 5 3 1b 1 5 2 1b c 3 5d 6 1 1b 2 ",
   "3 a 1b 6 6 a 1b 6 3 f 17 1 3 a 1b 6 3 58 13 1 1b 7 3 2a 9 1 1b 5 a 46 1b a 6 1d f 2 1b 1 ",
   "6 c 1b 4 6 c 1b 4 6 1 1b 3 6 2a 1b 2 6 5 1b b 7 2a a 2 1b 4 7 1a 1b 6 7 a a 1 1b 3 7 2 6 ",
   "20 7 1c 1b 2 7 2 a 3f 1b 1 a 1d 1b 2 a b 1b 6 a a 1b 6 a e 1b 2 f f 16 2 17 e 1b 31 8 4c ",
   "17 1 1b 1 1a 2 8 2d 17 2 1a 1 9 2b c 3 9 c c 6 b 34 1b 8 b 4 9 38 1b 3 9 f 1b 3 9 33 11 ",
   "9 1a 2 1b 5 13 2b 1b 2 13 3 c 8 1b 8 a 23 c 4 12 1 f 2 14 1 1b 5 6 6c 7 58 8 7 9 1c f f ",
   "12 4 17 1 11 1 b 1 a 1 8 2 0 9b 1 1 9 4 0 5a 9 6 0 16 1b 2 0 6 1b 2 0 26 1b 2 0 6 1b 2 0 ",
   "8 1b 1 0 1 1b 1 0 1 1b 1 0 1 1b 1 0 1f 1b 2 0 35 1b 1 0 f 1b 1 0 e 1b 2 0 6 1b 1 0 13 1b ",
   "2 0 3 1b 1 0 9 1b 1 0 2f 3 1 0 17 5 1 3 6 5 5 6 2 7 2 5 1 7 7 5 5 9 1 1b 1 e 4 0 7 5 1 ",
   "1b 2 0 1b 1b 1 7 5 b 8 1b 3 0 b 1 1 2 1 3 3 5 2 7 4 a 3 b 1 d 1 f 3 10 1 12 1 17 1 1b f ",
   "0 12 3 2 5 7 7 1 8 4 9 1 1b f 0 39 3 2 6 1 7 1 5 f 7 1 8 2 9 1 a 3 0 30 3 1 8 1 9 4 a 1 ",
   "10 2 1b 4 0 5b 3 9 5 c 0 f2 5 e 0 1 3 1 0 79 3 1 5 1 3 1e 5 34 6 2 7 b 8 c a 1 b b f 7 ",
   "11 4 12 1 0 25 3 2 1a 3 1b 16 0 b 1b 15 0 8b 5 14 6 1 0 96 5 a 0 50 3 8 5 8 0 14 6 2 5 2 ",
   "7 1 3 1 0 56 3 2 5 c 7 2 5 a 6 8 7 b 9 1 a 2 6 2 7 10 8 1 9 a a 3 9 4 a a b 1 a 13 b 1 a ",
   "1 b 4 a 18 f 1 0 4 b 1 0 4 b 2 0 1c b 1 0 23 b 1 0 1 b 1 0 4 b 3 0 1 a 1 0 7 b 2 0 7 5 e ",
   "0 1f b 3 0 18 b 1 0 e b 1 7 7 8 4 c 1 9 1 c 1 b 2 5 1c 9 4 5 10 3 100 5 200 6 e 7 6 8 7 ",
   "9 5 8 4 9 29 f 3 9 5 a 5 f 1a 1b 2 f 20 1b 1 16 1 f 22 13 3 f c 14 1 f 8 12 1 13 19 10 4 ",
   "13 f 14 1 7 2f 17 1 7 2f 17 1 8 d 9 3 a 1 9 3 8 4 9 6 a 2 7 6b a 7 c 2 1b 5 7 2d 1b 1 c ",
   "1 1b 5 c 1 1b 2 7 36 c 2 1b 7 7 1 b 1 1b e b 1 7 17 1b 9 7 7 1b 1 7 7 1b 1 7 7 1b 1 7 7 ",
   "1b 1 7 7 1b 1 7 7 1b 1 7 7 1b 1 7 7 1b 1 9 20 7 18 9 4 7 2 9 13 a 1 c a f 7 11 2 12 5 13 ",
   "5 14 1 16 3 17 b 1b 22 3 1a 1b 1 3 59 1b c 3 d6 1b 1a 3 c 19 4 0 38 3 3 5 3 3 1 0 1 1b 1 ",
   "0 54 5 2 1b 2 0 6 5 2 0 5e 5 1 1b 5 0 28 9 1 12 1 13 1 1b 1 0 5e 1b 1 0 10 3 18 b 3 16 5 ",
   "7 10 9 14 1a 2 1b 9 19 1 5 10 0 1d 6 2 1b 1 0 24 a c 6 1 5 f 0 1c 6 2 7 1 0 32 5 f 0 c 6 ",
   "4 0 2f 15 1 0 77 6 4 0 63 6 2 0 1f 6 1 3 19b6 16 a 6 40 0 51a6 7 16 9 8 a 8 c 1 10 9 12 ",
   "15 13 5 16 d 17 3 3 48d 1b 3 3 12 5 2 3 10 5 1 3 c 5 1 3 3 5 1 3 1 1b 9 a 30 9 12c 1b 14 ",
   "9 20 b 2 9 12 c 8 9 1c f 6 10 1 c 1 a 58 1b 8 7 17 8 4 9 5 8 2 9 6b b 2 10 1 b 2 c 2 f c ",
   "b a c 1 f 3 11 1 13 1 f 2 10 6 13 2 14 6 17 2 14 5 16 4 1a 3 1b 2 17 2 1b 1 17 1 1b 1 17 ",
   "5 1a 3 1b 15 17 3 16 2 f 1 c 2 b 1 9 5 7 2c 16 1 1b 3 a a 1b 6 8 38 1b 8 9 45 11 1 1b 8 ",
   "9 c 1b 6 a 1c 10 2 13 2 9 54 1b b 9 1 a 1d 1b 3 a 4e 1b 1 a b 1b 4 a 2 f 1f 1b 1 9 37 1b ",
   "9 9 e 1b 2 9 a 1b 2 9 4 a 1c f 4 a 43 1b 18 a 5 c 17 1b a b 6 1b 2 b 6 1b 2 b 6 1b 9 b 7 ",
   "1b 1 b 7 1b 1 f 30 10 4 f 2 14 2 16 4 1b 4 10 50 a 2e 1b 2 a a 1b 6 1 2ba4 1b c a 17 1b ",
   "4 a 31 1b 4 1 800 0 1a2e c 2 5 3b a 3 1b 2 7 6a 1b 26 0 7 1b c 0 5 1b 5 3 1 0 19 1b 1 0 ",
   "5 1b 1 0 1 1b 1 0 2 1b 1 0 2 1b 1 0 6c b 10 17 1 1b 10 0 16d 17 10 0 40 1b 2 0 36 1b 7 ",
   "17 1 4 20 0 c 5 1 6 1 17 2 5 10 7 a 1b 6 0 4 9 3 f 7 10 2 0 15 5 2 6 2 0 a 1b 1 0 13 1b ",
   "1 0 4 1b 4 0 3 5 1 0 1 1b 1 0 87 1b 2 0 1 1b 1 0 5e 5 2 0 5e 1b 3 0 6 1b 2 0 6 1b 2 0 6 ",
   "1b 2 0 3 1b 3 0 7 1b 1 0 7 1b a 3 3 2 1 0 3 6 c 1b 1 6 1a 1b 1 6 13 1b 1 6 2 1b 1 6 f 1b ",
   "2 6 e 1b 22 6 7b 1b 5 6 3 1b 4 6 2d 1b 3 6 9 7 4b f 2 11 2 1b 1 9 c 16 1 1b 3 f 1 1b 2f ",
   "9 2e 1b 82 9 1d 1b 3 9 31 1b f f 1c 1b 4 4 1f f 1 4 4 1b 9 12 3 4 1b 1b 5 f 2b 1b 5 6 1e ",
   "1b 1 6 1 7 24 1b 4 7 e 1b 2a 4 26 6 2 4 26 6 50 1b 2 6 a 1b 6 11 24 1b 4 11 24 1b 4 f 28 ",
   "1b 8 f 34 1b b f 1 17 b 1b 1 17 f 1b 1 17 7 1b 1 17 2 1b 1 17 b 1b 1 17 f 1b 1 17 7 1b 1 ",
   "17 2 1b 3 1a 34 1b c f 137 1b 9 f 16 1b a f 8 1b 18 17 6 1b 1 17 2a 1b 1 17 9 1b 45 6 6 ",
   "1b 2 6 1 1b 1 6 2c 1b 1 6 2 1b 3 6 1 1b 2 6 1 a 16 1b 1 a 9 f 3f 1b 8 f 9 1b 30 10 13 1b ",
   "1 10 2 1b 5 10 5 8 1a a 2 1b 3 8 1 9 1a 1b 5 9 1 1b 40 c 38 1b 4 10 2 c 2 10 10 1b 2 10 ",
   "2e 7 4 1b 1 7 2 1b 5 7 8 1b 1 7 3 1b 1 7 1b 13 2 1b 2 7 3 1b 4 7 9 13 1 1b 7 7 9 1b 7 a ",
   "20 f 20 1b 20 f 27 1b 4 f c 1b 9 a 36 1b 3 a 1d 1b 2 a 1b 1b 5 a 8 f 12 1b 7 f 4 1b c f ",
   "7 1b 50 a 49 1b 37 10 33 1b d 10 33 1b 7 10 6 13 28 1b 8 13 a 1b 6 1a 26 1b 3 1a 1d 1b 8 ",
   "1a 2 1b d0 a 1f 1b 1 16 2a 1b 1 16 3 1b 2 16 2 1b 10 1a 3 1b 37 1a 1 18 3 13 28 1b 8 13 ",
   "2a 1b 16 17 1a 1b 26 16 1c 1b 14 14 17 1b 9 b 4e 1b 4 b 1e 17 6 1b 9 f 1 a 42 17 1 1b a ",
   "13 1 1b 2 c 19 1b 7 c a 1b 6 c 35 1b 1 c e 13 3 16 1 1b 8 f 27 1b 9 c 49 10 4 f 1 16 2 c ",
   "a f 1 10 5 1b 1 f 14 1b b f 12 1b 1 f 2b 11 1 18 3 1b 3e 10 7 1b 1 10 1 1b 1 10 4 1b 1 ",
   "10 f 1b 1 10 b 1b 6 f 3b 1b 5 f a 1b 6 10 1 f 3 1b 1 f 8 1b 2 f 2 1b 2 f 16 1b 1 f 7 1b ",
   "1 f 2 1b 1 f 5 1b 1 13 1 f 9 1b 2 f 2 1b 2 f 3 1b 2 10 1 1b 6 f 1 1b 5 f 7 1b 2 f 7 1b 3 ",
   "f 5 1b b 1a a 1b 1 1a 1 1b 2 1a 1 1b 1 1a 26 1b 1 1a a 1b 1 1a 1 1b 2 1a 1 1b 1 1a 4 1b ",
   "1 1a a 1b 1 1a 2 1b 8 1a 2 1b 1d 11 5a 16 1 11 1 1b 1 11 1 13 1 14 1 16 2 1b 1e f 48 1b ",
   "8 f a 1b a6 f 36 1b 2 f 12 10 14 1b 22 f 45 1b b f a 1b 6 11 d 1b 13 c 38 14 1 17 1 1b 6 ",
   "c a 1b 6 1a 14 1b 1c 10 1a 13 1 1b 2 10 f 1b 4 10 10 17 7 1b b9 13 3c 1b 64 f 53 1b c f ",
   "1 16 7 1b 2 16 1 1b 2 16 8 1b 1 16 2 1b 1 16 1e 1b 1 16 2 1b 2 16 c 1b 9 16 a 1b 46 14 8 ",
   "1b 2 14 2e 1b 2 14 b 1b 1b 12 48 1b 8 12 34 14 2 12 17 13 1 12 5 1b d 17 10 f 39 1b 7 18 ",
   "a 1b b6 1a 22 1b e 1a a 1b 6 11 9 1b 1 11 2d 1b 1 11 e 1b a 11 1d 1b 3 11 20 1b 2 11 16 ",
   "1b 1 11 e 1b 49 12 7 1b 1 12 2 1b 1 12 2c 1b 3 12 1 1b 1 12 2 1b 1 12 9 1b 8 12 a 1b 6 ",
   "13 6 1b 1 13 2 1b 1 13 25 1b 1 13 2 1b 1 13 6 1b 7 13 a 1b 136 13 19 1b 7 18 11 1b 1 18 ",
   "29 1b 3 18 1c 1a 1 1b 55 16 1 1b f 14 32 1b d 14 1 8 36f f 2a 10 1 1b 66 8 63 f c 1b 1 8 ",
   "4 f 1 1b b 10 c4 1b a4c 17 63 1b d a 42f 18 1 14 9 18 1d 1b a 1a f9b 1b 5 10 247 1b 1ab9 ",
   "1a 3a 1b 6c6 b 239 1b 7 f 1f 1b 1 f a 1b 4 f 2 17 4f 1b 1 17 a 1b 6 f 1e 1b 2 f 6 1b a f ",
   "46 1b a f a 1b 1 f 7 1b 1 f 15 1b 5 f 13 1b 1b0 1a 3a 1b c6 13 5b 1b 65 c 45 14 6 1b 4 ",
   "14 1 c 2f 14 9 1b 7 c 11 1b 40 11 1 12 1 14 2 16 1 1b b 16 2 1b e 11 17ed 13 5 14 6 1b 8 ",
   "11 2f3 16 1e3 1b 29 1a 1 16 9 1b 22e7 17 4 1b 1 17 7 1b 1 17 2 1b 1 b 2 12 11d 17 4 1b f ",
   "18 1 1b 1d 14 3 1b 2 18 1 1b e 14 4 1b 8 12 18c 1b 904 f 6b 1b 5 f d 1b 3 f 9 1b 7 f a ",
   "1b 2 f 8 1b f5c 1a fa 1b 6 1a 1b4 1b 4c 17 2e 1b 2 17 17 1b 9 17 74 1b 3c 4 f6 1b a 4 27 ",
   "1b 2 9 1 4 b4 10 b 17 2 1b 15 7 46 1b 7a 18 14 1b c 13 14 1b c 6 57 1b 9 8 12 13 7 1b 87 ",
   "4 55 1b 1 4 47 1b 1 4 2 1b 2 4 1 1b 2 4 2 1b 2 4 4 1b 1 4 c 1b 1 4 1 1b 1 4 4 6 1 4 2 1b ",
   "1 4 41 1b 1 4 4 1b 2 4 8 1b 1 4 7 1b 1 4 1c 1b 1 4 4 1b 1 4 5 1b 1 4 1 1b 3 4 7 1b 1 4 ",
   "152 7 2 1b 2 4 122 8 2 1b 2 4 32 10 28c 1b f 10 5 1b 1 10 f 1b 450 17 1f 1b 6 18 6 1b d5 ",
   "11 7 1b 1 11 11 1b 2 11 7 1b 1 11 2 1b 1 11 5 1b 5 18 3e 1b 21 18 1 1b 70 14 2d 1b 3 14 ",
   "e 1b 2 14 a 1b 4 14 2 1b 140 17 1f 1b 11 14 3a 1b 5 14 1 1b 1d0 18 2a 1b d6 1a 2b 1b 4 ",
   "1a 1 1b 1e0 17 7 1b 1 17 4 1b 1 17 2 1b 1 17 f 1b 1 f c5 1b 2 f 10 1b 29 11 4b 14 1 1b 4 ",
   "11 a 1b 4 11 2 1b 311 13 44 1b 4c 14 3d 1b c2 c 4 1b 1 c 1b 1b 1 c 2 1b 1 c 1 1b 2 c 1 ",
   "1b 1 c a 1b 1 c 4 1b 1 c 1 1b 1 c 1 1b 6 c 1 1b 4 c 1 1b 1 c 1 1b 1 c 1 1b 1 c 3 1b 1 c ",
   "2 1b 1 c 1 1b 2 c 1 1b 1 c 1 1b 1 c 1 1b 1 c 1 1b 1 c 1 1b 1 c 2 1b 1 c 1 1b 2 c 4 1b 1 ",
   "c 7 1b 1 c 4 1b 1 c 4 1b 1 c 1 1b 1 c a 1b 1 c 11 1b 5 c 3 1b 1 c 5 1b 1 c 11 1b 34 c 2 ",
   "1b 10e 9 2c 1b 4 9 64 1b c b f 1b 2 b e f 1 1b 1 b f 1b 1 b f f 16 1b a a b f 2 16 3 a ",
   "1f 13 1 b 1 a 1 b b a 1 b 1 a 1 b 2 a 1 b 3 a 1 b 3 a 5 b 8 a 1 b 7 a 1 b a c 2 14 1 16 ",
   "3 b 9 a 1 b 1 a 2 b 2 a 1 b a a 4 b 2 a 1 b a 11 12 16 1 1b 38 b 1a a 1 b 2 1b d a 22 b ",
   "9 11 1 1b 4 a 9 1b 7 b 2 1b e 12 6 1b 9a b 21 f c 10 3 b 6 f 1 b 46 f 1 10 2 b 14 f c b ",
   "25 f 1 b 5 f 4 10 5 f c b 11 f 7 10 8 b 3f f 1 b 1 f 1 b b6 f 1 b 4 f 2 10 1 b 3e f 2 c ",
   "4 f 7 10 5 b 18 f 12 11 1 f 29 11 1 f 56 b 5 c 1 b 10 c 1 b 3 c 1 b 1 c 1 b 1 c 1 b 1 c ",
   "1 b 3 c 1 b 6 c 2 b 4 c 1 b 1 c 2 b 4 c 1 b c f 2 10 2 b b f 30 b 46 f a 10 1 11 2 12 2 ",
   "14 1 16 2 1b 4 18 1 17 3 f d 1b 3 f 4 11 3 12 2 13 1 14 1 16 2 1b 3 b 74 18 3 1b 4 18 5 ",
   "f 55 13 4 18 1 1b 6 14 c 1b 4 17 1 1b f f c 1b 4 f 38 1b 8 f a 1b 6 f 28 1b 8 f 1e 1b 2 ",
   "16 2 1a a 1b 4 1a 2 1b 3e 12 c 16 1 14 3 10 9 11 6 12 1 11 8 12 8 11 1 12 2 11 c 14 1 11 ",
   "c 12 1 13 3 11 f 12 d 13 5 14 1 16 1 13 4 16 2 17 1 13 1 14 1 13 4 10 5 11 d 12 6 13 b ",
   "16 2 14 6 16 3 14 2 13 a 14 6 10 1 13 2 14 8 16 1 17 1 14 3 12 17 13 19 14 54 1b c 13 e ",
   "1b 2 14 4 16 1 18 3 14 3 17 2 1b 3 14 3 16 4 18 2 1a 1 1b 5 1a 1 14 6 16 13 17 4 18 3 16 ",
   "7 17 4 18 3 1a 1 18 1 16 3 17 3 1a 1 1b 7 18 2 16 7 17 3 18 2 1a 1 1b 2 1a 1 17 8 18 1 ",
   "1a 1 1b 6 17 7 18 2 1b 7 16 93 1b 1 16 37 1a 25 16 a 1b 404 1 2 4 a6d7 16 7 17 2 1b 20 a ",
   "1035 17 4 18 1 1b 6 b de 1b 2 10 1682 1b e 12 1d31 1b f 19 26e 1b 9a2 4 21e 1b 5e0 1 2 ",
   "16 134b 1b 5 18 1060 1b dc4e 1 2 1b fffe 1 2 1b fffe 1 2 1b fffe 1 2 1b fffe 1 2 1b fffe ",
   "1 2 1b fffe 1 2 1b fffe 1 2 1b fffe 1 2 1b fffe 1 2 1b fffe 1 2 1b 1 4 1 1b 1e 4 60 1b ",
   "80 6 f0 1b fe0e 1 20002 1b"]

/-- The position in `ageNames` of the version that assigned a character, or
`ageNames.size` when none did. -/
def age (c : Char) : Nat := ageRuns.get ageNames.size c.toNat

end Transcribe.Unicode

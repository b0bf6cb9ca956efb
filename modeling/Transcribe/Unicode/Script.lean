import Transcribe.Unicode.Table
/-!
# `Unicode.Script` — the script of every code point, and the scripts it is used with

Every code point belongs to at most one script, such as Latin, Greek or Han; letters
shared by many scripts are Common, and marks that take the script of what they follow
are Inherited. Unassigned code points have no script here (Unicode calls that Unknown).

Some characters are used with several scripts: a Devanagari danda also punctuates
Bengali. Their script extensions name all of them. For most characters the extensions
are just the script, and the table of extensions lists only the others. The tables are
those of Unicode 16.0.
-/

namespace Transcribe.Unicode

/-- The names of the scripts, in the order of their numbers in the tables. -/
def scriptNames : Array String :=
  #["Adlam", "Ahom", "Anatolian_Hieroglyphs", "Arabic", "Armenian", "Avestan", "Balinese",
    "Bamum", "Bassa_Vah", "Batak", "Bengali", "Bhaiksuki", "Bopomofo", "Brahmi", "Braille",
    "Buginese", "Buhid", "Canadian_Aboriginal", "Carian", "Caucasian_Albanian", "Chakma",
    "Cham", "Cherokee", "Chorasmian", "Common", "Coptic", "Cuneiform", "Cypriot",
    "Cypro_Minoan", "Cyrillic", "Deseret", "Devanagari", "Dives_Akuru", "Dogra", "Duployan",
    "Egyptian_Hieroglyphs", "Elbasan", "Elymaic", "Ethiopic", "Garay", "Georgian",
    "Glagolitic", "Gothic", "Grantha", "Greek", "Gujarati", "Gunjala_Gondi", "Gurmukhi",
    "Gurung_Khema", "Han", "Hangul", "Hanifi_Rohingya", "Hanunoo", "Hatran", "Hebrew",
    "Hiragana", "Imperial_Aramaic", "Inherited", "Inscriptional_Pahlavi",
    "Inscriptional_Parthian", "Javanese", "Kaithi", "Kannada", "Katakana", "Kawi", "Kayah_Li",
    "Kharoshthi", "Khitan_Small_Script", "Khmer", "Khojki", "Khudawadi", "Kirat_Rai", "Lao",
    "Latin", "Lepcha", "Limbu", "Linear_A", "Linear_B", "Lisu", "Lycian", "Lydian", "Mahajani",
    "Makasar", "Malayalam", "Mandaic", "Manichaean", "Marchen", "Masaram_Gondi", "Medefaidrin",
    "Meetei_Mayek", "Mende_Kikakui", "Meroitic_Cursive", "Meroitic_Hieroglyphs", "Miao",
    "Modi", "Mongolian", "Mro", "Multani", "Myanmar", "Nabataean", "Nag_Mundari",
    "Nandinagari", "New_Tai_Lue", "Newa", "Nko", "Nushu", "Nyiakeng_Puachue_Hmong", "Ogham",
    "Ol_Chiki", "Ol_Onal", "Old_Hungarian", "Old_Italic", "Old_North_Arabian", "Old_Permic",
    "Old_Persian", "Old_Sogdian", "Old_South_Arabian", "Old_Turkic", "Old_Uyghur", "Oriya",
    "Osage", "Osmanya", "Pahawh_Hmong", "Palmyrene", "Pau_Cin_Hau", "Phags_Pa", "Phoenician",
    "Psalter_Pahlavi", "Rejang", "Runic", "Samaritan", "Saurashtra", "Sharada", "Shavian",
    "Siddham", "SignWriting", "Sinhala", "Sogdian", "Sora_Sompeng", "Soyombo", "Sundanese",
    "Sunuwar", "Syloti_Nagri", "Syriac", "Tagalog", "Tagbanwa", "Tai_Le", "Tai_Tham",
    "Tai_Viet", "Takri", "Tamil", "Tangsa", "Tangut", "Telugu", "Thaana", "Thai", "Tibetan",
    "Tifinagh", "Tirhuta", "Todhri", "Toto", "Tulu_Tigalari", "Ugaritic", "Vai", "Vithkuqi",
    "Wancho", "Warang_Citi", "Yezidi", "Yi", "Zanabazar_Square"]

/-- The script of every code point, as runs of script numbers; `scriptNames.size` stands
for no script. -/
def scriptRuns : RunMap := .ofPacked <| String.join
  ["0 18 41 49 1a 18 6 49 1a 18 2f 49 1 18 f 49 1 18 5 49 17 18 1 49 1f 18 1 49 1c1 18 27 49 ",
   "5 18 5 c 2 18 14 39 70 2c 4 18 1 2c 3 aa 2 2c 4 18 1 2c 1 aa 4 2c 1 18 1 2c 1 18 1 2c 3 ",
   "aa 1 2c 1 aa 1 2c 14 aa 1 2c 3f 19 e 2c 10 1d 85 39 2 1d a9 aa 1 4 26 aa 2 4 32 aa 2 4 3 ",
   "aa 1 36 37 aa 8 36 1b aa 4 36 6 aa b 3 5 18 1 3 6 18 1 3 e 18 1 3 3 18 1 3 20 18 1 3 a ",
   "39 b 3 1a 39 1 3 6c 18 1 3 22 8f e aa 1 8f 3c aa 2 8f 3 3 30 9a 32 aa e 68 3b aa 2 68 3 ",
   "82 2e aa 2 82 f aa 1 54 1c aa 2 54 1 aa 1 8f b aa 5 3 1f aa 1 3 2 aa 5 3 4b 18 1 3 1d 1f ",
   "51 39 4 1f f 18 2 1f 1a a 4 aa 1 a 8 aa 2 a 2 aa 2 a 16 aa 1 a 7 aa 1 a 1 aa 3 a 4 aa 2 ",
   "a 9 aa 2 a 2 aa 2 a 4 aa 8 a 1 aa 4 a 2 aa 1 a 5 aa 2 a 19 aa 2 2f 3 aa 1 2f 6 aa 4 2f 2 ",
   "aa 2 2f 16 aa 1 2f 7 aa 1 2f 2 aa 1 2f 2 aa 1 2f 2 aa 2 2f 1 aa 1 2f 5 aa 4 2f 2 aa 2 2f ",
   "3 aa 3 2f 1 aa 7 2f 4 aa 1 2f 1 aa 7 2f 11 aa a 2d 3 aa 1 2d 9 aa 1 2d 3 aa 1 2d 16 aa 1 ",
   "2d 7 aa 1 2d 2 aa 1 2d 5 aa 2 2d a aa 1 2d 3 aa 1 2d 3 aa 2 2d 1 aa f 2d 4 aa 2 2d c aa ",
   "7 2d 7 aa 1 77 3 aa 1 77 8 aa 2 77 2 aa 2 77 16 aa 1 77 7 aa 1 77 2 aa 1 77 5 aa 2 77 9 ",
   "aa 2 77 2 aa 2 77 3 aa 7 77 3 aa 4 77 2 aa 1 77 5 aa 2 77 12 aa a 96 2 aa 1 96 6 aa 3 96 ",
   "3 aa 1 96 4 aa 3 96 2 aa 1 96 1 aa 1 96 2 aa 3 96 2 aa 3 96 3 aa 3 96 c aa 4 96 5 aa 3 ",
   "96 3 aa 1 96 4 aa 2 96 1 aa 6 96 1 aa e 96 15 aa 5 99 d aa 1 99 3 aa 1 99 17 aa 1 99 10 ",
   "aa 2 99 9 aa 1 99 3 aa 1 99 4 aa 7 99 2 aa 1 99 3 aa 2 99 1 aa 2 99 4 aa 2 99 a aa 7 99 ",
   "9 3e d aa 1 3e 3 aa 1 3e 17 aa 1 3e a aa 1 3e 5 aa 2 3e 9 aa 1 3e 3 aa 1 3e 4 aa 7 3e 2 ",
   "aa 6 3e 2 aa 1 3e 4 aa 2 3e a aa 1 3e 3 aa c 53 d aa 1 53 3 aa 1 53 33 aa 1 53 3 aa 1 53 ",
   "6 aa 4 53 10 aa 2 53 1a aa 1 88 3 aa 1 88 12 aa 3 88 18 aa 1 88 9 aa 1 88 1 aa 2 88 7 aa ",
   "3 88 1 aa 4 88 6 aa 1 88 1 aa 1 88 8 aa 6 88 a aa 2 88 3 aa c 9b 3a aa 4 18 1 9b 1c aa ",
   "25 48 2 aa 1 48 1 aa 1 48 5 aa 1 48 18 aa 1 48 1 aa 1 48 17 aa 2 48 5 aa 1 48 1 aa 1 48 ",
   "7 aa 1 48 a aa 2 48 4 aa 20 9c 48 aa 1 9c 24 aa 4 9c 27 aa 1 9c 24 aa 1 9c f aa 1 9c 7 ",
   "18 4 9c 2 aa 25 62 a0 28 26 aa 1 28 1 aa 5 28 1 aa 2 28 2b 18 1 28 4 32 100 26 49 aa 1 ",
   "26 4 aa 2 26 7 aa 1 26 1 aa 1 26 4 aa 2 26 29 aa 1 26 4 aa 2 26 21 aa 1 26 4 aa 2 26 7 ",
   "aa 1 26 1 aa 1 26 4 aa 2 26 f aa 1 26 39 aa 1 26 4 aa 2 26 43 aa 2 26 20 aa 3 26 1a aa 6 ",
   "16 56 aa 2 16 6 aa 2 11 280 6b 1d aa 3 81 4b 18 3 81 b aa 7 90 16 aa 9 90 1 34 15 18 2 ",
   "aa 9 10 14 aa c 91 d aa 1 91 3 aa 1 91 2 aa c 44 5e aa 2 44 a aa 6 44 a aa 6 5f 2 18 2 ",
   "5f 1 18 1 5f 14 aa 6 5f 59 aa 7 5f 2b aa 5 11 46 aa a 4b 1f aa 1 4b c aa 4 4b c aa 4 4b ",
   "1 aa 3 4b c 92 1e aa 2 92 5 aa b 66 2c aa 4 66 1a aa 6 66 b aa 3 66 2 44 20 f 1c aa 2 f ",
   "2 93 3f aa 1 93 1d aa 2 93 b aa 6 93 a aa 6 93 e aa 2 39 1f aa 31 6 4d aa 1 6 32 8c 40 9 ",
   "34 aa 8 9 4 4a 38 aa 3 4a f aa 3 4a 3 6c 30 1d b aa 5 28 2b aa 2 28 3 8c 8 aa 8 39 3 18 ",
   "1 39 d 18 1 39 7 18 4 39 1 18 6 39 1 18 3 39 2 18 1 aa 5 49 26 2c 5 1d 1 49 31 2c 5 49 4 ",
   "2c 5 49 d 1d 1 49 46 2c 1 39 40 49 100 2c 16 aa 2 2c 6 aa 2 2c 26 aa 2 2c 6 aa 2 2c 8 aa ",
   "1 2c 1 aa 1 2c 1 aa 1 2c 1 aa 1 2c 1f aa 2 2c 35 aa 1 2c f aa 1 2c e aa 2 2c 6 aa 1 2c ",
   "13 aa 2 2c 3 aa 1 2c 9 aa 1 18 c 39 2 18 57 aa 1 18 b 49 1 aa 2 18 b 49 1 18 f aa 1 49 d ",
   "aa 3 18 21 aa f 39 21 aa f 18 26 2c 1 18 3 49 2 18 6 49 1 18 1b 49 1 18 11 49 29 18 3 aa ",
   "4 18 29a aa 16 18 b aa 15 18 3a0 e 100 18 274 aa 2 18 20 aa 1 18 69 29 60 49 20 19 74 aa ",
   "5 19 7 28 26 aa 1 28 1 aa 5 28 1 aa 2 9d 38 aa 7 9d 2 aa e 9d 1 26 17 aa 9 26 7 aa 1 26 ",
   "7 aa 1 26 7 aa 1 26 7 aa 1 26 7 aa 1 26 7 aa 1 26 7 aa 1 26 7 aa 1 1d 20 18 5e aa 22 31 ",
   "1a aa 1 31 59 aa c 31 d6 aa 1a 18 15 31 1 18 1 31 1 18 19 31 9 39 4 32 2 18 8 31 4 18 4 ",
   "aa 1 37 56 aa 2 39 2 18 2 37 3 18 1 3f 5a 18 2 3f 3 aa 5 c 2b aa 1 32 5e aa 1 18 10 c 20 ",
   "18 26 aa 9 18 1 3f 10 32 1f aa 1 18 40 32 1f 18 51 3f 2f 18 1 3f 58 18 a8 31 19c0 18 40 ",
   "31 5200 a8 48d aa 3 a8 37 aa 9 4e 30 a3 12c aa 14 1d 60 7 58 aa 8 18 22 49 66 18 3 49 43 ",
   "aa 2 49 2 aa 1 49 1 aa 1 49 8 aa 15 49 e 8e 2d aa 3 18 a aa 6 7d 38 aa 8 83 46 aa 8 83 c ",
   "aa 6 1f 20 41 2e 18 1 41 1 80 24 aa b 80 1 32 1d aa 3 3c 4e aa 1 18 1 3c a aa 4 3c 2 62 ",
   "1f aa 1 15 37 aa 9 15 e aa 2 15 a aa 2 15 4 62 20 94 43 aa 18 94 5 59 17 aa a 26 6 aa 2 ",
   "26 6 aa 2 26 6 aa 9 26 7 aa 1 26 7 aa 1 49 2b 18 1 49 9 2c 1 49 4 18 2 aa 4 16 50 59 2e ",
   "aa 2 59 a aa 6 32 2ba4 aa c 32 17 aa 4 32 31 aa 2104 31 16e aa 2 31 6a aa 26 49 7 aa c 4 ",
   "5 aa 5 36 1a aa 1 36 5 aa 1 36 1 aa 1 36 2 aa 1 36 2 aa 1 36 a 3 73 aa 10 3 16b 18 2 3 ",
   "50 aa 2 3 36 aa 7 3 1 aa 20 3 10 39 10 18 a aa 6 39 e 1d 2 18 23 aa 1 18 13 aa 1 18 4 aa ",
   "4 3 5 aa 1 3 87 aa 2 18 1 aa 1 18 20 49 1a 18 6 49 1a 18 b 3f a 18 1 3f 2d 18 2 32 1f aa ",
   "3 32 6 aa 2 32 6 aa 2 32 6 aa 2 32 3 aa 3 18 7 aa 1 18 7 aa a 18 5 aa 2 4d c aa 1 4d 1a ",
   "aa 1 4d 13 aa 1 4d 2 aa 1 4d f aa 2 4d e aa 22 4d 7b aa 5 18 3 aa 4 18 2d aa 3 18 9 2c ",
   "4f aa 1 18 d aa 3 2c 1 aa 2f 18 2d 39 1 aa 82 4f 1d aa 3 12 31 aa f 39 1 18 1b aa 4 6f ",
   "24 aa 9 6f 3 2a 1b aa 5 71 2b aa 5 a2 1e aa 1 a2 1 72 24 aa 4 72 e aa 2a 1e 50 85 30 79 ",
   "1e aa 2 79 a aa 6 78 24 aa 4 78 24 aa 4 24 28 aa 8 13 34 aa b 13 1 a4 b aa 1 a4 f aa 1 ",
   "a4 7 aa 1 a4 2 aa 1 a4 b aa 1 a4 f aa 1 a4 7 aa 1 a4 2 aa 3 9f 34 aa c 4c 137 aa 9 4c 16 ",
   "aa a 4c 8 aa 18 49 6 aa 1 49 2a aa 1 49 9 aa 45 1b 6 aa 2 1b 1 aa 1 1b 2c aa 1 1b 2 aa 3 ",
   "1b 1 aa 2 1b 1 38 16 aa 1 38 9 7b 20 63 1f aa 8 63 9 aa 30 35 13 aa 1 35 2 aa 5 35 5 7e ",
   "1c aa 3 7e 1 50 1a aa 5 50 1 aa 40 5c 20 5b 18 aa 4 5b 14 aa 2 5b 2e 42 4 aa 1 42 2 aa 5 ",
   "42 8 aa 1 42 3 aa 1 42 1d aa 2 42 3 aa 4 42 a aa 7 42 9 aa 7 74 20 70 20 aa 20 55 27 aa ",
   "4 55 c aa 9 5 36 aa 3 5 7 3b 16 aa 2 3b 8 3a 13 aa 5 3a 8 7f 12 aa 7 7f 4 aa c 7f 7 aa ",
   "50 75 49 aa 37 6e 33 aa d 6e 33 aa 7 6e 6 33 28 aa 8 33 a aa 6 27 26 aa 3 27 1d aa 8 27 ",
   "2 aa d0 3 1f aa 1 a7 2a aa 1 a7 3 aa 2 a7 2 aa 10 3 3 aa 37 3 4 73 28 aa 8 89 2a aa 16 ",
   "76 1a aa 26 17 1c aa 14 25 17 aa 9 d 4e aa 4 d 24 aa 9 d 1 3d 43 aa a 3d 1 aa 2 8a 19 aa ",
   "7 8a a aa 6 14 35 aa 1 14 12 aa 8 51 27 aa 9 84 60 aa 1 88 14 aa b 45 12 aa 1 45 2f aa ",
   "3e 61 7 aa 1 61 1 aa 1 61 4 aa 1 61 f aa 1 61 b aa 6 46 3b aa 5 46 a aa 6 2b 4 aa 1 2b 8 ",
   "aa 2 2b 2 aa 2 2b 16 aa 1 2b 7 aa 1 2b 2 aa 1 2b 5 aa 1 39 1 2b 9 aa 2 2b 2 aa 2 2b 3 aa ",
   "2 2b 1 aa 6 2b 1 aa 5 2b 7 aa 2 2b 7 aa 3 2b 5 aa b a1 a aa 1 a1 1 aa 2 a1 1 aa 1 a1 26 ",
   "aa 1 a1 a aa 1 a1 1 aa 2 a1 1 aa 1 a1 4 aa 1 a1 a aa 1 a1 2 aa 8 a1 2 aa 1d 67 5c aa 1 ",
   "67 5 aa 1e 9e 48 aa 8 9e a aa a6 86 36 aa 2 86 26 aa 22 5e 45 aa b 5e a aa 6 5f d aa 13 ",
   "95 3a aa 6 95 a aa 6 62 14 aa 1c 1 1b aa 2 1 f aa 4 1 17 aa b9 21 3c aa 64 a6 53 aa c a6 ",
   "1 20 7 aa 2 20 1 aa 2 20 8 aa 1 20 2 aa 1 20 1e aa 1 20 2 aa 2 20 c aa 9 20 a aa 46 65 8 ",
   "aa 2 65 2e aa 2 65 b aa 1b a9 48 aa 8 8b 53 aa d 11 10 7c 39 aa 7 1f a aa b6 8d 22 aa e ",
   "8d a aa 6 b 9 aa 1 b 2d aa 1 b e aa a b 1d aa 3 56 20 aa 2 56 16 aa 1 56 e aa 49 57 7 aa ",
   "1 57 2 aa 1 57 2c aa 3 57 1 aa 1 57 2 aa 1 57 9 aa 8 57 a aa 6 2e 6 aa 1 2e 2 aa 1 2e 25 ",
   "aa 1 2e 2 aa 1 2e 6 aa 7 2e a aa 136 52 19 aa 7 40 11 aa 1 40 29 aa 3 40 1d aa 55 4e 1 ",
   "aa f 96 32 aa d 96 1 1a 39a aa 66 1a 6f aa 1 1a 5 aa b 1a c4 aa a4c 1c 63 aa d 23 456 aa ",
   "a 23 f9b aa 5 2 247 aa 1ab9 30 3a aa 6c6 7 239 aa 7 60 1f aa 1 60 a aa 4 60 2 97 4f aa 1 ",
   "97 a aa 6 8 1e aa 2 8 6 aa a 7a 46 aa a 7a a aa 1 7a 7 aa 1 7a 15 aa 5 7a 13 aa 1b0 47 ",
   "3a aa c6 58 5b aa 65 5d 4b aa 4 5d 39 aa 7 5d 11 aa 40 98 1 69 1 31 2 43 1 aa b 31 2 aa ",
   "e 98 17f8 aa 8 98 300 43 1d6 aa 29 43 1 98 9 aa 22e7 3f 4 aa 1 3f 7 aa 1 3f 2 aa 1 3f 1 ",
   "37 11f 3f 3 aa f 37 1 aa 1d 37 3 aa 2 3f 1 aa e 3f 4 aa 8 69 18c aa 904 22 6b aa 5 22 d ",
   "aa 3 22 9 aa 7 22 a aa 2 22 4 18 4 aa f5c 18 fa aa 6 18 1b4 aa 4c 39 2e aa 2 39 17 aa 9 ",
   "18 74 aa 3c 18 f6 aa a 18 27 aa 2 18 3e 39 3 18 11 39 8 18 2 39 7 18 1e 39 4 18 3d aa 15 ",
   "2c 46 aa 7a 18 14 aa c 18 14 aa c 18 57 aa 9 18 19 aa 87 18 55 aa 1 18 47 aa 1 18 2 aa 2 ",
   "18 1 aa 2 18 2 aa 2 18 4 aa 1 18 c aa 1 18 1 aa 1 18 7 aa 1 18 41 aa 1 18 4 aa 2 18 8 aa ",
   "1 18 7 aa 1 18 1c aa 1 18 4 aa 1 18 5 aa 1 18 1 aa 3 18 7 aa 1 18 154 aa 2 18 124 aa 2 ",
   "18 32 87 28c aa f 87 5 aa 1 87 f aa 450 49 1f aa 6 49 6 aa d5 29 7 aa 1 29 11 aa 2 29 7 ",
   "aa 1 29 2 aa 1 29 5 aa 5 1d 3e aa 21 1d 1 aa 70 6a 2d aa 3 6a e aa 2 6a a aa 4 6a 2 aa ",
   "140 a0 1f aa 11 a5 3a aa 5 a5 1 aa 1d0 64 2a aa d6 6d 2b aa 4 6d 1 aa 1e0 26 7 aa 1 26 4 ",
   "aa 1 26 2 aa 1 26 f aa 1 5a c5 aa 2 5a 10 aa 29 0 4c aa 4 0 a aa 4 0 2 aa 311 18 44 aa ",
   "4c 18 3d aa c2 3 4 aa 1 3 1b aa 1 3 2 aa 1 3 1 aa 2 3 1 aa 1 3 a aa 1 3 4 aa 1 3 1 aa 1 ",
   "3 1 aa 6 3 1 aa 4 3 1 aa 1 3 1 aa 1 3 1 aa 1 3 3 aa 1 3 2 aa 1 3 1 aa 2 3 1 aa 1 3 1 aa ",
   "1 3 1 aa 1 3 1 aa 1 3 1 aa 1 3 2 aa 1 3 1 aa 2 3 4 aa 1 3 7 aa 1 3 4 aa 1 3 4 aa 1 3 1 ",
   "aa 1 3 a aa 1 3 11 aa 5 3 3 aa 1 3 5 aa 1 3 11 aa 34 3 2 aa 10e 18 2c aa 4 18 64 aa c 18 ",
   "f aa 2 18 f aa 1 18 f aa 1 18 25 aa a 18 ae aa 38 18 1a 37 1 18 2 aa d 18 2c aa 4 18 9 ",
   "aa 7 18 2 aa e 18 6 aa 9a 18 3d8 aa 4 18 11 aa 3 18 d aa 3 18 77 aa 4 18 5f aa 6 18 c aa ",
   "4 18 1 aa f 18 c aa 4 18 38 aa 8 18 a aa 6 18 28 aa 8 18 1e aa 2 18 c aa 4 18 2 aa 3e 18 ",
   "154 aa c 18 e aa 2 18 d aa 3 18 a aa 5 18 38 aa 7 18 f aa 2 18 b aa 6 18 9 aa 7 18 93 aa ",
   "1 18 66 aa 406 31 a6e0 aa 20 31 103a aa 6 31 de aa 2 31 1682 aa e 31 1d31 aa f 31 26e aa ",
   "9a2 31 21e aa 5e2 31 134b aa 5 31 1060 aa adc51 18 1 aa 1e 18 60 aa 80 39 f0 aa"]

/-- The script extensions that differ from the script alone, as runs: `k + 1` names the
`k`-th set of `extensionSets`, `0` the script alone. -/
def extensionRuns : RunMap := .ofPacked <| String.join
  ["0 0 b7 1 1 0 204 2 1 0 a 3 1 0 1 3 3 0 1 4 1 0 9 5 1 0 1 3 1 0 26 6 1 7 1 8 1 9 1 a 1 b ",
   "1 c 1 d 1 e 1 f 1 10 1 11 1 12 1 13 1 14 1 0 1 13 1 15 1 0 1 16 1 0 f 17 1 18 1 19 1 0 7 ",
   "1a 1 19 1 0 1 1b 1 1c 1 0 10 1d 1 0 2 1d 1 0 12 1e 1 0 5 1f 1 0 4 20 d 0 4 21 2 0 10d 22 ",
   "1 23 1 24 2 23 1 0 101 25 1 0 82 26 1 0 e 26 1 27 1 0 2 28 1 0 20 29 1 0 a 2a b 0 a 2b a ",
   "0 6 2a 1 0 63 2c 1 0 27c 2d 1 2e 1 0 11 2f 1 30 1 31 a 0 76 32 a 0 76 33 a 0 76 34 a 0 ",
   "f6 35 e 0 f2 36 a 0 350 37 a 0 b1 38 1 0 5ef 39 3 0 47 3a 2 0 cb 3b 2 0 1 3b 1 0 4ca 3c ",
   "1 3d 1 3c 1 3e 1 3d 1 3f 1 40 1 41 1 42 1 43 1 44 1 3d 1 43 2 3d 2 43 1 45 1 46 1 3d 6 ",
   "47 1 48 1 49 1 3d 1 4a 1 3d 4 4b 1 4c 1 4d 1 45 2 4e 1 4c 2 4f 1 0 c5 1d 2 0 36 50 1 0 1 ",
   "51 1 0 234 52 1 0 1f 53 1 0 a 54 1 0 2 55 1 0 92 56 1 0 d26 57 1 0 18 58 1 59 1 0 a 5a 1 ",
   "0 4 5b 1 0 1 23 1 0 1ac 5c 10 0 1 5d 1 5e 1 5f 1 0 2 60 1 0 1 61 2 62 2 63 6 0 1 5f 1 63 ",
   "8 5f 4 0 a 64 4 0 2 5f 1 65 5 0 1 5f 1 0 4 66 2 60 2 0 59 65 4 0 3 65 1 0 5a 63 1 65 1 0 ",
   "93 60 10 0 20 60 26 0 9 5c 1 0 30 60 28 0 38 60 31 0 f 60 c 0 33 60 1 0 58 60 19 0 a 60 ",
   "5 0 60 60 1f 0 7270 23 1 0 90 67 8 0 128 68 3 69 3 6a 2 6b 1 6a 1 0 b7 6c 1 0 1 6d 1 0 ",
   "3a 6e 1 0 a0 6f 1 0 536e 70 2 0 b2 71 1 0 a 71 1 0 47 5f 2 0 11a 63 5 0 a 65 1 0 2d 65 2 ",
   "0 160 72 2 73 1 0 4 74 2d 0 3 73 9 0 1a0 75 1c 0 7f6 76 1 0 80e 35 1 0 1 35 1 0 37 35 2 ",
   "0 c93 35 2 0 1 35 1 0 9ccc 5a 4 0 16bc 60 12 0 1ede 60 2 0"]

/-- The sets of scripts that script extensions name. -/
def extensionSets : Array (List Nat) := readGroups <| readNumbers <| String.join
  ["10 5 12 19 22 24 28 29 2a 2c 2e 31 49 50 51 71 85 7 a 1d 1f 49 4e 9b a0 2 c 49 2 49 4e 2 ",
   "49 9b 8 16 19 1d 2c 49 71 8d 92 8 16 1d 2c 49 78 8d 92 9f 4 16 1d 49 9d 5 29 49 8d 8f 9b ",
   "b 13 16 19 1d 2a 2c 49 78 8f 9d 9f 6 19 24 29 2a 3f 49 5 1d 2c 49 71 9d 9 19 22 36 49 71 ",
   "8f 92 9d 9f b 4 1d 22 2a 2c 36 49 71 8f 92 9d 2 49 9d 3 22 49 8f 4 16 1d 49 78 3 16 49 ",
   "92 2 49 8d 2 26 49 3 1d 49 9f 4 2c 49 71 9f 6 16 22 3f 49 8f 9d 4 16 22 49 8f 2 49 8f 3 ",
   "49 8d 8f 3 16 49 8f 7 13 16 2a 49 8d 8f 9b 1 2c 2 49 78 3 13 49 9f 1 49 2 19 2c 2 1d 71 ",
   "2 1d 29 2 1d 49 3 4 28 29 7 3 27 33 68 8f 9a a7 3 3 8f 9a 8 0 3 27 33 68 8f 9a a7 9 0 3 ",
   "33 54 55 76 7f 89 8f 2 3 8f 3 3 9a a7 2 3 33 f a 1f 2b 2d 2f 3e 49 53 65 67 77 84 96 99 ",
   "9e d a 1f 2b 2d 2f 3e 49 53 67 77 96 99 9e 15 a 1f 21 2b 2d 2e 2f 3e 46 51 53 57 65 6d ",
   "77 88 8e 95 96 99 9e 17 a 1f 21 2b 2d 2e 2f 30 3e 46 4b 51 53 57 65 6d 77 88 8e 95 96 99 ",
   "9e 4 1f 21 3d 51 3 a 14 8e 2 2f 61 2 2d 45 2 2b 96 3 3e 65 a1 3 14 62 92 3 28 29 49 1 81 ",
   "4 10 34 90 91 2 5f 7d 4 a 1f 2b 3e 1 1f 3 1f 2b 3e 5 a 1f 67 99 9e 3 a 1f 99 3 1f 67 84 ",
   "4 a 1f 67 99 2 1f 84 6 1f 3e 53 77 96 99 2 a 1f 3 1f 67 9e 3 1f 65 67 3 a 1f 84 2 1f 67 ",
   "4 a 1f 67 84 b a 1f 2b 3e 53 65 77 88 99 9e a1 2 1f 2b 4 1f 2b 3e a1 1 a 1 65 3 1d 49 8f ",
   "1 8f 3 49 5f 7d 2 0 3 6 12 28 29 4f 6e 75 4 12 2c 5c 6e 3 1f 2b 49 2 19 49 2 5 75 7 5 12 ",
   "28 3d 50 6e 82 1 22 3 0 3 6e 2 31 98 7 c 31 32 37 3f 5f a8 8 c 31 32 37 3f 5f 7d a8 5 c ",
   "31 32 37 3f 1 31 8 c 31 32 37 3f 5f 9c a8 9 c 31 32 37 3f 4e 5f 9c a8 6 c 31 32 37 3f a8 ",
   "2 c 31 2 37 3f 3 31 37 3f 2 31 49 10 1f 21 2d 2f 3d 3e 45 46 51 53 5e 65 84 95 9e a1 f ",
   "1f 21 2d 2f 3d 3e 45 46 51 5e 65 84 95 9e a1 b 1f 21 2d 2f 3d 45 46 51 5e 95 9e c 1f 21 ",
   "2d 2f 3d 45 46 51 5e 84 95 9e 3 a 1f a1 2 1f 96 3 41 49 62 2 f 3c 2 3 68 2 3 9a 3 1b 1c ",
   "4d 2 1b 4d 3 1b 4c 4d 2 3 19 2 55 76"]

/-- The number of a character's script, if it has one. -/
def script? (c : Char) : Option Nat :=
  let k := scriptRuns.get scriptNames.size c.toNat
  if k < scriptNames.size then some k else none

/-- The numbers of the scripts a character is used with. -/
def scriptExtensions (c : Char) : List Nat :=
  match extensionRuns.get 0 c.toNat with
  | 0 => (script? c).toList
  | k + 1 => extensionSets[k]?.getD []

/-- The number of a script's name. -/
def scriptNumber? (name : String) : Option Nat := scriptNames.findIdx? (· == name)

end Transcribe.Unicode

import FirstClaim.Unicode.Table

/-!
# Scripts

The characters of each script, under the names and four-letter codes of the script.
-/

set_option autoImplicit false

namespace FirstClaim.Unicode

def scripts : Table := [
  ⟨["adlam", "adlm"],
    "125184 76 4 10 4 2"⟩,
  ⟨["ahom"],
    "71424 27 2 15 4 23"⟩,
  ⟨["anatolianhieroglyphs", "hluw"],
    "82944 583"⟩,
  ⟨["arabic", "arab"],
    "1536 5 1 6 1 14 1 3 1 32 1 10 11 26 1 108 1 34 80 48 240 34 5 75 1 29 62032 494 2 144 32 16
    112 5 1 135 3939 31 67 6 8 9 33 6 57088 4 1 27 1 2 1 1 2 1 1 10 1 4 1 1 1 1 6 1 4 1 1 1 1 1
    1 3 1 2 1 1 2 1 1 1 1 1 1 1 1 1 1 2 1 1 2 4 1 7 1 4 1 4 1 1 1 10 1 17 5 3 1 5 1 17 52 2"⟩,
  ⟨["armenian", "armn"],
    "1329 38 2 50 2 3 62851 5"⟩,
  ⟨["avestan", "avst"],
    "68352 54 3 7"⟩,
  ⟨["balinese", "bali"],
    "6912 77 1 50"⟩,
  ⟨["bamum", "bamu"],
    "42656 88 49416 569"⟩,
  ⟨["bassavah", "bass"],
    "92880 30 2 6"⟩,
  ⟨["batak", "batk"],
    "7104 52 8 4"⟩,
  ⟨["bengali", "beng"],
    "2432 4 1 8 2 2 2 22 1 7 1 1 3 4 2 9 2 2 2 4 8 1 4 2 1 5 2 25"⟩,
  ⟨["beriaerfe", "berf"],
    "93856 25 2 25"⟩,
  ⟨["bhaiksuki", "bhks"],
    "72704 9 1 45 1 14 10 29"⟩,
  ⟨["bopomofo", "bopo"],
    "746 2 11801 43 112 32"⟩,
  ⟨["brahmi", "brah"],
    "69632 78 4 36 9 1"⟩,
  ⟨["braille", "brai"],
    "10240 256"⟩,
  ⟨["buginese", "bugi"],
    "6656 28 2 2"⟩,
  ⟨["buhid", "buhd"],
    "5952 20"⟩,
  ⟨["canadianaboriginal", "cans"],
    "5120 640 560 70 65978 16"⟩,
  ⟨["carian", "cari"],
    "66208 49"⟩,
  ⟨["caucasianalbanian", "aghb"],
    "66864 52 11 1"⟩,
  ⟨["chakma", "cakm"],
    "69888 53 1 18"⟩,
  ⟨["cham"],
    "43520 55 9 14 2 10 2 4"⟩,
  ⟨["cherokee", "cher"],
    "5024 86 2 6 38770 80"⟩,
  ⟨["chorasmian", "chrs"],
    "69552 28"⟩,
  ⟨["common", "zyyy"],
    "0 65 26 6 26 47 1 15 1 5 23 1 31 1 449 39 5 5 2 20 116 1 9 1 6 1 1 1 637 1 6 1 14 1 3 1 32 1
    156 1 516 1 129 2 1241 1 405 4 290 1 1519 3 71 2 203 2 1 1 1229 1 13 1 7 4 1 6 1 3 2 1 773
    12 2 87 1 11 3 11 1 15 17 34 62 38 1 3 2 6 1 27 1 17 41 3 4 666 22 11 21 928 256 628 2 138
    512 94 402 21 1 1 1 25 15 8 4 4 91 2 3 1 90 2 147 16 32 38 9 1 48 64 31 81 47 1 88 168 6592
    64 22784 34 102 3 165 10 244 1 160 1 395 1 14 2 20946 2 208 10 22 35 1 19 1 4 147 1 1 32 26
    6 26 11 10 1 45 2 64 7 1 7 10 5 258 3 4 45 3 9 80 13 51 45 228 27 47524 4 3932 253 3 436 6
    23 15 17 95 116 60 246 10 39 2 62 3 17 8 2 7 30 4 61 213 20 12 20 12 87 9 25 135 85 1 71 1 2
    2 1 2 2 2 4 1 12 1 1 1 7 1 65 1 4 2 8 1 7 1 28 1 4 1 5 1 1 3 7 1 340 2 292 2 50 5233 68 76
    61 706 44 4 100 12 15 2 15 1 15 1 37 10 174 56 26 1 2 13 44 4 9 7 2 14 6 154 985 3 17 3 13 3
    218 6 12 4 1 15 12 4 56 8 10 6 40 8 30 2 12 4 2 14 9 39 344 8 14 2 13 3 11 3 57 1 1 4 16 2
    12 4 10 7 147 1 103 787462 1 30 96"⟩,
  ⟨["coptic", "copt", "qaac"],
    "994 14 10384 116 5 7"⟩,
  ⟨["cuneiform", "xsux"],
    "73728 922 102 111 1 5 11 196"⟩,
  ⟨["cypriot", "cprt"],
    "67584 6 2 1 1 44 1 2 3 1 2 1"⟩,
  ⟨["cyprominoan", "cpmn"],
    "77712 99"⟩,
  ⟨["cyrillic", "cyrl"],
    "1024 133 2 169 5968 11 160 1 76 1 4199 32 30784 96 22414 2 57856 62 33 1"⟩,
  ⟨["deseret", "dsrt"],
    "66560 80"⟩,
  ⟨["devanagari", "deva"],
    "2304 81 4 15 2 26 40800 32 29184 10"⟩,
  ⟨["divesakuru", "diak"],
    "71936 7 2 1 2 8 1 2 1 30 1 2 2 12 9 10"⟩,
  ⟨["dogra", "dogr"],
    "71680 60"⟩,
  ⟨["duployan", "dupl"],
    "113664 107 5 13 3 9 7 10 2 4"⟩,
  ⟨["egyptianhieroglyphs", "egyp"],
    "77824 1110 10 3995"⟩,
  ⟨["elbasan", "elba"],
    "66816 40"⟩,
  ⟨["elymaic", "elym"],
    "69600 23"⟩,
  ⟨["ethiopic", "ethi"],
    "4608 73 1 4 2 7 1 1 1 4 2 41 1 4 2 33 1 4 2 7 1 1 1 4 2 15 1 57 1 4 2 67 2 32 3 26 6630 23 9
    7 1 7 1 7 1 7 1 7 1 7 1 7 1 7 32034 6 2 6 2 6 9 7 1 7 81073 7 1 4 1 2 1 15"⟩,
  ⟨["garay", "gara"],
    "68928 38 3 29 8 2"⟩,
  ⟨["georgian", "geor"],
    "4256 38 1 1 5 1 2 43 1 4 2960 43 2 3 4160 38 1 1 5 1"⟩,
  ⟨["glagolitic", "glag"],
    "11264 96 111520 7 1 17 2 7 1 2 1 5"⟩,
  ⟨["gothic", "goth"],
    "66352 27"⟩,
  ⟨["grantha", "gran"],
    "70400 4 1 8 2 2 2 22 1 7 1 2 1 5 2 9 2 2 2 3 2 1 6 1 5 7 2 7 3 5"⟩,
  ⟨["greek", "grek"],
    "880 4 1 3 2 4 1 1 4 1 1 1 1 3 1 1 1 20 1 63 14 16 6438 5 50 5 4 5 84 1 320 22 2 6 2 38 2 6 2
    8 1 1 1 1 1 1 1 31 2 53 1 15 1 14 2 6 1 19 2 3 1 9 295 1 35390 1 21978 79 17 1 53343 70"⟩,
  ⟨["gujarati", "gujr"],
    "2689 3 1 9 1 3 1 22 1 7 1 2 1 5 2 10 1 3 1 3 2 1 15 4 2 12 7 7"⟩,
  ⟨["gunjalagondi", "gong"],
    "73056 6 1 2 1 37 1 2 1 6 7 10"⟩,
  ⟨["gurmukhi", "guru"],
    "2561 3 1 6 4 2 2 22 1 7 1 2 1 2 1 2 2 1 1 5 4 2 2 3 3 1 7 4 1 1 7 17"⟩,
  ⟨["gurungkhema", "gukh"],
    "90368 58"⟩,
  ⟨["han", "hani"],
    "11904 26 1 89 12 214 47 1 1 1 25 9 14 4 964 6592 64 20992 22784 366 2 106 29960 2 12 7 36873
    42720 32 4382 2 5774 2 7473 15 622 2466 542 1506 4939 5 8490"⟩,
  ⟨["hangul", "hang"],
    "4352 256 7726 2 257 94 113 31 65 31 30433 29 643 11172 12 23 4 49 10148 31 3 6 2 6 2 6 2 3"⟩,
  ⟨["hanifirohingya", "rohg"],
    "68864 40 8 10"⟩,
  ⟨["hanunoo", "hano"],
    "5920 21"⟩,
  ⟨["hatran", "hatr"],
    "67808 19 1 2 5 5"⟩,
  ⟨["hebrew", "hebr"],
    "1425 55 8 27 4 6 62760 26 1 5 1 1 1 2 1 2 1 10"⟩,
  ⟨["hiragana", "hira"],
    "12353 86 6 3 98145 287 18 1 29 3 16557 1"⟩,
  ⟨["imperialaramaic", "armi"],
    "67648 22 1 9"⟩,
  ⟨["inherited", "zinh", "qaai"],
    "768 112 277 2 452 11 26 1 736 4 4443 46 2 12 484 3 1 13 1 7 4 1 6 1 3 2 198 64 524 2 194 33
    3897 4 107 2 52581 16 16 14 975 1 226 1 4186 1 48068 46 2 23 544 3 17 8 2 7 30 4 798546 240"⟩,
  ⟨["inscriptionalpahlavi", "phli"],
    "68448 19 5 8"⟩,
  ⟨["inscriptionalparthian", "prti"],
    "68416 22 2 8"⟩,
  ⟨["javanese", "java"],
    "43392 78 2 10 4 2"⟩,
  ⟨["kaithi", "kthi"],
    "69760 67 10 1"⟩,
  ⟨["kannada", "knda"],
    "3200 13 1 3 1 23 1 10 1 5 2 9 1 3 1 4 7 2 5 3 1 4 2 10 1 3"⟩,
  ⟨["katakana", "kana"],
    "12449 90 2 3 240 16 208 47 1 88 52238 10 1 45 45138 4 1 7 1 2 1 1 287 3 50 1 14 4"⟩,
  ⟨["katakanaorhiragana", "hrkt"],
    ""⟩,
  ⟨["kawi"],
    "73472 17 1 41 3 29"⟩,
  ⟨["kayahli", "kali"],
    "43264 46 1 1"⟩,
  ⟨["kharoshthi", "khar"],
    "68096 4 1 2 5 8 1 3 1 29 2 3 4 10 7 9"⟩,
  ⟨["khitansmallscript", "kits"],
    "94180 1 6939 470 41 1"⟩,
  ⟨["khmer", "khmr"],
    "6016 94 2 10 6 10 486 32"⟩,
  ⟨["khojki", "khoj"],
    "70144 18 1 47"⟩,
  ⟨["khudawadi", "sind"],
    "70320 59 5 10"⟩,
  ⟨["kiratrai", "krai"],
    "93504 58"⟩,
  ⟨["lao", "laoo"],
    "3713 2 1 1 1 5 1 24 1 1 1 23 2 5 1 1 1 7 1 10 2 4"⟩,
  ⟨["latin", "latn"],
    "65 26 6 26 47 1 15 1 5 23 1 31 1 449 39 5 6683 38 6 49 5 4 5 13 1 70 65 256 369 1 13 1 16 13
    141 2 6 1 27 1 17 41 2775 32 31394 102 3 82 20 15 816 43 1 9 1 4 20374 7 1050 26 6 26 2085 6
    1 42 1 9 55109 31 6 6"⟩,
  ⟨["lepcha", "lepc"],
    "7168 56 3 15 3 3"⟩,
  ⟨["limbu", "limb"],
    "6400 31 1 12 4 12 4 1 3 12"⟩,
  ⟨["lineara", "lina"],
    "67072 311 9 22 10 8"⟩,
  ⟨["linearb", "linb"],
    "65536 12 1 26 1 19 1 2 1 15 2 14 34 123"⟩,
  ⟨["lisu"],
    "42192 48 31408 1"⟩,
  ⟨["lycian", "lyci"],
    "66176 29"⟩,
  ⟨["lydian", "lydi"],
    "67872 26 5 1"⟩,
  ⟨["mahajani", "mahj"],
    "69968 39"⟩,
  ⟨["makasar", "maka"],
    "73440 25"⟩,
  ⟨["malayalam", "mlym"],
    "3328 13 1 3 1 51 1 3 1 6 4 16 2 26"⟩,
  ⟨["mandaic", "mand"],
    "2112 28 2 1"⟩,
  ⟨["manichaean", "mani"],
    "68288 39 4 12"⟩,
  ⟨["marchen", "marc"],
    "72816 32 2 22 1 14"⟩,
  ⟨["masaramgondi", "gonm"],
    "72960 7 1 2 1 44 3 1 1 2 1 9 8 10"⟩,
  ⟨["medefaidrin", "medf"],
    "93760 91"⟩,
  ⟨["meeteimayek", "mtei"],
    "43744 23 201 46 2 10"⟩,
  ⟨["mendekikakui", "mend"],
    "124928 197 2 16"⟩,
  ⟨["meroiticcursive", "merc"],
    "68000 24 4 20 2 46"⟩,
  ⟨["meroitichieroglyphs", "mero"],
    "67968 32"⟩,
  ⟨["miao", "plrd"],
    "93952 75 4 57 7 17"⟩,
  ⟨["modi"],
    "71168 69 11 10"⟩,
  ⟨["mongolian", "mong"],
    "6144 2 2 1 1 20 6 89 7 43 64949 13"⟩,
  ⟨["mro", "mroo"],
    "92736 31 1 10 4 2"⟩,
  ⟨["multani", "mult"],
    "70272 7 1 1 1 4 1 15 1 11"⟩,
  ⟨["myanmar", "mymr"],
    "4096 160 39232 31 97 32 27728 20"⟩,
  ⟨["nabataean", "nbat"],
    "67712 31 8 9"⟩,
  ⟨["nagmundari", "nagm"],
    "124112 42"⟩,
  ⟨["nandinagari", "nand"],
    "72096 8 2 46 2 11"⟩,
  ⟨["newtailue", "talu"],
    "6528 44 4 26 6 11 3 2"⟩,
  ⟨["newa"],
    "70656 92 1 5"⟩,
  ⟨["nko", "nkoo"],
    "1984 59 2 3"⟩,
  ⟨["nushu", "nshu"],
    "94177 1 16782 396"⟩,
  ⟨["nyiakengpuachuehmong", "hmnp"],
    "123136 45 3 14 2 10 4 2"⟩,
  ⟨["ogham", "ogam"],
    "5760 29"⟩,
  ⟨["olchiki", "olck"],
    "7248 48"⟩,
  ⟨["olonal", "onao"],
    "124368 43 4 1"⟩,
  ⟨["oldhungarian", "hung"],
    "68736 51 13 51 7 6"⟩,
  ⟨["olditalic", "ital"],
    "66304 36 9 3"⟩,
  ⟨["oldnortharabian", "narb"],
    "68224 32"⟩,
  ⟨["oldpermic", "perm"],
    "66384 43"⟩,
  ⟨["oldpersian", "xpeo"],
    "66464 36 4 14"⟩,
  ⟨["oldsogdian", "sogo"],
    "69376 40"⟩,
  ⟨["oldsoutharabian", "sarb"],
    "68192 32"⟩,
  ⟨["oldturkic", "orkh"],
    "68608 73"⟩,
  ⟨["olduyghur", "ougr"],
    "69488 26"⟩,
  ⟨["oriya", "orya"],
    "2817 3 1 8 2 2 2 22 1 7 1 2 1 5 2 9 2 2 2 3 7 3 4 2 1 5 2 18"⟩,
  ⟨["osage", "osge"],
    "66736 36 4 36"⟩,
  ⟨["osmanya", "osma"],
    "66688 30 2 10"⟩,
  ⟨["pahawhhmong", "hmng"],
    "92928 70 10 10 1 7 1 21 5 19"⟩,
  ⟨["palmyrene", "palm"],
    "67680 32"⟩,
  ⟨["paucinhau", "pauc"],
    "72384 57"⟩,
  ⟨["phagspa", "phag"],
    "43072 56"⟩,
  ⟨["phoenician", "phnx"],
    "67840 28 3 1"⟩,
  ⟨["psalterpahlavi", "phlp"],
    "68480 18 7 4 12 7"⟩,
  ⟨["rejang", "rjng"],
    "43312 36 11 1"⟩,
  ⟨["runic", "runr"],
    "5792 75 3 11"⟩,
  ⟨["samaritan", "samr"],
    "2048 46 2 15"⟩,
  ⟨["saurashtra", "saur"],
    "43136 70 8 12"⟩,
  ⟨["sharada", "shrd"],
    "70016 96 2432 8"⟩,
  ⟨["shavian", "shaw"],
    "66640 48"⟩,
  ⟨["siddham", "sidd"],
    "71040 54 2 38"⟩,
  ⟨["sidetic", "sidt"],
    "67904 26"⟩,
  ⟨["signwriting", "sgnw"],
    "120832 652 15 5 1 15"⟩,
  ⟨["sinhala", "sinh"],
    "3457 3 1 18 3 24 1 9 1 1 2 7 3 1 4 6 1 1 1 8 6 10 2 3 66540 20"⟩,
  ⟨["sogdian", "sogd"],
    "69424 42"⟩,
  ⟨["sorasompeng", "sora"],
    "69840 25 7 10"⟩,
  ⟨["soyombo", "soyo"],
    "72272 83"⟩,
  ⟨["sundanese", "sund"],
    "7040 64 256 8"⟩,
  ⟨["sunuwar", "sunu"],
    "72640 34 14 10"⟩,
  ⟨["sylotinagri", "sylo"],
    "43008 45"⟩,
  ⟨["syriac", "syrc"],
    "1792 14 1 60 2 3 272 11"⟩,
  ⟨["tagalog", "tglg"],
    "5888 22 9 1"⟩,
  ⟨["tagbanwa", "tagb"],
    "5984 13 1 3 1 2"⟩,
  ⟨["taile", "tale"],
    "6480 30 2 5"⟩,
  ⟨["taitham", "lana"],
    "6688 63 1 29 2 11 6 10 6 14"⟩,
  ⟨["taiviet", "tavt"],
    "43648 67 24 5"⟩,
  ⟨["taiyo", "tayo"],
    "124608 31 1 22 8 2"⟩,
  ⟨["takri", "takr"],
    "71296 58 6 10"⟩,
  ⟨["tamil", "taml"],
    "2946 2 1 6 3 3 1 4 3 2 1 1 1 2 3 2 3 3 3 12 4 5 3 3 1 4 2 1 6 1 14 21 70597 50 13 1"⟩,
  ⟨["tangsa", "tnsa"],
    "92784 79 1 10"⟩,
  ⟨["tangut", "tang"],
    "94176 1 31 6912 512 31 97 115"⟩,
  ⟨["telugu", "telu"],
    "3072 13 1 3 1 23 1 16 2 9 1 3 1 4 7 2 1 3 1 2 2 4 2 10 7 9"⟩,
  ⟨["thaana", "thaa"],
    "1920 50"⟩,
  ⟨["thai"],
    "3585 58 5 28"⟩,
  ⟨["tibetan", "tibt"],
    "3840 72 1 36 4 39 1 36 1 15 1 7 4 2"⟩,
  ⟨["tifinagh", "tfng"],
    "11568 56 7 2 14 1"⟩,
  ⟨["tirhuta", "tirh"],
    "70784 72 8 10"⟩,
  ⟨["todhri", "todr"],
    "67008 52"⟩,
  ⟨["tolongsiki", "tols"],
    "73136 44 4 10"⟩,
  ⟨["toto"],
    "123536 31"⟩,
  ⟨["tulutigalari", "tutg"],
    "70528 10 1 1 2 1 1 38 1 10 1 1 2 1 1 4 1 10 1 2 8 2"⟩,
  ⟨["ugaritic", "ugar"],
    "66432 30 1 1"⟩,
  ⟨["unknown", "zzzz"],
    ""⟩,
  ⟨["vai", "vaii"],
    "42240 300"⟩,
  ⟨["vithkuqi", "vith"],
    "66928 11 1 15 1 7 1 2 1 11 1 15 1 7 1 2"⟩,
  ⟨["wancho", "wcho"],
    "123584 58 5 1"⟩,
  ⟨["warangciti", "wara"],
    "71840 83 12 1"⟩,
  ⟨["yezidi", "yezi"],
    "69248 42 1 3 2 2"⟩,
  ⟨["yi", "yiii"],
    "40960 1165 3 55"⟩,
  ⟨["zanabazarsquare", "zanb"],
    "72192 72"⟩]

end FirstClaim.Unicode

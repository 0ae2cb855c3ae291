import TileTriggers.Text.Property.Basic

/-!
# Properties of Usage

What else the standard says of single characters: their use as digits, as dashes and
quotation marks, as pictures, and in particular scripts.

## Main definitions

* `usageProperties`: The properties.
-/

namespace TileTriggers

namespace Text

namespace Property

/-- The properties of usage. -/
def usageProperties : List Property := [
  ⟨["ahex", "asciihexdigit"], [
      "30 a 7 6 1a 6"]⟩,
  ⟨["bidic", "bidicontrol"], [
      "61c 1 19f1 2 1a 5 37 4"]⟩,
  ⟨["dash"], [
      "2d 1 55c 1 33 1 e41 1 405 1 809 6 3d 1 27 1 f 1 186 1 c04 1 2 1 1f 2 4 1 1c 1 1be 1 13 1",
      "6f 1 cd90 2 25 1 a 1 a9 1 f9f 1"]⟩,
  ⟨["dep", "deprecated"], [
      "149 1 529 1 903 1 1 1 829 2 8c5 6 2b9 2 ddcd6 1"]⟩,
  ⟨["dia", "diacritic"], [
      "5e 1 1 1 47 1 6 1 4 1 2 2 1f7 9f 1 8 5 6 11 2 4 1 9 2 fd 5 d1 1 37 11 1 1b 1 1 1 2 1 1 86",
      "8 4 2 86 2 4 2 3 3 43 1b 5b b 3a b 22 2 7d 9 29 a 10 1c 3d 1 10 1 3 4 1c 1 4a 1 10 1 6e 1",
      "10 1 6e 1 10 1 2f 3 3c 1 10 1 7 1 77 1 6e 1 10 1 6e 1 10 1 6d 2 10 1 7c 1 7c 6 1 1 6b 1 d",
      "5 4b 2 1b 1 1 1 1 1 4 2 42 3 1 2 3e 1 70 1 1 2 28 2 4 5 19 7 1 1 a 2 2c1 3 3b4 2 b3 b 9 1",
      "15b 3 139 8 2 1 30 f 2 b 68 1 f 1 26 9 36 2 8a 2 40 6 52 19 4 1 6 1 2 3 32 3f 59 c 25 b",
      "1bd 1 1 3 b 3 d 3 d 3 d 2 cf0 3 13d 1 1fa 6 69 4 5f 1 7572 1 c 2 1 1 1c 2 52 2 e 22 66 3",
      "6d 2 ca 1 1b 12 39 4 24 1 5f 1 c 1 24 1 95 3 41 4 33 1 64 5 9 3 80 2 4f30 1 301 10 10e 1",
      "1 1 2f 1 2d 2 43 1 2fc 1 49f 6 1 2a 1 9 32a 2 23b 6 26 1 1a 5 18e 4 46 b 31 4 c0 1 29 1",
      "48 2 78 2 3e 1 4c 1 9 3 68 2 b2 2 51 1 10 1 18 7 3 5 59 3 1 1 e 2 5f 1 3 1 7b 2 fb 2 7e 1",
      "76 2 73 1 10d 2 102 2 4 1 9c 1 53 1 12 1 51 1 1a5 1 102 1 1 2 51 1 16af f 2cd9 1 9c0 5 3b",
      "7 234 2 222 11 50 2 3ffe 4 1 7 1 2 1f01 2e 2 17 220 3 3 6 8 8 2 7 1e 4 e82 3e c2 7 177 1",
      "3d 4 2fe 2 2e0 7 6d 3 1 3"]⟩,
  ⟨["emoji"], [
      "23 1 6 1 5 a 6f 1 4 1 1f8d 1 c 1 d8 1 16 1 5a 6 f 2 16f 2 c 1 a6 1 19 b 4 3 c7 1 e7 2 a 1",
      "9 1 3a 4 1 5 9 1 2 1 2 2 2 1 4 1 2 1 1 2 2 1 3 1 3 2 8 3 5 1 1 1 5 c b 2 2 1 1 2 1 1 12 1",
      "2 2 12 6 1 1 1 2 3 2 5 1 2 2 4 2 b 2 5 2 2 1 5 2 1 1 1 2 14 2 5 6 1 4 2 1 4 1 2 1 2 6 1 1",
      "2 1 1 1 1 1 6 1 3 1 6 1 a 2 f 1 2 1 4 1 1 1 4 3 1 1 b 2 30 3 9 1 e 1 e 1 174 2 1cf 3 13 2",
      "33 1 4 1 4da 1 c 1 259 1 1 1 1bd6a 1 ca 1 a0 2 c 2 e 1 2 a 4b 1a 1 2 17 1 14 1 2 9 15 2",
      "ae 22 2 70 2 2 1 3 2 53 2 3 1 107 1 3f b 6 1 18 7 2 2 8 c 1 2 4 2 1 4 2 d 2 2 1 8 2 9 1 5",
      "3 c 3 8 3 2 1 1 1 4 1 6 1 3 1 6 56 30 46 5 8 2 3 4 a 3 1 1 2 3 1 2 a e3 c 4 1 11b 2f 1 a",
      "1 b9 70 d 3 a 5 38 7 f 2 b 6 9"]⟩,
  ⟨["ecomp", "emojicomponent"], [
      "23 1 6 1 5 a 1fd3 1 d5 1 dd2b 1 f3d6 1a 1fb 5 5b0 4 c066c 60"]⟩,
  ⟨["emod", "emojimodifier"], [
      "1f3fb 5"]⟩,
  ⟨["ebase", "emojimodifierbase"], [
      "261d 1 db 1 10 4 1cc77 1 3c 3 2 1 2 3 75 2 2 b 15 13 3 1 4 3 1 3 7 1 1 1 18 1 c9 2 4 1 15",
      "1 4 2 ae 3 3 5 53 1 10 3 9 1 b 1 23f 1 2 1 8 8 6 1 9 a 2 3 38 1 3d 2 1 2 1 1 11 3 1 d e5",
      "3 2a 9"]⟩,
  ⟨["epres", "emojipresentation"], [
      "231a 2 cd 4 3 1 2 1 209 2 15 2 32 c 2b 1 13 1 d 1 8 2 11 2 5 2 8 1 5 1 15 1 7 2 1 1 4 1 2",
      "1 7 1 4 2 1c 1 23 1 1 1 4 3 1 1 3d 3 18 1 e 1 35b 2 33 1 4 1 1c4ae 1 ca 1 be 1 2 a 4b 1a",
      "1 1 18 1 14 1 2 5 1 3 15 2 ae 21 c 9 1 46 1 16 c 2b 4 5 c 11 3 1 3 47 1 1 1 bb 2 3f d 4 1",
      "18 12 1 1a 2 d 1 56 55 30 46 6 1 3 3 2 3 4 4 b 2 7 9 e3 c 4 1 11b 2f 1 a 1 b9 70 d 3 a 5",
      "38 7 f 2 b 6 9"]⟩,
  ⟨["extpict", "extendedpictographic"], [
      "a9 1 4 1 1f8d 1 c 1 d8 1 16 1 5a 6 f 2 16f 2 c 1 5f 1 46 1 19 b 4 3 c7 1 e7 2 a 1 9 1 3a",
      "4 1 6 1 c 1 72 a 76 2 b 1 1 1 1 6 1 3 1 6 1 a 2 f 1 2 1 4 1 1 1 4 3 1 1 b 5 2d 3 9 1 e 1",
      "e 1 174 2 1cf 3 13 2 33 1 4 1 4da 1 c 1 259 1 1 1 1bd66 100 d 3 1f 1 3c 6 c 2 e 1 2 a 12",
      "39 1b f a 1 14 1 2 9 1 4 9 1b2 5 13e 8 10a 30 80 74 c 55 2b c 4 38 8 a 6 28 8 1e 52 c 2f",
      "1 a 1 1b9 100 3fe"]⟩,
  ⟨["ext", "extender"], [
      "b7 1 218 2 36e 1 1b9 1 35a 1 2f0 1 7f 1 943 1 38 1 263 1 18e 1 44 1 1389 1 2b 5 67 2 5d 3",
      "6f16 1 5f6 1 3c2 1 16 1 89 1 6c 1 15 2 547b 1 810 2 5e7 1 4 1 5ed 1 74 2 1f2 3 4cf 1 50a9",
      "2 227 1 274 2 1 1 7158 2 806 3"]⟩,
  ⟨["hex", "hexdigit"], [
      "30 a 7 6 1a 6 fea9 a 7 6 1a 6"]⟩,
  ⟨["hyphen"], [
      "2d 1 7f 1 4dc 1 127b 1 809 2 e05 1 2e3 1 cd67 1 a9 1 57 1"]⟩,
  ⟨["idsb", "idsbinaryoperator"], [
      "2ff0 2 2 a 1f1 1"]⟩,
  ⟨["idst", "idstrinaryoperator"], [
      "2ff2 2"]⟩,
  ⟨["idsu", "idsunaryoperator"], [
      "2ffe 2"]⟩,
  ⟨["ideo", "ideographic"], [
      "3006 2 19 9 e 3 3c5 19c0 40 5200 5900 16e 2 6a 750a 1 1b 17f8 8 4d6 29 a 2467 18c 4d04",
      "a6e0 20 103a 6 de 2 1682 e 1d31 f 26e 9a2 21e 5e2 134b 5 1060"]⟩,
  ⟨["joinc", "joincontrol"], [
      "200c 2"]⟩,
  ⟨["loe", "logicalorderexception"], [
      "e40 5 7b 5 af0 3 2 1 90fa 2 2 1 1 2"]⟩,
  ⟨["math"], [
      "2b 1 10 3 1f 1 1d 1 1 1 2d 1 4 1 25 1 1f 1 2d8 3 2 1 1a 2 2 3 20f 3 1a0d 1 1b 3 b 1 3 1 d",
      "1 e 4 15 5 b 5 41 d 4 1 3 2 4 5 12 1 4 1 2 a 1 1 2 6 6 1 3 2 2 2 1 3 1 6 3 e 1 1 44 18 1",
      "6 1 2 4 2 4 20 1 1 6 2 e 10c 8 4 14 2 5a 1 1e 1b 1 1 18 1 b 7 1bd 2 c a 4 6 4 2 2 2 3 5 e",
      "1 1 1 2 6 b 8 5 2 39 1 1 1 1d 4 9 3 150 40 100 200 30 15 2 6 cfdc 1 337 6 1 1 a2 1 10 3",
      "1d 1 1 1 1d 1 1 1 83 1 6 4 da1 2 c670 55 1 47 1 2 2 1 2 2 2 4 1 c 1 1 1 7 1 41 1 4 2 8 1",
      "7 1 1c 1 4 1 5 1 1 3 7 1 154 2 124 2 32 1600 4 1 1b 1 2 1 1 2 1 1 a 1 4 1 1 1 1 6 1 4 1 1",
      "1 1 1 1 3 1 2 1 1 2 1 1 1 1 1 1 1 1 1 1 2 1 1 2 4 1 7 1 4 1 4 1 1 1 a 1 11 5 3 1 5 1 11",
      "34 2"]⟩,
  ⟨["nchar", "noncharactercodepoint"], [
      "fdd0 20 20e 2 fffe 2 fffe 2 fffe 2 fffe 2 fffe 2 fffe 2 fffe 2 fffe 2 fffe 2 fffe 2 fffe",
      "2 fffe 2 fffe 2 fffe 2 fffe 2 fffe 2"]⟩,
  ⟨["pcm", "prependedconcatenationmark"], [
      "600 6 d7 1 31 1 180 2 50 1 107da 1 f 1"]⟩,
  ⟨["qmark", "quotationmark"], [
      "22 1 4 1 83 1 f 1 1f5c 8 19 2 e07 1 1c9 4 d 3 ce21 4 bd 1 4 1 5a 2"]⟩,
  ⟨["radical"], [
      "2e80 1a 1 59 c d6"]⟩,
  ⟨["ri", "regionalindicator"], [
      "1f1e6 1a"]⟩,
  ⟨["sterm", "sentenceterminal"], [
      "21 1 c 1 10 1 549 1 93 3 b4 1 2b 3 f6 1 3d 1 1 1 3 2 125 2 6e4 2 316 1 4 2 305 1 c6 2 cc",
      "1 5 1 13a 2 162 4 a2 2 a 2 2 2 1d 3 bb 2 41 2 3bc 2 9 3 de4 1 d 1 16 2 1ad 1 74fc 1 10e 2",
      "e3 1 3 1 17e 2 56 2 5f 1 98 2 93 3 90 2 f9 1 5266 1 3 2 a9 1 c 1 10 1 41 1 af4 2 4fd 5 2c",
      "4 bd 2 75 4 7f 3 81 2 6 1 10 2 58 2 1 2 6c 1 12a 2 75 2 175 2 5 f 69 2 f9 3 205 1 1 1 fb",
      "2 57 2 1a4 2 2b4 2 4a 2 4b29 2 85 1 41 2 b 1 229 2 128 1 4e06 1 1de8 1"]⟩,
  ⟨["term", "terminalpunctuation"], [
      "21 1 a 1 1 1 b 2 3 1 33e 1 8 1 201 1 39 1 48 1 e 1 1 3 b4 1 2b b 1 1 eb 2 36 f 1f 1 105 2",
      "4f4 2 ac 1 4 6 137 2 315 8 305 1 7c 3 47 2 9d 3 3 1 27 4 2 2 13a 2 162 4 a2 2 a 2 1 3 1d",
      "3 bb 5 3e 2 3bc 2 9 3 de4 1 d 1 4 1 a 1 1 2 3 2 1ac 2 74fb 2 10d 3 e3 5 17e 2 56 2 5f 1",
      "97 3 93 3 7f 1 10 2 f9 1 5264 3 1 4 a9 1 a 1 1 1 b 2 3 1 41 1 2 1 43a 1 30 1 486 1 c7 1",
      "136 2 98 6 44 6 59 4 3b8 5 2c 4 bd 7 70 4 7f 3 81 2 6 1 10 2 58 5 6c 1 12a 2 75 3 c 2 166",
      "4 3 f 69 2 f9 3 205 1 1 1 fb 2 57 2 4 2 19e 3 2d 1 285 2 4a 2 52b 5 45f9 2 85 1 41 3 a 1",
      "229 2 127 2 4e06 1 1de7 4"]⟩,
  ⟨["uideo", "unifiedideograph"], [
      "3400 19c0 40 5200 5a0e 2 1 1 1 2 a 1 1 1 1 2 2 3 105d6 a6e0 20 103a 6 de 2 1682 e 1d31 f",
      "26e 11a2 134b 5 1060"]⟩,
  ⟨["vs", "variationselector"], [
      "180b 3 1 1 e5f0 10 d02f0 f0"]⟩,
  ⟨["wspace", "whitespace", "space"], [
      "9 5 12 1 64 1 1a 1 15df 1 97f b 1d 2 5 1 2f 1 fa0 1"]⟩]

end Property

end Text

end TileTriggers

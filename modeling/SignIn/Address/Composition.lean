import SignIn.Text.CodeSet

/-!
# Composed form

A letter with a mark can be one character or two, and marks on one letter can stand in any order if
they do not touch. The composed form puts marks in the order of their classes and every letter
together with those of its marks for which there is one character. The tables hold for the
characters that may stand in the label of a host.
-/

namespace SignIn.Address.Composition

open Text (CodeSet)

/-- The marks by their class. Marks of one class touch each other. -/
def classes : List (Nat × CodeSet) :=
  [
    (1, .ofHex ["334-338 1cd4 1ce2-1ce8 10a39 16af0-16af4 1bc9e"]),
    (6, .ofHex ["16ff0-16ff1"]),
    (7, .ofHex [
        "93c 9bc a3c abc b3c c3c cbc 1037 1b34 1be6 1c37 a9b3 110ba 11173 111ca 11236 112e9",
        "1133b-1133c 11446 114c3 115c0 116b7 1183a 11943 11d42 1e94a"]),
    (8, .ofHex ["3099-309a"]),
    (9, .ofHex [
        "94d 9cd a4d acd b4d bcd c4d ccd d3b-d3c d4d dca e3a eba f84 1039-103a 1714-1715 1734",
        "17d2 1a60 1b44 1baa-1bab 1bf2-1bf3 2d7f a806 a82c a8c4 a953 a9c0 aaf6 abed 10a3f 11046",
        "11070 1107f 110b9 11133-11134 111c0 11235 112ea 1134d 11442 114c2 115bf 1163f 116b6",
        "1172b 11839 1193d-1193e 119e0 11a34 11a47 11a99 11c3f 11d44-11d45 11d97"]),
    (10, .ofHex ["5b0"]),
    (11, .ofHex ["5b1"]),
    (12, .ofHex ["5b2"]),
    (13, .ofHex ["5b3"]),
    (14, .ofHex ["5b4"]),
    (15, .ofHex ["5b5"]),
    (16, .ofHex ["5b6"]),
    (17, .ofHex ["5b7"]),
    (18, .ofHex ["5b8 5c7"]),
    (19, .ofHex ["5b9-5ba"]),
    (20, .ofHex ["5bb"]),
    (21, .ofHex ["5bc"]),
    (22, .ofHex ["5bd"]),
    (23, .ofHex ["5bf"]),
    (24, .ofHex ["5c1"]),
    (25, .ofHex ["5c2"]),
    (26, .ofHex ["fb1e"]),
    (27, .ofHex ["64b 8f0"]),
    (28, .ofHex ["64c 8f1"]),
    (29, .ofHex ["64d 8f2"]),
    (30, .ofHex ["618 64e"]),
    (31, .ofHex ["619 64f"]),
    (32, .ofHex ["61a 650"]),
    (33, .ofHex ["651"]),
    (34, .ofHex ["652"]),
    (35, .ofHex ["670"]),
    (36, .ofHex ["711"]),
    (84, .ofHex ["c55"]),
    (91, .ofHex ["c56"]),
    (103, .ofHex ["e38-e39"]),
    (107, .ofHex ["e48-e4b"]),
    (118, .ofHex ["eb8-eb9"]),
    (122, .ofHex ["ec8-ecb"]),
    (129, .ofHex ["f71"]),
    (130, .ofHex ["f72 f7a-f7d f80"]),
    (132, .ofHex ["f74"]),
    (202, .ofHex ["321-322 327-328 1dd0"]),
    (214, .ofHex ["1dce"]),
    (216, .ofHex ["31b f39"]),
    (218, .ofHex ["1dfa 302a"]),
    (220, .ofHex [
        "316-319 31c-320 323-326 329-333 339-33c 347-349 34d-34e 353-356 359-35a 591 596 59b",
        "5a2-5a7 5aa 5c5 655-656 65c 65f 6e3 6ea 6ed 731 734 737-739 73b-73c 73e 742 744 746 748",
        "7f2 7fd 859-85b 899-89b 8cf-8d3 8e3 8e6 8e9 8ed-8ef 8f6 8f9-8fa 952 f18-f19 f35-f37 fc6",
        "108d 193b 1a18 1a7f 1ab5-1aba 1abd-1ac0 1ac3-1ac4 1aca 1b6c 1cd5-1cd9 1cdc-1cdf 1ced",
        "1dc2 1dca 1dcf 1df9 1dfd 1dff a92b-a92d aab4 fe27-fe2d 101fd 102e0 10a0d 10a3a 10ae6",
        "10f46-10f47 10f4b 10f4d-10f50 10f83 10f85 1e8d0-1e8d6"]),
    (222, .ofHex ["59a 5ad 1939 302d"]),
    (228, .ofHex ["5ae 18a9 1df7-1df8 302b"]),
    (230, .ofHex [
        "300-314 33d-346 34a-34c 350-352 357 35b 363-36f 483-487 592-595 597-599 59c-5a1 5a8-5a9",
        "5ab-5ac 5af 5c4 610-617 653-654 657-65b 65d-65e 6d6-6e2 6e4 6e7-6e8 6eb-6ec 730 732-733",
        "735-736 73a 73d 73f-741 743 745 747 749-74a 7eb-7f1 7f3 816-819 81b-823 825-827 829-82d",
        "898 89c-89f 8ca-8ce 8d4-8e1 8e4-8e5 8e7-8e8 8ea-8ec 8f3-8f5 8f7-8f8 8fb-8ff 951 953-954",
        "9fe f82-f83 f86-f87 135d-135f 17dd 193a 1a17 1a75-1a7c 1ab0-1ab4 1abb-1abc 1ac1-1ac2",
        "1ac5-1ac9 1acb-1ace 1b6b 1b6d-1b73 1cd0-1cd2 1cda-1cdb 1ce0 1cf4 1cf8-1cf9 1dc0-1dc1",
        "1dc3-1dc9 1dcb-1dcc 1dd1-1df5 1dfb 1dfe 2cef-2cf1 2de0-2dff a66f-a67d a69e-a69f",
        "a6f0-a6f1 a8e0-a8f1 aab0 aab2-aab3 aab7-aab8 aabe-aabf aac1 fe20-fe26 fe2e-fe2f",
        "10376-1037a 10a0f 10a38 10ae5 10d24-10d27 10eab-10eac 10f48-10f4a 10f4c 10f82 10f84",
        "11100-11102 11366-11374 1145e 16b30-16b36 1e000-1e02a 1e130-1e136 1e2ae 1e2ec-1e2ef",
        "1e944-1e949"]),
    (232, .ofHex ["315 31a 358 1df6 302c"]),
    (233, .ofHex ["35c 35f 362 1dfc"]),
    (234, .ofHex ["35d-35e 360-361 1dcd"])]

/-- The class of a character; that of letters is zero. -/
def classOf (c : Char) : Nat :=
  ((classes.find? fun (_, s) => s.has c).map (·.1)).getD 0

/-- The characters that are two in one: each with its two parts. -/
def table : List String :=
  [
    "e0.61.300 e1.61.301 e2.61.302 e3.61.303 e4.61.308 e5.61.30a e7.63.327 e8.65.300 e9.65.301",
    "ea.65.302 eb.65.308 ec.69.300 ed.69.301 ee.69.302 ef.69.308 f1.6e.303 f2.6f.300 f3.6f.301",
    "f4.6f.302 f5.6f.303 f6.6f.308 f9.75.300 fa.75.301 fb.75.302 fc.75.308 fd.79.301 ff.79.308",
    "101.61.304 103.61.306 105.61.328 107.63.301 109.63.302 10b.63.307 10d.63.30c 10f.64.30c",
    "113.65.304 115.65.306 117.65.307 119.65.328 11b.65.30c 11d.67.302 11f.67.306 121.67.307",
    "123.67.327 125.68.302 129.69.303 12b.69.304 12d.69.306 12f.69.328 135.6a.302 137.6b.327",
    "13a.6c.301 13c.6c.327 13e.6c.30c 144.6e.301 146.6e.327 148.6e.30c 14d.6f.304 14f.6f.306",
    "151.6f.30b 155.72.301 157.72.327 159.72.30c 15b.73.301 15d.73.302 15f.73.327 161.73.30c",
    "163.74.327 165.74.30c 169.75.303 16b.75.304 16d.75.306 16f.75.30a 171.75.30b 173.75.328",
    "175.77.302 177.79.302 17a.7a.301 17c.7a.307 17e.7a.30c 1a1.6f.31b 1b0.75.31b 1ce.61.30c",
    "1d0.69.30c 1d2.6f.30c 1d4.75.30c 1d6.fc.304 1d8.fc.301 1da.fc.30c 1dc.fc.300 1df.e4.304",
    "1e1.227.304 1e3.e6.304 1e7.67.30c 1e9.6b.30c 1eb.6f.328 1ed.1eb.304 1ef.292.30c 1f0.6a.30c",
    "1f5.67.301 1f9.6e.300 1fb.e5.301 1fd.e6.301 1ff.f8.301 201.61.30f 203.61.311 205.65.30f",
    "207.65.311 209.69.30f 20b.69.311 20d.6f.30f 20f.6f.311 211.72.30f 213.72.311 215.75.30f",
    "217.75.311 219.73.326 21b.74.326 21f.68.30c 227.61.307 229.65.327 22b.f6.304 22d.f5.304",
    "22f.6f.307 231.22f.304 233.79.304 390.3ca.301 3ac.3b1.301 3ad.3b5.301 3ae.3b7.301",
    "3af.3b9.301 3b0.3cb.301 3ca.3b9.308 3cb.3c5.308 3cc.3bf.301 3cd.3c5.301 3ce.3c9.301",
    "439.438.306 450.435.300 451.435.308 453.433.301 457.456.308 45c.43a.301 45d.438.300",
    "45e.443.306 477.475.30f 4c2.436.306 4d1.430.306 4d3.430.308 4d7.435.306 4db.4d9.308",
    "4dd.436.308 4df.437.308 4e3.438.304 4e5.438.308 4e7.43e.308 4eb.4e9.308 4ed.44d.308",
    "4ef.443.304 4f1.443.308 4f3.443.30b 4f5.447.308 4f9.44b.308 622.627.653 623.627.654",
    "624.648.654 625.627.655 626.64a.654 6c0.6d5.654 6c2.6c1.654 6d3.6d2.654 929.928.93c",
    "931.930.93c 934.933.93c 9cb.9c7.9be 9cc.9c7.9d7 b48.b47.b56 b4b.b47.b3e b4c.b47.b57",
    "b94.b92.bd7 bca.bc6.bbe bcb.bc7.bbe bcc.bc6.bd7 c48.c46.c56 cc0.cbf.cd5 cc7.cc6.cd5",
    "cc8.cc6.cd6 cca.cc6.cc2 ccb.cca.cd5 d4a.d46.d3e d4b.d47.d3e d4c.d46.d57 dda.dd9.dca",
    "ddc.dd9.dcf ddd.ddc.dca dde.dd9.ddf 1026.1025.102e 1b06.1b05.1b35 1b08.1b07.1b35",
    "1b0a.1b09.1b35 1b0c.1b0b.1b35 1b0e.1b0d.1b35 1b12.1b11.1b35 1b3b.1b3a.1b35 1b3d.1b3c.1b35",
    "1b40.1b3e.1b35 1b41.1b3f.1b35 1b43.1b42.1b35 1e01.61.325 1e03.62.307 1e05.62.323",
    "1e07.62.331 1e09.e7.301 1e0b.64.307 1e0d.64.323 1e0f.64.331 1e11.64.327 1e13.64.32d",
    "1e15.113.300 1e17.113.301 1e19.65.32d 1e1b.65.330 1e1d.229.306 1e1f.66.307 1e21.67.304",
    "1e23.68.307 1e25.68.323 1e27.68.308 1e29.68.327 1e2b.68.32e 1e2d.69.330 1e2f.ef.301",
    "1e31.6b.301 1e33.6b.323 1e35.6b.331 1e37.6c.323 1e39.1e37.304 1e3b.6c.331 1e3d.6c.32d",
    "1e3f.6d.301 1e41.6d.307 1e43.6d.323 1e45.6e.307 1e47.6e.323 1e49.6e.331 1e4b.6e.32d",
    "1e4d.f5.301 1e4f.f5.308 1e51.14d.300 1e53.14d.301 1e55.70.301 1e57.70.307 1e59.72.307",
    "1e5b.72.323 1e5d.1e5b.304 1e5f.72.331 1e61.73.307 1e63.73.323 1e65.15b.307 1e67.161.307",
    "1e69.1e63.307 1e6b.74.307 1e6d.74.323 1e6f.74.331 1e71.74.32d 1e73.75.324 1e75.75.330",
    "1e77.75.32d 1e79.169.301 1e7b.16b.308 1e7d.76.303 1e7f.76.323 1e81.77.300 1e83.77.301",
    "1e85.77.308 1e87.77.307 1e89.77.323 1e8b.78.307 1e8d.78.308 1e8f.79.307 1e91.7a.302",
    "1e93.7a.323 1e95.7a.331 1e96.68.331 1e97.74.308 1e98.77.30a 1e99.79.30a 1ea1.61.323",
    "1ea3.61.309 1ea5.e2.301 1ea7.e2.300 1ea9.e2.309 1eab.e2.303 1ead.1ea1.302 1eaf.103.301",
    "1eb1.103.300 1eb3.103.309 1eb5.103.303 1eb7.1ea1.306 1eb9.65.323 1ebb.65.309 1ebd.65.303",
    "1ebf.ea.301 1ec1.ea.300 1ec3.ea.309 1ec5.ea.303 1ec7.1eb9.302 1ec9.69.309 1ecb.69.323",
    "1ecd.6f.323 1ecf.6f.309 1ed1.f4.301 1ed3.f4.300 1ed5.f4.309 1ed7.f4.303 1ed9.1ecd.302",
    "1edb.1a1.301 1edd.1a1.300 1edf.1a1.309 1ee1.1a1.303 1ee3.1a1.323 1ee5.75.323 1ee7.75.309",
    "1ee9.1b0.301 1eeb.1b0.300 1eed.1b0.309 1eef.1b0.303 1ef1.1b0.323 1ef3.79.300 1ef5.79.323",
    "1ef7.79.309 1ef9.79.303 1f00.3b1.313 1f01.3b1.314 1f02.1f00.300 1f03.1f01.300 1f04.1f00.301",
    "1f05.1f01.301 1f06.1f00.342 1f07.1f01.342 1f10.3b5.313 1f11.3b5.314 1f12.1f10.300",
    "1f13.1f11.300 1f14.1f10.301 1f15.1f11.301 1f20.3b7.313 1f21.3b7.314 1f22.1f20.300",
    "1f23.1f21.300 1f24.1f20.301 1f25.1f21.301 1f26.1f20.342 1f27.1f21.342 1f30.3b9.313",
    "1f31.3b9.314 1f32.1f30.300 1f33.1f31.300 1f34.1f30.301 1f35.1f31.301 1f36.1f30.342",
    "1f37.1f31.342 1f40.3bf.313 1f41.3bf.314 1f42.1f40.300 1f43.1f41.300 1f44.1f40.301",
    "1f45.1f41.301 1f50.3c5.313 1f51.3c5.314 1f52.1f50.300 1f53.1f51.300 1f54.1f50.301",
    "1f55.1f51.301 1f56.1f50.342 1f57.1f51.342 1f60.3c9.313 1f61.3c9.314 1f62.1f60.300",
    "1f63.1f61.300 1f64.1f60.301 1f65.1f61.301 1f66.1f60.342 1f67.1f61.342 1f70.3b1.300",
    "1f72.3b5.300 1f74.3b7.300 1f76.3b9.300 1f78.3bf.300 1f7a.3c5.300 1f7c.3c9.300 1fb0.3b1.306",
    "1fb1.3b1.304 1fb6.3b1.342 1fc6.3b7.342 1fd0.3b9.306 1fd1.3b9.304 1fd2.3ca.300 1fd6.3b9.342",
    "1fd7.3ca.342 1fe0.3c5.306 1fe1.3c5.304 1fe2.3cb.300 1fe4.3c1.313 1fe5.3c1.314 1fe6.3c5.342",
    "1fe7.3cb.342 1ff6.3c9.342 304c.304b.3099 304e.304d.3099 3050.304f.3099 3052.3051.3099",
    "3054.3053.3099 3056.3055.3099 3058.3057.3099 305a.3059.3099 305c.305b.3099 305e.305d.3099",
    "3060.305f.3099 3062.3061.3099 3065.3064.3099 3067.3066.3099 3069.3068.3099 3070.306f.3099",
    "3071.306f.309a 3073.3072.3099 3074.3072.309a 3076.3075.3099 3077.3075.309a 3079.3078.3099",
    "307a.3078.309a 307c.307b.3099 307d.307b.309a 3094.3046.3099 309e.309d.3099 30ac.30ab.3099",
    "30ae.30ad.3099 30b0.30af.3099 30b2.30b1.3099 30b4.30b3.3099 30b6.30b5.3099 30b8.30b7.3099",
    "30ba.30b9.3099 30bc.30bb.3099 30be.30bd.3099 30c0.30bf.3099 30c2.30c1.3099 30c5.30c4.3099",
    "30c7.30c6.3099 30c9.30c8.3099 30d0.30cf.3099 30d1.30cf.309a 30d3.30d2.3099 30d4.30d2.309a",
    "30d6.30d5.3099 30d7.30d5.309a 30d9.30d8.3099 30da.30d8.309a 30dc.30db.3099 30dd.30db.309a",
    "30f4.30a6.3099 30f7.30ef.3099 30f8.30f0.3099 30f9.30f1.3099 30fa.30f2.3099 30fe.30fd.3099",
    "1109a.11099.110ba 1109c.1109b.110ba 110ab.110a5.110ba 1112e.11131.11127 1112f.11132.11127",
    "1134b.11347.1133e 1134c.11347.11357 114bb.114b9.114ba 114bc.114b9.114b0 114be.114b9.114bd",
    "115ba.115b8.115af 115bb.115b9.115af 11938.11935.11930"]

/-- A character of a word of the table. -/
def charOf? (word : List Char) : Option Char :=
  (Text.ofHex? word).map Char.ofNat

/-- A word of the table: a character and its two parts. -/
def entryOf? (word : List Char) : Option (Char × Char × Char) :=
  match Text.splitOn '.' word with
  | [a, b, c] => do return (← charOf? a, ← charOf? b, ← charOf? c)
  | _ => none

/-- The characters that are two in one, with their parts. -/
def pairs : List (Char × Char × Char) :=
  table.flatMap fun line => (Text.splitOn ' ' line.toList).filterMap entryOf?

def join? (a b : Char) : Option Char :=
  (pairs.find? fun (_, x, y) => x == a && y == b).map (·.1)

/-- The parts of a character; `fuel` bounds how often a part has parts. -/
def partsOf : Nat → Char → List Char
  | 0, c => [c]
  | fuel + 1, c =>
    match pairs.find? fun (x, _, _) => x == c with
    | some (_, a, b) => partsOf fuel a ++ [b]
    | none => [c]

/-- A text, the last character first, with one more character, which goes in front of the marks of
higher classes if it is a mark. -/
def insertMark (reversed : List Char) (c : Char) : List Char :=
  let k := classOf c
  if k = 0 then c :: reversed
  else
    let higher := reversed.takeWhile fun d => k < classOf d
    higher ++ c :: reversed.drop higher.length

/-- A text with every character in its parts and all marks in order. -/
def decomposed (cs : List Char) : List Char :=
  ((cs.flatMap (partsOf 4)).foldl insertMark []).reverse

/-- A text that is being composed: what is finished, the letter that marks may still join, and the
marks after it that did not join; the last character first. -/
structure Progress where
  finished : List Char
  letter : Option Char
  marks : List Char

/-- Adds a character: it joins the letter if there is one character for the two and no mark of at
least its class stands between them. -/
def Progress.add (p : Progress) (c : Char) : Progress :=
  let k := classOf c
  let blocked := p.marks.head?.any fun d => k ≤ classOf d
  match if blocked then none else p.letter.bind (join? · c) with
  | some joined => { p with letter := some joined }
  | none =>
    if k = 0 then ⟨p.marks ++ p.letter.toList ++ p.finished, some c, []⟩
    else { p with marks := c :: p.marks }

def Progress.text (p : Progress) : List Char :=
  (p.marks ++ p.letter.toList ++ p.finished).reverse

def composed (cs : List Char) : List Char :=
  ((decomposed cs).foldl Progress.add ⟨[], none, []⟩).text

end SignIn.Address.Composition

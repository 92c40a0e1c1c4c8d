import SqlCluster.Text.Decomposition
import SqlCluster.Url.HostName.Direction

/-!
The characters of labels: letters, marks and digits of every script, and a few characters that may
stand only next to certain others. Letters are given in the form to which host names are put; the
table tells apart the characters of that form only.
-/

namespace SqlCluster.Url.HostName

open Text

/-- Letters, marks and digits beyond ASCII, among the characters that are their own prepared
form. -/
def letters : CharSet := CharSet.ofTable "
df-f6 f8-2c1 2c6-2d1 2ec 2ee 300-34e 350-373 377 37b-37d 390 3ac-3f3 3f8-481 483-487 48b-52f 559
560-588 591-5bd 5bf 5c1-5c2 5c4-5c5 5c7 5d0-5ea 5ef-5f2 610-61a 620-63f 641-65f 66e-6d3 6d5-6dc
6df-6e8 6ea-6ef 6fa-6ff 710-74a 74d-7b1 7c0-7f5 7fd 800-82d 840-85b 860-86a 870-887 889-88e 898-8e1
8e3-963 966-96f 971-983 985-98c 98f-990 993-9a8 9aa-9b0 9b2 9b6-9b9 9bc-9c4 9c7-9c8 9cb-9ce 9d7
9e0-9e3 9e6-9f1 9fc 9fe a01-a03 a05-a0a a0f-a10 a13-a28 a2a-a30 a32 a35 a38-a39 a3c a3e-a42 a47-a48
a4b-a4d a51 a5c a66-a75 a81-a83 a85-a8d a8f-a91 a93-aa8 aaa-ab0 ab2-ab3 ab5-ab9 abc-ac5 ac7-ac9
acb-acd ad0 ae0-ae3 ae6-aef af9-aff b01-b03 b05-b0c b0f-b10 b13-b28 b2a-b30 b32-b33 b35-b39 b3c-b44
b47-b48 b4b-b4d b55-b57 b5f-b63 b66-b6f b71 b82-b83 b85-b8a b8e-b90 b92-b95 b99-b9a b9c b9e-b9f
ba3-ba4 ba8-baa bae-bb9 bbe-bc2 bc6-bc8 bca-bcd bd0 bd7 be6-bef c00-c0c c0e-c10 c12-c28 c2a-c39
c3c-c44 c46-c48 c4a-c4d c55-c56 c58-c5a c5d c60-c63 c66-c6f c80-c83 c85-c8c c8e-c90 c92-ca8 caa-cb3
cb5-cb9 cbc-cc4 cc6-cc8 cca-ccd cd5-cd6 cdd-cde ce0-ce3 ce6-cef cf1-cf2 d00-d0c d0e-d10 d12-d44
d46-d48 d4a-d4e d54-d57 d5f-d63 d66-d6f d7a-d7f d81-d83 d85-d96 d9a-db1 db3-dbb dbd dc0-dc6 dca
dcf-dd4 dd6 dd8-ddf de6-def df2-df3 e01-e3a e40-e4e e50-e59 e81-e82 e84 e86-e8a e8c-ea3 ea5 ea7-ebd
ec0-ec4 ec6 ec8-ecd ed0-ed9 ede-edf f00 f0b f18-f19 f20-f29 f35 f37 f39 f3e-f47 f49-f6c f71-f84
f86-f97 f99-fbc fc6 1000-1049 1050-109d 10d0-10fa 10fd-10ff 1200-1248 124a-124d 1250-1256 1258
125a-125d 1260-1288 128a-128d 1290-12b0 12b2-12b5 12b8-12be 12c0 12c2-12c5 12c8-12d6 12d8-1310
1312-1315 1318-135a 135d-135f 1380-138f 13a0-13f5 1401-166c 166f-167f 1681-169a 16a0-16ea 16f1-16f8
1700-1715 171f-1734 1740-1753 1760-176c 176e-1770 1772-1773 1780-17b3 17b6-17d3 17d7 17dc-17dd
17e0-17e9 1810-1819 1820-1878 1880-18aa 18b0-18f5 1900-191e 1920-192b 1930-193b 1946-196d 1970-1974
1980-19ab 19b0-19c9 19d0-19d9 1a00-1a1b 1a20-1a5e 1a60-1a7c 1a7f-1a89 1a90-1a99 1aa7 1ab0-1abd
1abf-1ace 1b00-1b4c 1b50-1b59 1b6b-1b73 1b80-1bf3 1c00-1c37 1c40-1c49 1c4d-1c7d 1cd0-1cd2 1cd4-1cfa
1d00-1f15 1f20-1f45 1f50-1f57 1f60-1f7c 1fb0-1fb1 1fb6 1fc6-1fd2 1fd6-1fd7 1fe0-1fe7 1ff6 214e 2184
2c30-2ce4 2cec-2cf3 2d00-2d25 2d27 2d2d 2d30-2d67 2d7f-2d96 2da0-2da6 2da8-2dae 2db0-2db6 2db8-2dbe
2dc0-2dc6 2dc8-2dce 2dd0-2dd6 2dd8-2dde 2de0-2dff 2e2f 3005-3007 302a-302d 303c 3041-3096 3099-309e
30a1-30fa 30fc-30fe 3105-312f 31a0-31bf 31f0-31ff 3400-4dbf 4e00-a48c a4d0-a4fd a500-a60c a610-a62b
a641-a66f a674-a67d a67f-a6e5 a6f0-a6f1 a717-a71f a723-a788 a78c-a7ca a7d1 a7d3 a7d5-a7d9 a7f6-a827
a82c a840-a873 a880-a8c5 a8d0-a8d9 a8e0-a8f7 a8fb a8fd-a92d a930-a953 a980-a9c0 a9cf-a9d9 a9e0-a9fe
aa00-aa36 aa40-aa4d aa50-aa59 aa60-aa76 aa7a-aac2 aadb-aadd aae0-aaef aaf2-aaf6 ab01-ab06 ab09-ab0e
ab11-ab16 ab20-ab26 ab28-ab2e ab30-ab5a ab60-ab68 abc0-abea abec-abed abf0-abf9 ac00-d7a3 fa0e-fa29
fb1e fe20-fe2f fe73 10000-1000b 1000d-10026 10028-1003a 1003c-1003d 1003f-1004d 10050-1005d
10080-100fa 101fd 10280-1029c 102a0-102d0 102e0 10300-1031f 1032d-10340 10342-10349 10350-1037a
10380-1039d 103a0-103c3 103c8-103cf 10428-1049d 104a0-104a9 104d8-104fb 10500-10527 10530-10563
10597-105a1 105a3-105b1 105b3-105b9 105bb-105bc 10600-10736 10740-10755 10760-10767 10780
10800-10805 10808 1080a-10835 10837-10838 1083c 1083f-10855 10860-10876 10880-1089e 108e0-108f2
108f4-108f5 10900-10915 10920-10939 10980-109b7 109be-109bf 10a00-10a03 10a05-10a06 10a0c-10a13
10a15-10a17 10a19-10a35 10a38-10a3a 10a3f 10a60-10a7c 10a80-10a9c 10ac0-10ac7 10ac9-10ae6
10b00-10b35 10b40-10b55 10b60-10b72 10b80-10b91 10c00-10c48 10cc0-10cf2 10d00-10d27 10d30-10d39
10e80-10ea9 10eab-10eac 10eb0-10eb1 10f00-10f1c 10f27 10f30-10f50 10f70-10f85 10fb0-10fc4
10fe0-10ff6 11000-11046 11066-11075 1107f-110ba 110c2 110d0-110e8 110f0-110f9 11100-11134
11136-1113f 11144-11147 11150-11173 11176 11180-111c4 111c9-111cc 111ce-111da 111dc 11200-11211
11213-11237 1123e 11280-11286 11288 1128a-1128d 1128f-1129d 1129f-112a8 112b0-112ea 112f0-112f9
11300-11303 11305-1130c 1130f-11310 11313-11328 1132a-11330 11332-11333 11335-11339 1133b-11344
11347-11348 1134b-1134d 11350 11357 1135d-11363 11366-1136c 11370-11374 11400-1144a 11450-11459
1145e-11461 11480-114c5 114c7 114d0-114d9 11580-115b5 115b8-115c0 115d8-115dd 11600-11640 11644
11650-11659 11680-116b8 116c0-116c9 11700-1171a 1171d-1172b 11730-11739 11740-11746 11800-1183a
118c0-118e9 118ff-11906 11909 1190c-11913 11915-11916 11918-11935 11937-11938 1193b-11943
11950-11959 119a0-119a7 119aa-119d7 119da-119e1 119e3-119e4 11a00-11a3e 11a47 11a50-11a99 11a9d
11ab0-11af8 11c00-11c08 11c0a-11c36 11c38-11c40 11c50-11c59 11c72-11c8f 11c92-11ca7 11ca9-11cb6
11d00-11d06 11d08-11d09 11d0b-11d36 11d3a 11d3c-11d3d 11d3f-11d47 11d50-11d59 11d60-11d65
11d67-11d68 11d6a-11d8e 11d90-11d91 11d93-11d98 11da0-11da9 11ee0-11ef6 11fb0 12000-12399
12480-12543 12f90-12ff0 13000-1342e 14400-14646 16800-16a38 16a40-16a5e 16a60-16a69 16a70-16abe
16ac0-16ac9 16ad0-16aed 16af0-16af4 16b00-16b36 16b40-16b43 16b50-16b59 16b63-16b77 16b7d-16b8f
16e60-16e7f 16f00-16f4a 16f4f-16f87 16f8f-16f9f 16fe0-16fe1 16fe3-16fe4 16ff0-16ff1 17000-187f7
18800-18cd5 18d00-18d08 1aff0-1aff3 1aff5-1affb 1affd-1affe 1b000-1b122 1b150-1b152 1b164-1b167
1b170-1b2fb 1bc00-1bc6a 1bc70-1bc7c 1bc80-1bc88 1bc90-1bc99 1bc9d-1bc9e 1cf00-1cf2d 1cf30-1cf46
1da00-1da36 1da3b-1da6c 1da75 1da84 1da9b-1da9f 1daa1-1daaf 1df00-1df1e 1e000-1e006 1e008-1e018
1e01b-1e021 1e023-1e024 1e026-1e02a 1e100-1e12c 1e130-1e13d 1e140-1e149 1e14e 1e290-1e2ae
1e2c0-1e2f9 1e7e0-1e7e6 1e7e8-1e7eb 1e7ed-1e7ee 1e7f0-1e7fe 1e800-1e8c4 1e8d0-1e8d6 1e922-1e94b
1e950-1e959 20000-2a6df 2a700-2b738 2b740-2b81d 2b820-2cea1 2ceb0-2ebe0 30000-3134a"

/-- Marks, which begin no label. -/
def combiningMarks : CharSet := CharSet.ofTable "
300-36f 483-487 591-5c7 610-61a 64b-65f 670 6d6-6e4 6e7-6ed 711 730-74a 7a6-7b0 7eb-7f3 7fd 816-819
81b-823 825-827 829-82d 859-85b 898-89f 8ca-903 93a-93c 93e-94f 951-957 962-963 981-983 9bc 9be-9cd
9d7 9e2-9e3 9fe-a03 a3c-a51 a70-a71 a75-a83 abc abe-acd ae2-ae3 afa-b03 b3c b3e-b57 b62-b63 b82
bbe-bcd bd7 c00-c04 c3c c3e-c56 c62-c63 c81-c83 cbc cbe-cd6 ce2-ce3 d00-d03 d3b-d3c d3e-d4d d57
d62-d63 d81-d83 dca-ddf df2-df3 e31 e34-e3a e47-e4e eb1 eb4-ebc ec8-ecd f18-f19 f35-f3f f71-f87
f8d-fc6 102b-103e 1056-1059 105e-1060 1062-1064 1067-106d 1071-1074 1082-108d 108f 109a-109d
135d-135f 1712-1715 1732-1734 1752-1753 1772-1773 17b6-17d3 17dd 1885-1886 18a9 1920-193b 1a17-1a1b
1a55-1a7f 1ab0-1b04 1b34-1b44 1b6b-1b82 1ba1-1bad 1be6-1bf3 1c24-1c37 1cd0-1ce8 1ced 1cf4 1cf7-1cf9
1dc0-1dff 2cef-2cf1 2d7f 2de0-2dff 302a-302d 3099-309a a66f-a67d a69e-a69f a6f0-a6f1 a802 a806 a80b
a823-a82c a880-a881 a8b4-a8c5 a8e0-a8f1 a8ff a926-a92d a947-a983 a9b3-a9c0 a9e5 aa29-aa36 aa43
aa4c-aa4d aa7b-aa7d aab0 aab2-aab4 aab7-aab8 aabe-aabf aac1 aaeb-aaef aaf5-aaf6 abe3-abed fb1e-fe2f
101fd 102e0 10376-1037a 10a01-10a0f 10a38-10a3f 10ae5-10ae6 10d24-10d27 10eab-10eac 10f46-10f50
10f82-10f85 11000-11002 11038-11046 11070 11073-11074 1107f-11082 110b0-110c2 11100-11102
11127-11134 11145-11146 11173 11180-11182 111b3-111c0 111c9-111cf 1122c-1123e 112df-112ea
11300-11303 1133b-1133c 1133e-1134d 11357 11362-11374 11435-11446 1145e 114b0-114c3 115af-115c0
115dc-115dd 11630-11640 116ab-116b7 1171d-1172b 1182c-1183a 11930-1193e 11940 11942-11943
119d1-119e0 119e4 11a01-11a0a 11a33-11a39 11a3b-11a47 11a51-11a5b 11a8a-11a99 11c2f-11c3f
11c92-11cb6 11d31-11d45 11d47 11d8a-11d97 11ef3-11ef6 16af0-16af4 16b30-16b36 16f4f 16f51-16f92
16fe4-16ff1 1bc9d-1daaf 1e000-1e02a 1e130-1e136 1e2ae 1e2ec-1e2ef 1e8d0-1e8d6 1e944-1e94a"

/-- Letters whose form joins them to the next one. -/
def joinedToNext : CharSet := CharSet.ofTable "
620 626 628 62a-62e 633-647 649-64a 66e-66f 679-687 69a-6bf 6c1-6c2 6cc 6ce 6d0-6d1 6fa-6fc 6ff
712-714 71a-71d 71f-727 729 72b 72d-72e 74e-758 75c-76a 76d-770 772 775-777 77a-77f 7ca-7ea 841-845
848 84a-853 855 860 862-865 868 886 889-88d 8a0-8a9 8af-8b0 8b3-8b8 8ba-8c8 1820-1878 1887-18a8
18aa a840-a872 10ac0-10ac4 10acd 10ad3-10adc 10ade-10ae0 10b80 10b82 10b86-10b88 10b8a-10b8b 10b8d
10b90 10d00-10d21 10d23 10f30-10f32 10f34-10f44 10f70-10f73 10f76-10f81 10fb0 10fb2-10fb3 10fb8
10fbb-10fbc 10fbe-10fbf 10fc1 10fc4 1e922-1e943"

/-- Letters whose form joins them to the one before. -/
def joinedToPrevious : CharSet := CharSet.ofTable "
620 622-64a 66e-66f 671-673 679-6d5 6ee-6ef 6fa-6fc 6ff-710 712-72f 74d-77f 7ca-7ea 840-858 860
862-865 867-882 886 889-88e 8a0-8ac 8ae-8c8 1820-1878 1887-18a8 18aa a840-a871 10ac0-10ac5
10ac7-10aca 10ace-10ad6 10ad8-10ae1 10ae4 10b80-10b91 10d01-10d23 10f30-10f44 10f70-10f81 10fb0
10fb2-10fb6 10fb8-10fbf 10fc1-10fc4 1e922-1e943"

/-- Greek letters and marks. -/
def greek : CharSet := CharSet.ofTable "371-3e1 3f3-3fc 1d26-1d2a 1f00-1ff6 ab65"

/-- Hebrew letters and marks. -/
def hebrew : CharSet := CharSet.ofTable "591-5f4 fb1e"

/-- The syllables and characters with which Japanese is written. -/
def japanese : CharSet := CharSet.ofTable "
3005 3007 3041-3096 309d-30fa 30fd-30fe 31f0-9fff fa0e-fa29 16fe3 16ff0-16ff1 1aff0-1b167
20000-3134a"

/-- Vowel signs that do not stand in the way of letters that join. -/
def vowelSigns : CharSet := CharSet.ofTable "cbf cc6 11a07-11a08 11c3f 1e94b"

/-- Whether letters join across a character. -/
def isTransparent (c : Char) : Bool :=
  (Direction.marks.contains c && c.toNat != 0x1171e) || vowelSigns.contains c

/-- Whether the nearest letter of a text that is not passed over when letters join is in a set. -/
def joins (set : CharSet) (s : List Char) : Bool :=
  (s.dropWhile isTransparent).head?.any set.contains

/-- Whether a mark takes the vowel from the letter before it. -/
def isVirama (c : Char) : Bool := markClass c == 9

/-- Whether a character that is no letter may stand where it does in a label; the part before is
given nearest character first. A dot in the middle stands between two `l`, the Greek numeral sign
before a Greek letter, the Hebrew signs behind a Hebrew one, and the Japanese dot in a Japanese
label. A label has no digits of both the western and the eastern Arabic script. What keeps letters
apart or together stands behind a mark that takes a vowel, or keeps apart two letters that would
join. -/
def fitsContext (label before : List Char) (c : Char) (after : List Char) : Bool :=
  let n := c.toNat
  if n = 0xb7 then before.head? == some 'l' && after.head? == some 'l'
  else if n = 0x375 then after.head?.any greek.contains
  else if n = 0x5f3 ∨ n = 0x5f4 then before.head?.any hebrew.contains
  else if n = 0x30fb then label.any japanese.contains
  else if 0x660 ≤ n ∧ n ≤ 0x669 then label.all fun d => d.toNat < 0x6f0 || 0x6f9 < d.toNat
  else if 0x6f0 ≤ n ∧ n ≤ 0x6f9 then label.all fun d => d.toNat < 0x660 || 0x669 < d.toNat
  else if n = 0x200c then
    before.head?.any isVirama || (joins joinedToNext before && joins joinedToPrevious after)
  else if n = 0x200d then before.head?.any isVirama
  else false

/-- Whether a prepared character is a letter, a mark, a digit or a hyphen. -/
def isLetter (c : Char) : Bool :=
  if c.toNat < 128 then ('a' ≤ c && c ≤ 'z') || ('0' ≤ c && c ≤ '9') || c == '-'
  else letters.contains c

end SqlCluster.Url.HostName

import SqlCluster.Text.Fold
import SqlCluster.Text.Normal
import SqlCluster.Url.HostName.Label
import SqlCluster.Url.Punycode

/-!
The lenient reading of host names beyond ASCII, for names that the strict one refuses: those with
spaces, underscores, symbols and the like. Labels in ASCII are taken as they are. Others are folded
to one case and put into normal form, as far as characters have long been in use; then only
controls, private characters and what is no character are refused.
-/

namespace SqlCluster.Url.HostName.Lenient

open Text

/-- The characters that a label is read without. -/
def ignored : CharSet := CharSet.ofTable "
ad 34f 1806 180b-180d 200b-200d 2060 fe00-fe0f feff"

/-- Characters that were in use before case folding knew them. -/
def caseless : CharSet := CharSet.ofTable "13a0-13f5 13f8-13fd 1c80-1c88 1e9e ab70-abbf"

/-- What a character folds to. -/
def fold (c : Char) : List Char := if caseless.contains c then lowerChar c else foldChar c

/-- Characters that stay as they are, though they are made of others or stand for them. -/
def recent : CharSet := CharSet.ofTable "
3f9 10fc-1dbf 2090-209c 213b-213c 2150-2152 2189 2c7c-2d6f 321d-321e 3244-3250 327c-327e 32cc-32cf
32ff 3377-337a 33de-33df 33ff-ab69 fa2e-fa2f fa6b-fad9 fe10-fe19 fe47-fe48 10781-11938 1d4c1
1d6a4-1d6a5 1d7ca-1d7cb 1ee00-1fbf9"

/-- Characters of which another form was in use. -/
def otherForms : CharMap := CharMap.ofTable "
2f868:2136a 2f874:5f33 2f91f:43ab 2f95f:7aae 2f9bf:4d57"

/-- What a character is made of or stands for, as far as names are concerned. -/
def form (c : Char) : List Char :=
  if c.toNat < 128 then [c]
  else if recent.contains c then [c]
  else (otherForms.find? c).getD (compatibleForm c)

/-- The prepared form of a label. -/
def prepare (s : List Char) : List Char :=
  let folded := (s.filter fun c => !ignored.contains c).flatMap fun c =>
    (recompose form (fold c)).flatMap fold
  recompose form folded

/-- The characters beyond ASCII that stand in no name. -/
def prohibited : CharSet := CharSet.ofTable "
80-9f 6dd 70f 1680 180e 200e-200f 2028-202e 2061-2063 206a-206f 2ff0-2ffb e000-f8ff fdd0-fdef
fff9-ffff 1d173-1d17a 1fffe-1ffff 2fffe-2ffff 3fffe-3ffff 4fffe-4ffff 5fffe-5ffff 6fffe-6ffff
7fffe-7ffff 8fffe-8ffff 9fffe-9ffff afffe-affff bfffe-bffff cfffe-cffff dfffe-dffff e0001
e0020-e007f efffe-10ffff"

/-- Letters and signs that are written from right to left. -/
def rightLetters : CharSet := CharSet.ofTable "
5be 5c0 5c3 5d0-5ea 5f0-5f4 61b 61f 621-63a 640-64a 66d-66f 671-6d5 6dd 6e5-6e6 6fa-6fe 700-70d 710
712-72c 780-7a5 7b1 200f fe73"

/-- Letters and signs that are written from left to right. -/
def leftLetters : CharSet := CharSet.ofTable "
61-7a e0-f6 f8-21f 223-233 250-2ad 2bb-2c1 2d0-2d1 2ee 390 3ac-3f3 430-482 48b-4ce 4d1-4f5 4f9
501-50f 559-55f 561-586 589 903 905-939 93d-940 949-94c 950 960-961 964-970 982-983 985-98c 98f-990
993-9a8 9aa-9b0 9b2 9b6-9b9 9be-9c0 9c7-9c8 9cb-9cc 9d7 9e0-9e1 9e6-9f1 9f4-9fa a05-a0a a0f-a10
a13-a28 a2a-a30 a32 a35 a38-a39 a3e-a40 a5c a66-a6f a72-a74 a83 a85-a8b a8d a8f-a91 a93-aa8 aaa-ab0
ab2-ab3 ab5-ab9 abd-ac0 ac9 acb-acc ad0 ae0 ae6-aef b02-b03 b05-b0c b0f-b10 b13-b28 b2a-b30 b32-b33
b36-b39 b3d-b3e b40 b47-b48 b4b-b4c b57 b5f-b61 b66-b70 b83 b85-b8a b8e-b90 b92-b95 b99-b9a b9c
b9e-b9f ba3-ba4 ba8-baa bae-bb5 bb7-bb9 bbe-bbf bc1-bc2 bc6-bc8 bca-bcc bd7 be7-bf2 c01-c03 c05-c0c
c0e-c10 c12-c28 c2a-c33 c35-c39 c41-c44 c60-c61 c66-c6f c82-c83 c85-c8c c8e-c90 c92-ca8 caa-cb3
cb5-cb9 cbe cc0-cc4 cc7-cc8 cca-ccb cd5-cd6 cde ce0-ce1 ce6-cef d02-d03 d05-d0c d0e-d10 d12-d28
d2a-d39 d3e-d40 d46-d48 d4a-d4c d57 d60-d61 d66-d6f d82-d83 d85-d96 d9a-db1 db3-dbb dbd dc0-dc6
dcf-dd1 dd8-ddf df2-df4 e01-e30 e32 e40-e46 e4f-e5b e81-e82 e84 e87-e88 e8a e8d e94-e97 e99-e9f
ea1-ea3 ea5 ea7 eaa-eab ead-eb0 eb2 ebd ec0-ec4 ec6 ed0-ed9 f00-f17 f1a-f34 f36 f38 f3e-f47 f49-f6a
f7f f85 f88-f8b fbe-fc5 fc7-fcc fcf 1000-1021 1023-1027 1029-102a 102c 1031 1038 1040-1057
10d0-10f8 10fb 1100-1159 115f-11a2 11a8-11f9 1200-1206 1208-1246 1248 124a-124d 1250-1256 1258
125a-125d 1260-1286 1288 128a-128d 1290-12ae 12b0 12b2-12b5 12b8-12be 12c0 12c2-12c5 12c8-12ce
12d0-12d6 12d8-12ee 12f0-130e 1310 1312-1315 1318-131e 1320-1346 1348-135a 1361-137c 1401-1676
1681-169a 16a0-16f0 1700-170c 170e-1711 1720-1731 1735-1736 1740-1751 1760-176c 176e-1770 1780-17b6
17be-17c5 17c7-17c8 17d4-17da 17dc 17e0-17e9 1810-1819 1820-1877 1880-18a8 1e01-1e99 1ea1-1ef9
1f00-1f15 1f20-1f45 1f50-1f57 1f60-1f7c 1fb0-1fb1 1fb6 1fc6-1fd2 1fd6-1fd7 1fe0-1fe7 1ff6 200e
2180-2182 2336-237a 2395 3005-3007 3021-3029 3031-3035 303b-303c 3041-3096 309d-309e 30a1-30fa
30fc-30fe 3105-312c 3190-31b7 31f0-31ff 327f 3400-4db5 4e00-9fa5 a000-a48c ac00-d7a3 e000-fa29
10300-1031e 10320-10323 10330-1034a 10428-1044d 1d000-1d0f5 1d100-1d126 1d12a-1d166 1d16a-1d172
1d183-1d184 1d18c-1d1a9 1d1ae-1d1dd 20000-2a6d6 f0000-ffffd 100000-10fffd"

/-- Whether a label has only one direction. One that is written from right to left begins and ends
in letters of that direction. -/
def isDirected (s : List Char) : Bool :=
  if s.any rightLetters.contains then
    !s.any leftLetters.contains && s.head?.all rightLetters.contains &&
      s.getLast?.all rightLetters.contains
  else true

/-- The ASCII form of a label. -/
def encodeLabel? (s : List Char) : Option (List Char) :=
  if isAscii s then if fits s then some s else none
  else
    let label := prepare s
    let form := if isAscii label then label else mark ++ Punycode.encode label
    if label.any prohibited.contains ∨ !isDirected label ∨ !fits form ∨
        (!isAscii label ∧ mark.isPrefixOf label) then none
    else some form

/-- The ASCII form of a name. -/
def encode? (s : List Char) : Option (List Char) :=
  mapLabels? encodeLabel? (s.map fun c => if isFullStop c then '.' else c)

/-- The text of a label in ASCII form, if it is the form of that text. -/
def decodeLabel? (s : List Char) : Option (List Char) :=
  if mark.isPrefixOf s then do
    let text ← Punycode.decode? (s.drop mark.length)
    if encodeLabel? text = some (s.map Char.toLower) then some text else none
  else some s

/-- The text of a name in ASCII form. -/
def decode? (s : List Char) : Option (List Char) := mapLabels? decodeLabel? s

end SqlCluster.Url.HostName.Lenient

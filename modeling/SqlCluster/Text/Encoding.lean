import SqlCluster.Text.Utf8
import SqlCluster.Text.Digit

/-!
Byte strings in one of the Unicode encodings. The encoding of a document that starts with an ASCII
character shows in the zero bytes at its beginning, unless a byte order mark names it. A surrogate
without a partner reads as U+FFFD.
-/

namespace SqlCluster.Text

/-- The order of the bytes of a code unit. -/
inductive ByteOrder where
  | little
  | big
  deriving DecidableEq, Repr

/-- An encoding of text; `marked` says that a byte order mark stands in front. -/
inductive Encoding where
  | utf8 (marked : Bool)
  | utf16 (order : ByteOrder) (marked : Bool)
  | utf32 (order : ByteOrder) (marked : Bool)
  deriving DecidableEq, Repr

/-- The encoding that a byte order mark in front shows, if there is one. -/
def Encoding.ofMark? : List UInt8 → Option Encoding
  | 0 :: 0 :: 0xfe :: 0xff :: _ => some (.utf32 .big true)
  | 0xff :: 0xfe :: 0 :: 0 :: _ => some (.utf32 .little true)
  | 0xfe :: 0xff :: _ => some (.utf16 .big true)
  | 0xff :: 0xfe :: _ => some (.utf16 .little true)
  | 0xef :: 0xbb :: 0xbf :: _ => some (.utf8 true)
  | _ => none

/-- The encoding without a mark, which the zeros among the first bytes show. -/
def Encoding.ofZeros : List UInt8 → Encoding
  | a :: b :: c :: d :: _ =>
    if a = 0 then if b = 0 then .utf32 .big false else .utf16 .big false
    else if b = 0 then if c = 0 ∧ d = 0 then .utf32 .little false else .utf16 .little false
    else .utf8 false
  | [a, b] =>
    if a = 0 then .utf16 .big false
    else if b = 0 then .utf16 .little false
    else .utf8 false
  | _ => .utf8 false

/-- The encoding of a document, by its first bytes. -/
def Encoding.detect (bytes : List UInt8) : Encoding :=
  (Encoding.ofMark? bytes).getD (Encoding.ofZeros bytes)

/-- Bytes that cannot be read in an encoding: the bytes, their offset and the reason. -/
structure EncodingFault where
  encoding : Encoding
  offset : Nat
  bytes : List UInt8
  reason : String
  deriving DecidableEq, Repr

/-- The name of an encoding in messages. -/
def Encoding.name : Encoding → String
  | .utf8 _ => "utf-8"
  | .utf16 .little _ => "utf-16-le"
  | .utf16 .big _ => "utf-16-be"
  | .utf32 .little _ => "utf-32-le"
  | .utf32 .big _ => "utf-32-be"

/-- What is reported of unreadable bytes. -/
def EncodingFault.message (f : EncodingFault) : String :=
  let place := match f.bytes with
    | [b] => "byte 0x" ++ String.ofList (hexPadded 2 b.toNat) ++ " in position " ++ f.offset.repr
    | bs => "bytes in position " ++ f.offset.repr ++ "-" ++ (f.offset + bs.length - 1).repr
  "'" ++ f.encoding.name ++ "' codec can't decode " ++ place ++ ": " ++ f.reason

/-- A code unit of two bytes. -/
def unit16 (order : ByteOrder) (a b : UInt8) : Nat :=
  match order with
  | .little => b.toNat * 256 + a.toNat
  | .big => a.toNat * 256 + b.toNat

/-- A code unit of four bytes. -/
def unit32 (order : ByteOrder) (a b c d : UInt8) : Nat :=
  match order with
  | .little => unit16 .little c d * 65536 + unit16 .little a b
  | .big => unit16 .big a b * 65536 + unit16 .big c d

/-- Whether a code unit opens a surrogate pair. -/
def isHighSurrogate (n : Nat) : Bool := 0xd800 ≤ n && n < 0xdc00

/-- Whether a code unit closes a surrogate pair. -/
def isLowSurrogate (n : Nat) : Bool := 0xdc00 ≤ n && n < 0xe000

/-- The character that a surrogate pair stands for. -/
def joinSurrogates (high low : Nat) : Char :=
  Char.ofNat (0x10000 + (high - 0xd800) * 0x400 + (low - 0xdc00))

/-- The character of a code point, U+FFFD for a surrogate. -/
def loneChar (n : Nat) : Char :=
  if isHighSurrogate n || isLowSurrogate n then Char.ofNat 0xfffd else Char.ofNat n

/-- The text of code units of two bytes. -/
def ofUnits16 : List Nat → List Char
  | [] => []
  | [n] => [loneChar n]
  | n :: m :: s =>
    if isHighSurrogate n && isLowSurrogate m then joinSurrogates n m :: ofUnits16 s
    else loneChar n :: ofUnits16 (m :: s)

/-- The code units of two bytes, or the offset and the bytes of the incomplete last one. -/
def units16 (order : ByteOrder) (offset : Nat) : List UInt8 → Except (Nat × List UInt8) (List Nat)
  | [] => .ok []
  | [a] => .error (offset, [a])
  | a :: b :: s => do return unit16 order a b :: (← units16 order (offset + 2) s)

/-- The text of code units of four bytes, or what cannot be read: an incomplete last unit, or one
beyond the last code point. -/
def chars32 (order : ByteOrder) (offset : Nat) :
    List UInt8 → Except (Nat × List UInt8 × String) (List Char)
  | [] => .ok []
  | a :: b :: c :: d :: s =>
    let n := unit32 order a b c d
    if n < 0x110000 then do return loneChar n :: (← chars32 order (offset + 4) s)
    else .error (offset, [a, b, c, d], "code point not in range(0x110000)")
  | s => .error (offset, s, "truncated data")

/-- Reads a byte string in a given encoding. -/
def Encoding.decode (e : Encoding) (bytes : List UInt8) : Except EncodingFault (List Char) :=
  match e with
  | .utf8 marked =>
    let bytes := Utf8.replaceSurrogates (if marked then bytes.drop 3 else bytes)
    match Utf8.decode bytes with
    | .ok s => .ok s
    | .error (n, f) => .error ⟨e, n, (bytes.drop n).take f.span, f.reason.text⟩
  | .utf16 order marked =>
    match units16 order (if marked then 2 else 0) (if marked then bytes.drop 2 else bytes) with
    | .ok units => .ok (ofUnits16 units)
    | .error (n, bs) => .error ⟨e, n, bs, "truncated data"⟩
  | .utf32 order marked =>
    match chars32 order (if marked then 4 else 0) (if marked then bytes.drop 4 else bytes) with
    | .ok s => .ok s
    | .error (n, bs, reason) => .error ⟨e, n, bs, reason⟩

/-- Reads a document in the encoding that its first bytes show. -/
def decodeDocument (bytes : List UInt8) : Except EncodingFault (List Char) :=
  (Encoding.detect bytes).decode bytes

end SqlCluster.Text

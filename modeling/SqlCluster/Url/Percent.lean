import SqlCluster.Text.Utf8
import SqlCluster.Text.Digit

/-!
Percent escapes. Quoting writes a character that may not stand in a part of a URL as the escapes of
its bytes in UTF-8. Requoting also looks at the escapes that are there: one of a character that may
stand for itself is undone unless it would then be read as a delimiter, all others get capital
digits, and a percent sign that begins no escape is escaped itself.
-/

namespace SqlCluster.Url

open Text

/-- Which characters stand for themselves in a part of a URL, besides letters, digits and a few
signs that may stand in all of them: `safe` ones, and `kept` ones of which escapes are kept too.
With `form`, spaces are written as plus signs, and the signs that delimit form fields do not stand
for themselves unless they are listed. -/
structure Quoting where
  safe : List Char
  kept : List Char
  form : Bool

/-- The quoting of user names and passwords. -/
def userQuoting : Quoting := ⟨[], [], false⟩

/-- The quoting of paths. -/
def pathQuoting : Quoting := ⟨['@', ':'], ['/', '+'], false⟩

/-- The quoting of queries. -/
def queryQuoting : Quoting := ⟨['?', '/', ':', '@'], ['=', '+', '&', ';'], true⟩

/-- The quoting of fragments. -/
def fragmentQuoting : Quoting := ⟨['?', '/', ':', '@'], [], false⟩

/-- Whether a character is an ASCII letter or digit. -/
def isAlphanumeric (c : Char) : Bool :=
  ('a' ≤ c && c ≤ 'z') || ('A' ≤ c && c ≤ 'Z') || ('0' ≤ c && c ≤ '9')

/-- Whether a character stands for itself. -/
def Quoting.allows (q : Quoting) (c : Char) : Bool :=
  isAlphanumeric c || ['-', '.', '_', '~', '!', '$', '\'', '(', ')', '*', ','].contains c ||
    (!q.form && ['+', '&', '=', ';'].contains c) || q.safe.contains c || q.kept.contains c

/-- The capital hexadecimal digit of a value below sixteen. -/
def capitalDigit (n : Nat) : Char := if n < 10 then Char.ofNat (48 + n) else Char.ofNat (55 + n)

/-- The escape of a byte. -/
def escape (b : UInt8) : List Char :=
  ['%', capitalDigit (b.toNat / 16), capitalDigit (b.toNat % 16)]

/-- The byte of two hexadecimal digits. -/
def byte? (a b : Char) : Option UInt8 := do
  let high ← hexValue? a
  let low ← hexValue? b
  some (UInt8.ofNat (high * 16 + low))

/-- One character, quoted. -/
def Quoting.quoteChar (q : Quoting) (c : Char) : List Char :=
  if q.form && c == ' ' then ['+']
  else if q.allows c then [c]
  else (Utf8.encodeChar c).flatMap escape

/-- A text of which no escapes are known, quoted. -/
def Quoting.quote (q : Quoting) (s : List Char) : List Char := s.flatMap q.quoteChar

/-- The escape of a byte, or the character if it may stand for itself. -/
def Quoting.normalize (q : Quoting) (b : UInt8) : List Char :=
  let c := Char.ofNat b.toNat
  if b < 0x80 ∧ q.allows c ∧ !q.kept.contains c then [c] else escape b

/-- A text in which escapes are known, quoted. -/
def Quoting.requote (q : Quoting) : List Char → List Char
  | [] => []
  | c :: s =>
    if c = '%' then
      match s with
      | a :: b :: r =>
        match byte? a b with
        | some n => q.normalize n ++ requote q r
        | none => escape 0x25 ++ requote q (a :: b :: r)
      | s => escape 0x25 ++ requote q s
    else q.quoteChar c ++ requote q s

/-- The text of escapes: where their bytes are characters those, and elsewhere the escapes
themselves. -/
def rebuild : List (List Char) → List (Except Utf8.Fault Char) → List Char
  | _, [] => []
  | written, .ok c :: cs => c :: rebuild (written.drop (Utf8.encodeChar c).length) cs
  | written, .error f :: cs => (written.take f.span).flatten ++ rebuild (written.drop f.span) cs

/-- The text of a run of escapes, given with their bytes. -/
def flush (run : List (UInt8 × List Char)) : List Char :=
  rebuild (run.map Prod.snd) (Utf8.scan (run.map Prod.fst))

/-- A text behind a run of escapes, with all escapes undone that are characters in UTF-8. -/
def unquoteAfter (run : List (UInt8 × List Char)) : List Char → List Char
  | [] => flush run
  | c :: s =>
    if c = '%' then
      match s with
      | a :: b :: r =>
        match byte? a b with
        | some n => unquoteAfter (run ++ [(n, ['%', a, b])]) r
        | none => flush run ++ c :: unquoteAfter [] (a :: b :: r)
      | s => flush run ++ c :: unquoteAfter [] s
    else flush run ++ c :: unquoteAfter [] s

/-- A text with all escapes undone that are characters in UTF-8. -/
def unquote (s : List Char) : List Char := unquoteAfter [] s

/-- A text behind bytes that are not read yet, with all escapes undone. The bytes of escapes and of
ASCII characters are read together, with U+FFFD in place of each fault. -/
def unquoteLossyAfter (run : List UInt8) : List Char → List Char
  | [] => Utf8.decodeLossy run
  | c :: s =>
    if 128 ≤ c.toNat then Utf8.decodeLossy run ++ c :: unquoteLossyAfter [] s
    else if c = '%' then
      match s with
      | a :: b :: r =>
        match byte? a b with
        | some n => unquoteLossyAfter (run ++ [n]) r
        | none => unquoteLossyAfter (run ++ [0x25]) (a :: b :: r)
      | s => unquoteLossyAfter (run ++ [0x25]) s
    else unquoteLossyAfter (run ++ [UInt8.ofNat c.toNat]) s

/-- A text with all escapes undone, whatever their bytes are. -/
def unquoteLossy (s : List Char) : List Char := unquoteLossyAfter [] s

end SqlCluster.Url

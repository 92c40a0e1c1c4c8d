import SqlCluster.Json.Fault
import SqlCluster.Value

/-!
Reading a JSON document. Numbers without fraction and exponent are integers, all others doubles;
`NaN`, `Infinity` and `-Infinity` are numbers too. A key that comes again in an object gives its
place a new value. Nothing is mended: the first fault is the answer. Nesting is unbounded: a
document that is nested too deeply for a reader with a limit on its recursion is read here all the
same.
-/

namespace SqlCluster.Json

open Text

/-- A reader takes a value from the beginning of a text and leaves the rest. -/
abbrev Reader (α : Type) := List Char → Except Fault (α × List Char)

/-- Whether a character may stand between the parts of a document. -/
def isSpace (c : Char) : Bool := c == ' ' || c == '\t' || c == '\n' || c == '\r'

/-- A text without the space at its beginning. -/
def skipSpace (s : List Char) : List Char := s.dropWhile isSpace

/-- The fault of a problem at the beginning of what is left of a text. -/
def fail {α : Type} (problem : Problem) (s : List Char) : Except Fault α :=
  .error (.syntactic problem s.length)

/-! ### Texts -/

/-- The number of four hexadecimal digits. -/
def code? (a b c d : Char) : Option Nat := ([a, b, c, d].mapM hexValue?).map (ofDigits 16)

/-- The character that a letter after a backslash stands for. -/
def escaped? (c : Char) : Option Char :=
  if c = '"' then some '"'
  else if c = '\\' then some '\\'
  else if c = '/' then some '/'
  else if c = 'b' then some '\x08'
  else if c = 'f' then some '\x0c'
  else if c = 'n' then some '\n'
  else if c = 'r' then some '\r'
  else if c = 't' then some '\t'
  else none

/-- Puts a character in front of what a reader of text has read. -/
def prepend (c : Char) : Except Fault (List Char × List Char) → Except Fault (List Char × List Char)
  | .ok (t, r) => .ok (c :: t, r)
  | .error f => .error f

/-- Reads a text behind its opening quote, of which `opening` is the number of characters left from
that quote on. An escape by code needs a character behind it, and only where something follows the
second escape of a surrogate pair the two are joined. -/
def readText (opening : Nat) : Reader (List Char)
  | [] => .error (.syntactic .unterminatedText opening)
  | c :: s =>
    if c = '"' then .ok ([], s)
    else if c = '\\' then
      match s with
      | [] => .error (.syntactic .unterminatedText opening)
      | e :: s =>
        if e = 'u' then
          match s with
          | a₁ :: a₂ :: a₃ :: a₄ :: next :: s =>
            match code? a₁ a₂ a₃ a₄ with
            | none => .error (.syntactic .codeEscape (s.length + 6))
            | some n =>
              match s with
              | e₂ :: b₁ :: b₂ :: b₃ :: b₄ :: after :: s =>
                if isHighSurrogate n ∧ next = '\\' ∧ e₂ = 'u' then
                  match code? b₁ b₂ b₃ b₄ with
                  | none => .error (.syntactic .codeEscape (s.length + 6))
                  | some m =>
                    if isLowSurrogate m then
                      prepend (joinSurrogates n m) (readText opening (after :: s))
                    else
                      prepend (loneChar n)
                        (readText opening (next :: e₂ :: b₁ :: b₂ :: b₃ :: b₄ :: after :: s))
                else
                  prepend (loneChar n)
                    (readText opening (next :: e₂ :: b₁ :: b₂ :: b₃ :: b₄ :: after :: s))
              | s => prepend (loneChar n) (readText opening (next :: s))
          | s => .error (.syntactic .codeEscape (s.length + 1))
        else match escaped? e with
          | some d => prepend d (readText opening s)
          | none => .error (.syntactic .escape (s.length + 2))
    else if c < ' ' then .error (.syntactic .controlCharacter (s.length + 1))
    else prepend c (readText opening s)

/-! ### Numbers -/

/-- The whole digits at the beginning of a number: a zero alone, or digits that begin with another
one. -/
def wholeDigits (s : List Char) : List Char :=
  match s with
  | '0' :: _ => ['0']
  | _ => s.takeWhile Char.isDigit

/-- A fraction at the beginning of a text, empty if no digit follows a point, and the rest. -/
def cutFraction : List Char → List Char × List Char
  | '.' :: s =>
    let digits := s.takeWhile Char.isDigit
    if digits.isEmpty then ([], '.' :: s) else (digits, s.dropWhile Char.isDigit)
  | s => ([], s)

/-- An exponent at the beginning of a text, if its digits are there, and the rest. -/
def cutExponent (s : List Char) : Option Int × List Char :=
  match s with
  | c :: r =>
    if c = 'e' ∨ c = 'E' then
      let (negative, r) := Numeral.cutSign r
      let digits := r.takeWhile Char.isDigit
      if digits.isEmpty then (none, s)
      else (some (Double.signed negative (Numeral.digitsValue digits)), r.dropWhile Char.isDigit)
    else (none, s)
  | [] => (none, [])

/-- Reads a number with or without a minus sign, of which `start` is the text from the sign on. -/
def readUnsigned (start : List Char) (negative : Bool) : Reader Value := fun s =>
  let whole := wholeDigits s
  if whole.isEmpty then fail .value start
  else
    let (fraction, rest) := cutFraction (s.drop whole.length)
    let (exponent, rest) := cutExponent rest
    if fraction.isEmpty ∧ exponent.isNone then
      if Numeral.digitLimit < whole.length then .error (.tooManyDigits whole.length)
      else .ok (.int (Double.signed negative (Numeral.digitsValue whole)), rest)
    else .ok (.float (Numeral.decimalValue negative whole fraction (exponent.getD 0)), rest)

/-- Reads a number. -/
def readNumber : Reader Value := fun s =>
  match s with
  | '-' :: r => readUnsigned s true r
  | _ => readUnsigned s false s

/-! ### Values -/

/-- The words that stand for values. -/
def words : List (List Char × Value) := [
  ("null".toList, .null),
  ("true".toList, .bool true),
  ("false".toList, .bool false),
  ("NaN".toList, .float .nan),
  ("Infinity".toList, .float (.infinity false)),
  ("-Infinity".toList, .float (.infinity true))]

/-- Reads a word or a number. -/
def readAtom : Reader Value := fun s =>
  match words.find? fun (w, _) => w.isPrefixOf s with
  | some (w, v) => .ok (v, s.drop w.length)
  | none => readNumber s

mutual

/-- Reads a value; `fuel` bounds the number of nested and successive steps. -/
def readValue : (fuel : Nat) → Reader Value
  | 0 => fail .value
  | fuel + 1 => fun s =>
    match s with
    | '"' :: r => do
      let (t, r) ← readText s.length r
      .ok (.text (String.ofList t), r)
    | '[' :: r =>
      match skipSpace r with
      | ']' :: r => .ok (.list [], r)
      | r => do
        let (items, r) ← readItems fuel r
        .ok (.list items, r)
    | '{' :: r =>
      match skipSpace r with
      | '}' :: r => .ok (.dict [], r)
      | r => do
        let (entries, r) ← readEntries fuel [] r
        .ok (.dict entries, r)
    | _ => readAtom s

/-- Reads the items of a list up to its closing bracket; there is at least one. -/
def readItems : (fuel : Nat) → Reader (List Value)
  | 0 => fail .value
  | fuel + 1 => fun s => do
    let (v, r) ← readValue fuel s
    match skipSpace r with
    | ']' :: r => .ok ([v], r)
    | ',' :: r => do
      let (vs, r) ← readItems fuel (skipSpace r)
      .ok (v :: vs, r)
    | r => fail .comma r

/-- Reads the entries of an object up to its closing brace, behind those already read; there is at
least one. -/
def readEntries : (fuel : Nat) → (before : Dict Value) → Reader (Dict Value)
  | 0, _ => fail .key
  | fuel + 1, before => fun s =>
    match s with
    | '"' :: r => do
      let (key, r) ← readText s.length r
      match skipSpace r with
      | ':' :: r => do
        let (v, r) ← readValue fuel (skipSpace r)
        let entries := Dict.put before (String.ofList key) v
        match skipSpace r with
        | '}' :: r => .ok (entries, r)
        | ',' :: r => readEntries fuel entries (skipSpace r)
        | r => fail .comma r
      | r => fail .colon r
    | s => fail .key s

end

/-- Reads a text that is one value with nothing but space around it. -/
def readWhole (s : List Char) : Except Fault Value := do
  let (v, r) ← readValue (2 * s.length + 2) (skipSpace s)
  match skipSpace r with
  | [] => .ok v
  | r => fail .extra r

/-- Reads a document from its bytes, in the encoding that they show. -/
def read (bytes : List UInt8) : Except Error Value :=
  match decodeDocument bytes with
  | .error fault => .error (.encoding fault)
  | .ok s =>
    match readWhole s with
    | .error fault => .error (fault.toError s)
    | .ok v => .ok v

end SqlCluster.Json

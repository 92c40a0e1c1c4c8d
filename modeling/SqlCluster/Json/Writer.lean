import SqlCluster.Json.Fault
import SqlCluster.Value
import SqlCluster.Number.Shortest

/-!
Writing a JSON document in ASCII. A comma and a colon are followed by a space. Characters that are
not printable ASCII are escaped by their code, those beyond the sixteen-bit codes as a surrogate
pair. Numbers that are not finite, and integers that are too long to be read again, are refused.
-/

namespace SqlCluster.Json

open Text

/-- Why a value has no JSON text. -/
inductive WriteError where
  | notFinite
  | tooManyDigits
  | unknownType (typeName : String)
  deriving DecidableEq, Repr

/-- An error in words. -/
def WriteError.message : WriteError → String
  | notFinite => "Out of range float values are not JSON compliant"
  | tooManyDigits =>
    Numeral.tooLongToWrite ++ "; use sys.set_int_max_str_digits() to increase the limit"
  | unknownType name => "Object of type " ++ name ++ " is not JSON serializable"

/-- The escape of a sixteen-bit code. -/
def codeEscape (n : Nat) : List Char := '\\' :: 'u' :: hexPadded 4 n

/-- One character inside quotes. -/
def writeChar (c : Char) : List Char :=
  if c = '"' ∨ c = '\\' then ['\\', c]
  else if c = '\n' then ['\\', 'n']
  else if c = '\r' then ['\\', 'r']
  else if c = '\t' then ['\\', 't']
  else if c = '\x08' then ['\\', 'b']
  else if c = '\x0c' then ['\\', 'f']
  else if ' ' ≤ c ∧ c ≤ '~' then [c]
  else if c.toNat < 0x10000 then codeEscape c.toNat
  else
    let n := c.toNat - 0x10000
    codeEscape (0xd800 + n / 0x400) ++ codeEscape (0xdc00 + n % 0x400)

/-- A text in quotes. -/
def writeText (s : List Char) : List Char := '"' :: s.flatMap writeChar ++ ['"']

/-- An integer in decimal. -/
def writeInt (n : Int) : List Char :=
  (if n < 0 then ['-'] else []) ++ Nat.toDigits 10 n.natAbs

mutual

/-- Writes a value. -/
def write : Value → Except WriteError (List Char)
  | .null => .ok "null".toList
  | .bool true => .ok "true".toList
  | .bool false => .ok "false".toList
  | .int n => if Numeral.isWritable n then .ok (writeInt n) else .error .tooManyDigits
  | .float x => if x.isFinite then .ok x.text else .error .notFinite
  | .text s => .ok (writeText s.toList)
  | .list [] => .ok ['[', ']']
  | .list (v :: vs) => do return '[' :: (← write v) ++ (← writeItems vs)
  | .dict [] => .ok ['{', '}']
  | .dict ((k, v) :: es) => do
    return '{' :: writeText k.toList ++ ':' :: ' ' :: (← write v) ++ (← writeEntries es)
  | v => .error (.unknownType v.typeName)

/-- Writes the items of a list behind the first, and its closing bracket. -/
def writeItems : List Value → Except WriteError (List Char)
  | [] => .ok [']']
  | v :: vs => do return ',' :: ' ' :: (← write v) ++ (← writeItems vs)

/-- Writes the entries of an object behind the first, and its closing brace. -/
def writeEntries : List (String × Value) → Except WriteError (List Char)
  | [] => .ok ['}']
  | (k, v) :: es => do
    return ',' :: ' ' :: writeText k.toList ++ ':' :: ' ' :: (← write v) ++ (← writeEntries es)

end

end SqlCluster.Json

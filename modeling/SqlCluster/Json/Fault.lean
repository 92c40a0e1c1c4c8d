import SqlCluster.Number.Numeral
import SqlCluster.Text.Encoding

/-!
What is wrong with a text that is no JSON document. A syntax error has a place, reported as its
line and column and as the number of characters before it.
-/

namespace SqlCluster.Json

/-- What is missing or out of place. -/
inductive Problem where
  | value
  | key
  | colon
  | comma
  | unterminatedText
  | controlCharacter
  | escape
  | codeEscape
  | extra
  deriving DecidableEq, Repr

/-- A fault while reading: a problem, with the number of characters left from its place on, or an
integer of too many digits. -/
inductive Fault where
  | syntactic (problem : Problem) (left : Nat)
  | tooManyDigits (count : Nat)
  deriving DecidableEq, Repr

/-- Why bytes are no JSON document. -/
inductive Error where
  | encoding (fault : Text.EncodingFault)
  | syntactic (problem : Problem) (line column offset : Nat)
  | tooManyDigits (count : Nat)
  deriving DecidableEq, Repr

/-- A problem in words. -/
def Problem.text : Problem → String
  | value => "Expecting value"
  | key => "Expecting property name enclosed in double quotes"
  | colon => "Expecting ':' delimiter"
  | comma => "Expecting ',' delimiter"
  | unterminatedText => "Unterminated string starting at"
  | controlCharacter => "Invalid control character at"
  | escape => "Invalid \\escape"
  | codeEscape => "Invalid \\uXXXX escape"
  | extra => "Extra data"

/-- An error in words. -/
def Error.message : Error → String
  | encoding fault => fault.message
  | syntactic problem line column offset =>
    problem.text ++ ": line " ++ line.repr ++ " column " ++ column.repr ++
      " (char " ++ offset.repr ++ ")"
  | tooManyDigits count => Numeral.tooLongToRead count

/-- The error that a fault in a text is. -/
def Fault.toError (text : List Char) : Fault → Error
  | tooManyDigits count => .tooManyDigits count
  | syntactic problem left =>
    let before := text.take (text.length - left)
    .syntactic problem (before.count '\n' + 1)
      ((before.reverse.takeWhile (· ≠ '\n')).length + 1) before.length

end SqlCluster.Json

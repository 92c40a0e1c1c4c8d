import SqlCluster.Text.CharSet

/-!
Digits in the wide sense: the decimal digits of every script, and the single digits among the
superscripts, subscripts and enclosed numbers, which have no place value.
-/

namespace SqlCluster.Text

/-- The digits without place value. -/
def looseDigits : CharSet := CharSet.ofTable "
b2-b3 b9 1369-1371 19da 2070 2074-2079 2080-2089 2460-2468 2474-247c 2488-2490 24ea 24f5-24fd 24ff
2776-277e 2780-2788 278a-2792 10a40-10a43 10e60-10e68 11052-1105a 1f100-1f10a"

/-- Whether a character is a digit in the wide sense. -/
def isDigitLike (c : Char) : Bool := isDecimal c || looseDigits.contains c

end SqlCluster.Text

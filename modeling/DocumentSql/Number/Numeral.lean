/-
Numerals: texts that stand for integers.

An integer is written with decimal digits of any script, an optional sign, single underscores
between digits, and blanks around it.
-/
import DocumentSql.Text.Digit
import DocumentSql.Text.Blank

namespace DocumentSql.Numeral

/-- More digits than this are refused. -/
def digitLimit : Nat := 4300

/-- The blanks that may stand around an integer: those of ASCII except the separators U+001C to
U+001F, and all others. -/
def isPadding (c : Char) : Bool :=
  Text.isBlank c && !(28 ≤ c.toNat && c.toNat ≤ 31)

/-- The text without padding around it. -/
def stripPadding (cs : List Char) : List Char :=
  ((cs.dropWhile isPadding).reverse.dropWhile isPadding).reverse

/-- The digits of a text in which single underscores may stand between digits. -/
def digits? : List Char → Option (List Char)
  | [] => none
  | [c] => if Text.isDigit c then some [c] else none
  | c :: '_' :: cs => if Text.isDigit c then (digits? cs).map (c :: ·) else none
  | c :: cs => if Text.isDigit c then (digits? cs).map (c :: ·) else none

/-- The integer written by a text. -/
def integer? (s : String) : Option Int := do
  let (negative, cs) := Text.takeSign (stripPadding s.toList)
  let ds ← digits? cs
  if ds.length > digitLimit then none
  else
    let n := Text.digitsValue 0 ds
    some (if negative then -n else n)

end DocumentSql.Numeral

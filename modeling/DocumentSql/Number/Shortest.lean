/-
The shortest decimal text of a floating-point number.

Of the decimal numbers that round to the given number, those with the fewest digits are
considered, and of these the nearest. Only two decimals of each length have to be tried: the
neighbours of the number on the grid of that length.
-/
import DocumentSql.Number.Binary

namespace DocumentSql

/-- A positive decimal number `0.d₁d₂… * 10 ^ point`. -/
structure DecimalDigits where
  /-- The digits, the first one not a zero. -/
  digits : List Char
  /-- The place of the decimal point, counted from before the first digit. -/
  point : Int
deriving DecidableEq

namespace DecimalDigits

/-- The digits of `coefficient * 10 ^ exponent`, without the zeros at the end. -/
def ofScaled (coefficient : Nat) (exponent : Int) : DecimalDigits :=
  let all := (Nat.toDigits 10 coefficient)
  let kept := (all.reverse.dropWhile (· == '0')).reverse
  ⟨kept, all.length + exponent⟩

end DecimalDigits

namespace Binary

/-- The place of the decimal point of a positive quotient: the least `p` with
`num / den < 10 ^ p`. -/
def decimalPoint (num den : Nat) : Int :=
  if num ≥ den then ((Nat.toDigits 10 (num / den)).length : Int)
  else
    let k := (Nat.toDigits 10 (den / num)).length
    -- `10 ^ (k - 1) ≤ den / num`, so the quotient is at most `10 ^ (1 - k)`
    if num * Nat.pow 10 (k - 1) ≥ den then 2 - (k : Int) else 1 - (k : Int)

/-- The two neighbours of a positive quotient on the grid of multiples of `10 ^ exponent`, the
nearer one first (of two equally near ones the even one). -/
def gridNeighbours (num den : Nat) (exponent : Int) : List Nat :=
  let (n, d) := if exponent ≥ 0 then (num, den * Nat.pow 10 exponent.toNat)
    else (num * Nat.pow 10 exponent.natAbs, den)
  let q := n / d
  let nearest := roundQuotient n d
  if nearest == q then [q, q + 1] else [q + 1, q]

/-- The decimals of `count` digits nearest to a positive quotient that read back as the given
number. -/
def readingBack? (f : BinaryFormat) (m : Nat) (e : Int) (num den : Nat) (point : Int)
    (count : Nat) : Option DecimalDigits :=
  let exponent := point - count
  ((gridNeighbours num den exponent).find? fun c =>
      f.ofDecimal false c exponent == .finite false m e).map
    (DecimalDigits.ofScaled · exponent)

/-- The shortest decimal that reads back as the positive number `m * 2 ^ e` of the format.
Seventeen digits always suffice for the formats of this library. -/
def shortestDigits (f : BinaryFormat) (m : Nat) (e : Int) : DecimalDigits :=
  let (num, den) := scaleByTwo m 1 (-e)
  let point := decimalPoint num den
  ((List.range 17).findSome? fun k => readingBack? f m e num den point (k + 1)).getD
    (if den == 1 then .ofScaled num 0 else .ofScaled (num * Nat.pow 5 e.natAbs) e)

end Binary

/-- How a floating-point number is written. -/
structure FloatStyle where
  /-- Numbers whose decimal point lies beyond this place are written with an exponent. -/
  lastPoint : Int
  /-- Numbers whose decimal point lies at this place or before are written with an exponent. -/
  firstPoint : Int
  /-- What follows the digits of a number without fraction. -/
  wholeMark : List Char
  /-- The text of a number that is none. -/
  nan : List Char
  /-- The text of an infinity, without its sign. -/
  infinity : List Char

namespace FloatStyle

/-- An exponent: its sign, and at least two digits. -/
def exponentText (e : Int) : List Char :=
  let digits := Nat.toDigits 10 e.natAbs
  (if e < 0 then '-' else '+') :: (if digits.length < 2 then '0' :: digits else digits)

/-- The text of a positive decimal. -/
def digitsText (style : FloatStyle) (d : DecimalDigits) : List Char :=
  if d.point > style.lastPoint || d.point ≤ style.firstPoint then
    let fraction := d.digits.drop 1
    d.digits.take 1 ++ (if fraction.isEmpty then [] else '.' :: fraction) ++
      'e' :: exponentText (d.point - 1)
  else if d.point ≤ 0 then
    '0' :: '.' :: (List.replicate d.point.natAbs '0' ++ d.digits)
  else
    let whole := d.digits.take d.point.toNat
    let fraction := d.digits.drop d.point.toNat
    whole ++ List.replicate (d.point.toNat - whole.length) '0' ++
      (if fraction.isEmpty then style.wholeMark else '.' :: fraction)

/-- The text of a number without its sign. -/
def magnitude (style : FloatStyle) (f : BinaryFormat) : Binary → List Char
  | .nan => style.nan
  | .infinite _ => style.infinity
  | .finite _ 0 _ => '0' :: style.wholeMark
  | .finite _ m e => style.digitsText (Binary.shortestDigits f m e)

/-- The text of a number. -/
def text (style : FloatStyle) (f : BinaryFormat) (x : Binary) : String :=
  String.ofList (if x.isNegative then '-' :: style.magnitude f x else style.magnitude f x)

/-- Values are written positionally from `0.0001` to below `10 ^ 16`, keep a fraction of zero,
and name what is not finite in lower case. -/
def value : FloatStyle := ⟨16, -4, ['.', '0'], "nan".toList, "inf".toList⟩

/-- The parts of a complex number are written as values without a fraction of zero. -/
def part : FloatStyle := { value with wholeMark := [] }

/-- In JSON the numbers that are not finite have names in capitals. -/
def json : FloatStyle := { value with nan := "NaN".toList, infinity := "Infinity".toList }

end FloatStyle

namespace Binary

/-- The text of a double. -/
def text (x : Binary) : String := FloatStyle.value.text .double x

end Binary

end DocumentSql

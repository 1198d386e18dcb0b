/-
Decimal numbers with an exact coefficient and exponent: `1.50` and `1.5` are different
numerals of equal value.
-/
import DocumentSql.Number.Binary
import DocumentSql.Text.Digit
import DocumentSql.Text.Blank

namespace DocumentSql

/-- A decimal numeral. -/
inductive Decimal where
  /-- `coefficient * 10 ^ exponent` with its sign. -/
  | finite (negative : Bool) (coefficient : Nat) (exponent : Int)
  /-- An infinity. -/
  | infinite (negative : Bool)
  /-- No number, with the digits of its payload; a signaling one refuses to take part in
  arithmetic. -/
  | nan (negative signaling : Bool) (payload : List Char)
deriving DecidableEq, Inhabited

namespace Decimal

/-! ### Reading -/

/-- The optional exponent at the end of a numeral. -/
def readExponent? : List Char → Option Int
  | [] => some 0
  | c :: cs =>
    if c.toLower == 'e' then
      let (negative, digits) := Text.takeSign cs
      if digits.isEmpty || !digits.all Text.isDigit then none
      else
        let n := Text.digitsValue 0 digits
        some (if negative then -(n : Int) else n)
    else none

/-- A numeral of digits with an optional point and exponent. -/
def readFinite? (negative : Bool) (cs : List Char) : Option Decimal :=
  let whole := cs.takeWhile Text.isDigit
  let rest := cs.dropWhile Text.isDigit
  let (fraction, rest) := match rest with
    | '.' :: more => (more.takeWhile Text.isDigit, more.dropWhile Text.isDigit)
    | _ => ([], rest)
  if whole.isEmpty && fraction.isEmpty then none
  else (readExponent? rest).map fun e =>
    .finite negative (Text.digitsValue (Text.digitsValue 0 whole) fraction) (e - fraction.length)

/-- The decimal written by a text. Blanks around it and underscores in it do not count. -/
def ofText? (s : String) : Option Decimal :=
  let cs := (Text.stripChars s.toList).filter (· != '_')
  let (negative, cs) := Text.takeSign cs
  match cs.map Char.toLower with
  | ['i', 'n', 'f'] => some (.infinite negative)
  | ['i', 'n', 'f', 'i', 'n', 'i', 't', 'y'] => some (.infinite negative)
  | 'n' :: 'a' :: 'n' :: payload => payloadOf negative false payload
  | 's' :: 'n' :: 'a' :: 'n' :: payload => payloadOf negative true payload
  | _ => readFinite? negative cs
where
  /-- A NaN with the digits that follow its name. -/
  payloadOf (negative signaling : Bool) (payload : List Char) : Option Decimal :=
    if payload.all Text.isDigit then
      some (.nan negative signaling
        ((payload.map fun c => Nat.digitChar ((Text.digitValue? c).getD 0)).dropWhile (· == '0')))
    else none

/-! ### Writing -/

/-- The text of a decimal without its sign. Numbers with an exponent above zero or with more
than five zeros behind the point are written with an exponent. -/
def magnitude : Decimal → List Char
  | .infinite _ => "Infinity".toList
  | .nan _ signaling payload => (if signaling then "sNaN" else "NaN").toList ++ payload
  | .finite _ coefficient exponent =>
    let digits := Nat.toDigits 10 coefficient
    let left : Int := exponent + digits.length
    if exponent ≤ 0 && left > -6 then
      if left ≤ 0 then
        '0' :: '.' :: (List.replicate left.natAbs '0' ++ digits)
      else
        let fraction := digits.drop left.toNat
        digits.take left.toNat ++ (if fraction.isEmpty then [] else '.' :: fraction)
    else
      let fraction := digits.drop 1
      let e := left - 1
      digits.take 1 ++ (if fraction.isEmpty then [] else '.' :: fraction) ++
        'E' :: (if e < 0 then '-' else '+') :: Nat.toDigits 10 e.natAbs

/-- The sign of a decimal. -/
def isNegative : Decimal → Bool
  | .finite s .. => s
  | .infinite s => s
  | .nan s .. => s

/-- The text of a decimal. -/
def text (d : Decimal) : String :=
  String.ofList (if d.isNegative then '-' :: d.magnitude else d.magnitude)

/-! ### Values -/

/-- The decimal is a zero. -/
def isZero : Decimal → Bool
  | .finite _ c _ => c == 0
  | _ => false

/-- The numerator and the denominator of a finite decimal. -/
def ratio? : Decimal → Option (Int × Nat)
  | .finite s c e =>
    let n : Nat := if e ≥ 0 then c * Nat.pow 10 e.toNat else c
    some (if s then -(n : Int) else n, if e ≥ 0 then 1 else Nat.pow 10 e.natAbs)
  | _ => none

/-- The integer part of a finite decimal, cut toward zero. -/
def truncate? : Decimal → Option Int
  | .finite s c e =>
    let n : Nat := if e ≥ 0 then c * Nat.pow 10 e.toNat else c / Nat.pow 10 e.natAbs
    some (if s then -n else n)
  | _ => none

/-- Numeric equality: equal values of different numerals are equal, and a NaN is equal to
nothing. -/
def numericEq : Decimal → Decimal → Bool
  | .infinite s, .infinite t => s == t
  | a, b => match a.ratio?, b.ratio? with
    | some (n, d), some (m, c) => n * c == m * d
    | _, _ => false

end Decimal

end DocumentSql

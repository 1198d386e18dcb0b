/-
Binary floating-point numbers.

A finite number is kept as a sign, a natural mantissa and an exponent of two, so that every
operation on it is exact arithmetic of natural numbers and rounding happens in one place,
`BinaryFormat.round`, which takes a quotient to the nearest number of a format (ties to the
even mantissa).
-/

namespace DocumentSql

/-- A binary interchange format: mantissas of at most `precision` bits, and exponents of the
last bit between `minExponent` and `maxExponent`. -/
structure BinaryFormat where
  /-- The number of bits of a mantissa. -/
  precision : Nat
  /-- The least exponent of the last bit. -/
  minExponent : Int
  /-- The greatest exponent of the last bit. -/
  maxExponent : Int
deriving DecidableEq

namespace BinaryFormat

/-- The format of 64 bits. -/
def double : BinaryFormat := ⟨53, -1074, 971⟩

/-- The format of 32 bits. -/
def single : BinaryFormat := ⟨24, -149, 104⟩

/-- The format of 16 bits. -/
def half : BinaryFormat := ⟨11, -24, 5⟩

end BinaryFormat

/-- A floating-point number. A finite number is `mantissa * 2 ^ exponent` with its sign; the
sign is kept for zero too. -/
inductive Binary where
  /-- No number. -/
  | nan
  /-- An infinity. -/
  | infinite (negative : Bool)
  /-- A finite number. -/
  | finite (negative : Bool) (mantissa : Nat) (exponent : Int)
deriving DecidableEq, Inhabited

/-- The quotient rounded to the nearest natural number, a half to the even one. -/
def roundQuotient (num den : Nat) : Nat :=
  let q := num / den
  let r := 2 * (num % den)
  if r < den || (r == den && q % 2 == 0) then q else q + 1

/-- `num / den * 2 ^ (-exponent)` as a quotient of natural numbers. -/
def scaleByTwo (num den : Nat) (exponent : Int) : Nat × Nat :=
  if exponent < 0 then (num * Nat.pow 2 exponent.natAbs, den)
  else (num, den * Nat.pow 2 exponent.toNat)

namespace BinaryFormat

/-- The exponent of the last bit of the number of the format that is nearest to a positive
quotient, before the mantissa is rounded. -/
def exponentOf (f : BinaryFormat) (num den : Nat) : Int :=
  let guess : Int := (num.log2 : Int) - den.log2 - f.precision
  let scaled := scaleByTwo num den guess
  let e := if scaled.1 / scaled.2 ≥ Nat.pow 2 f.precision then guess + 1 else guess
  max e f.minExponent

/-- The number of the format nearest to a quotient, with its sign. -/
def round (f : BinaryFormat) (negative : Bool) (num den : Nat) : Binary :=
  if num == 0 then .finite negative 0 f.minExponent
  else
    let e := f.exponentOf num den
    let scaled := scaleByTwo num den e
    let m := roundQuotient scaled.1 scaled.2
    let (m, e) :=
      if m == Nat.pow 2 f.precision then (Nat.pow 2 (f.precision - 1), e + 1) else (m, e)
    if e > f.maxExponent then .infinite negative else .finite negative m e

/-- Numbers with more decimal digits before the point than this are infinite, and numbers
whose first digit stands farther behind the point than this are zero, in every format. -/
def decimalReach : Int := 400

/-- The number of the format nearest to `coefficient * 10 ^ exponent`. -/
def ofDecimal (f : BinaryFormat) (negative : Bool) (coefficient : Nat) (exponent : Int) : Binary :=
  let size : Int := (coefficient.log2 * 3 / 10 : Nat) + exponent
  if coefficient == 0 then .finite negative 0 f.minExponent
  else if size > decimalReach then .infinite negative
  else if size < -decimalReach then .finite negative 0 f.minExponent
  else if exponent ≥ 0 then f.round negative (coefficient * Nat.pow 10 exponent.toNat) 1
  else f.round negative coefficient (Nat.pow 10 exponent.natAbs)

end BinaryFormat

namespace Binary

/-- The number is not a number. -/
def isNan : Binary → Bool
  | nan => true
  | _ => false

/-- The number is finite. -/
def isFinite : Binary → Bool
  | finite .. => true
  | _ => false

/-- The number is a zero of either sign. -/
def isZero : Binary → Bool
  | finite _ m _ => m == 0
  | _ => false

/-- The sign bit. -/
def isNegative : Binary → Bool
  | nan => false
  | infinite s => s
  | finite s .. => s

/-- The number in another format. -/
def toFormat (f : BinaryFormat) : Binary → Binary
  | finite s m e =>
      let scaled := scaleByTwo m 1 (-e)
      f.round s scaled.1 scaled.2
  | x => x

/-- The double nearest to an integer. -/
def ofInt (n : Int) : Binary := BinaryFormat.double.round (n < 0) n.natAbs 1

/-- The integer part of a finite number, cut toward zero. -/
def truncate? : Binary → Option Int
  | finite s m e =>
      let n : Nat := if e ≥ 0 then m * Nat.pow 2 e.toNat else m / Nat.pow 2 e.natAbs
      some (if s then -n else n)
  | _ => none

/-- The integer that a finite number without fraction stands for. -/
def toInt? : Binary → Option Int
  | finite s m e =>
      if e ≥ 0 then
        let n : Nat := m * Nat.pow 2 e.toNat
        some (if s then -n else n)
      else if m % Nat.pow 2 e.natAbs == 0 then
        let n : Nat := m / Nat.pow 2 e.natAbs
        some (if s then -n else n)
      else none
  | _ => none

/-- The numerator and the denominator of a finite number. -/
def ratio? : Binary → Option (Int × Nat)
  | finite s m e =>
      let scaled := scaleByTwo m 1 (-e)
      some (if s then -(scaled.1 : Int) else scaled.1, scaled.2)
  | _ => none

/-- Numeric equality: zeros of both signs are equal, and a NaN is equal to nothing. -/
def numericEq : Binary → Binary → Bool
  | nan, _ => false
  | _, nan => false
  | infinite s, infinite t => s == t
  | finite s m e, finite t n d => (m == 0 && n == 0) || (s == t && m == n && e == d)
  | _, _ => false

end Binary

end DocumentSql

/-
Values as a kind and a text.

Many values have no form in JSON, yet each of them can be written as the name of its kind and a
text. `Value.written?` gives both, and `Value.ofWritten?` reads a value from them.
-/
import DocumentSql.Text.Cut
import DocumentSql.Value.Integer
import DocumentSql.Value.Literal

namespace DocumentSql

namespace Binary

/-- The double nearest to a decimal. -/
def ofDecimal : Decimal → Binary
  | .finite negative coefficient exponent => BinaryFormat.double.ofDecimal negative coefficient exponent
  | .infinite negative => .infinite negative
  | .nan .. => .nan

/-- The double that a text writes, as a decimal numeral or by name. -/
def ofText? (s : String) : Option Binary := (Decimal.ofText? s).map ofDecimal

/-- The positive zero of doubles. -/
def zero : Binary := ofInt 0

end Binary

namespace Value

/-! ### Bytes and identifiers -/

/-- Two hexadecimal digits for every byte. -/
def hexText (bs : List UInt8) : String := String.ofList (bs.flatMap fun b => Text.hex 2 b.toNat)

/-- The bytes that pairs of hexadecimal digits write. -/
def hexBytes? : List Char → Option (List UInt8)
  | [] => some []
  | a :: b :: cs => (hexBytes? cs).map fun bs => UInt8.ofNat (hexDigit a * 16 + hexDigit b) :: bs
  | [_] => none

/-- The character is a hexadecimal digit in lower case. -/
def isHexDigit (c : Char) : Bool := c.isDigit || ('a' ≤ c && c ≤ 'f')

/-- The canonical text of an identifier: its digits in groups of eight, three times four, and
twelve. -/
def uuidText (s : String) : String :=
  let digits := s.toLower.toList.filter isHexDigit
  let group (start count : Nat) := String.ofList ((digits.drop start).take count)
  String.intercalate "-" [group 0 8, group 8 4, group 12 4, group 16 4, group 20 12]

/-! ### Complex numbers -/

/-- A complex numeral without its unit, from its end: what stands before the sign of the
imaginary part, and the imaginary part with its sign. The sign of an exponent divides nothing. -/
def splitParts : List Char → List Char → List Char × List Char
  | [], imaginary => ([], imaginary)
  | c :: before, imaginary =>
    let isExponent := before.head? == some 'e'
    if (c == '+' || c == '-') && !isExponent then (before.reverse, c :: imaginary)
    else splitParts before (c :: imaginary)

/-- The complex number that a text writes. Parentheses around it do not count. -/
def complexOf? (s : String) : Option Value :=
  let part? (cs : List Char) : Option Binary :=
    if cs.isEmpty then some Binary.zero else Binary.ofText? (String.ofList cs)
  match (s.toLower.toList.filter fun c => c != '(' && c != ')').reverse with
  | 'j' :: rest => do
    let (re, im) := splitParts rest []
    return .complex (← part? re) (← part? im)
  | _ => (Binary.ofText? s).map fun re => .complex re Binary.zero

/-! ### Kinds -/

/-- The kind and the text of a value that JSON has no form for and that has no parts. -/
def written? : Value → Option (String × String)
  | int n => some ("int", toString n)
  | float x => some ("float", x.text)
  | complex re im => some ("complex", (complex re im).literal)
  | decimal d => some ("decimal", d.text)
  | date d => some ("date", d.text)
  | moment m => some ("datetime", m.textWith "T")
  | time t => some ("time", t.text)
  | uuid s => some ("uuid", s)
  | bytes bs => some ("bytes", hexText bs)
  | callable label => some ("callable", label)
  | class_ name => some ("class", name)
  | cast k => some ("cast", k.name)
  | key k => some ("key", k.name)
  | _ => none

/-- The value of a kind that a text writes. -/
def ofWritten? (kind s : String) : Option Value :=
  match kind with
  | "int" => (Numeral.integer? s).map int
  | "float" => (Binary.ofText? s).map float
  | "complex" => complexOf? s
  | "decimal" => (Decimal.ofText? s).map decimal
  | "date" => (Date.ofText? s).map date
  | "datetime" => (Moment.ofText? s).map moment
  | "time" => (TimeOfDay.ofText? s).map time
  | "uuid" => some (uuid (uuidText s))
  | "bytes" => (hexBytes? s.toList).map bytes
  | "callable" => some (callable s)
  | "class" => some (class_ s)
  | "cast" => (CastKind.ofName? s).map cast
  | _ => none

end Value

end DocumentSql

/-
Reading JSON texts.

The order of members is kept; a repeated member has the last of its values at the place of the
first. Integers are exact. Numbers that are not finite may be given by name.
-/
import DocumentSql.Value.Equal
import DocumentSql.Text.Digit
import DocumentSql.Text.Cut

namespace DocumentSql.Json

/-- The characters that may stand between the tokens of a JSON text. -/
def isSpace (c : Char) : Bool := c == ' ' || c == '\t' || c == '\n' || c == '\r'

/-- The text without the spaces at its start. -/
def skipSpace (cs : List Char) : List Char := cs.dropWhile isSpace

/-- The value of four hexadecimal digits at the start of a text, and the rest. -/
def takeUnit? : List Char → Option (Nat × List Char)
  | a :: b :: c :: d :: cs => do
    let a ← hexValue? a
    let b ← hexValue? b
    let c ← hexValue? c
    let d ← hexValue? d
    some (((a * 16 + b) * 16 + c) * 16 + d, cs)
  | _ => none
where
  /-- The value of a hexadecimal digit. -/
  hexValue? (c : Char) : Option Nat :=
    if c.isDigit then some (c.toNat - 48)
    else if 'a' ≤ c && c ≤ 'f' then some (c.toNat - 87)
    else if 'A' ≤ c && c ≤ 'F' then some (c.toNat - 55)
    else none

/-- The character of a unit, joined with the next one when the two are halves of a pair. A half
that stands alone is replaced. -/
def joinUnits (unit : Nat) (cs : List Char) : Char × List Char :=
  if 0xd800 ≤ unit && unit < 0xdc00 then
    match cs with
    | '\\' :: 'u' :: more =>
      match takeUnit? more with
      | some (low, rest) =>
        if 0xdc00 ≤ low && low < 0xe000 then
          (Char.ofNat (0x10000 + (unit - 0xd800) * 0x400 + (low - 0xdc00)), rest)
        else ('\ufffd', cs)
      | none => ('\ufffd', cs)
    | _ => ('\ufffd', cs)
  else if 0xdc00 ≤ unit && unit < 0xe000 then ('\ufffd', cs)
  else (Char.ofNat unit, cs)

/-- The character of an escape that is named by a letter. -/
def namedEscape? : Char → Option Char
  | '"' => some '"'
  | '\\' => some '\\'
  | '/' => some '/'
  | 'b' => some '\x08'
  | 'f' => some '\x0c'
  | 'n' => some '\n'
  | 'r' => some '\r'
  | 't' => some '\t'
  | _ => none

/-- The rest of a text behind its opening quote, up to the closing one, and what follows. The
characters read are gathered in reverse. -/
def readChars? : Nat → List Char → List Char → Option (String × List Char)
  | 0, _, _ => none
  | _ + 1, _, [] => none
  | fuel + 1, read, c :: cs =>
    if c == '"' then some (String.ofList read.reverse, cs)
    else if c == '\\' then
      match cs with
      | 'u' :: more => do
        let (unit, rest) ← takeUnit? more
        let (c, rest) := joinUnits unit rest
        readChars? fuel (c :: read) rest
      | e :: more => do
        let c ← namedEscape? e
        readChars? fuel (c :: read) more
      | [] => none
    else if c.toNat < 32 then none
    else readChars? fuel (c :: read) cs

/-- The digits at the start of a text, and the rest. -/
def takeDigits (cs : List Char) : List Char × List Char :=
  (cs.takeWhile Char.isDigit, cs.dropWhile Char.isDigit)

/-- The fraction at the start of a text, if a point and a digit stand there. -/
def takeFraction (cs : List Char) : Option (List Char) × List Char :=
  match cs with
  | '.' :: more =>
    match takeDigits more with
    | ([], _) => (none, cs)
    | (digits, rest) => (some digits, rest)
  | _ => (none, cs)

/-- The exponent at the start of a text, if one stands there. -/
def takeExponent (cs : List Char) : Option Int × List Char :=
  match cs with
  | c :: more =>
    if c == 'e' || c == 'E' then
      let (negative, digits) := Text.takeSign more
      match takeDigits digits with
      | ([], _) => (none, cs)
      | (digits, rest) =>
        let n : Int := Text.digitsValue 0 digits
        (some (if negative then -n else n), rest)
    else (none, cs)
  | [] => (none, cs)

/-- The whole part of a number: a zero, or digits that begin with another one. -/
def takeWhole? (cs : List Char) : Option (Nat × List Char) :=
  match cs with
  | '0' :: rest => some (0, rest)
  | _ => match takeDigits cs with
    | ([], _) => none
    | (digits, rest) => some (Text.digitsValue 0 digits, rest)

/-- A number at the start of a text, behind its sign, and the rest. -/
def readNumber? (negative : Bool) (cs : List Char) : Option (Value × List Char) := do
  let (whole, rest) ← takeWhole? cs
  let (fraction, rest) := takeFraction rest
  let (exponent, rest) := takeExponent rest
  match fraction, exponent with
  | none, none => some (.int (if negative then -whole else whole), rest)
  | fraction, exponent =>
    let digits := fraction.getD []
    let coefficient := Text.digitsValue whole digits
    some (.float (BinaryFormat.double.ofDecimal negative coefficient
      (exponent.getD 0 - digits.length)), rest)

/-- The values that are given by name. -/
def names : List (String × Value) :=
  [("null", .null), ("true", .bool true), ("false", .bool false), ("NaN", .float .nan),
   ("Infinity", .float (.infinite false)), ("-Infinity", .float (.infinite true))]

/-- A value given by name at the start of a text, and the rest. -/
def readName? (cs : List Char) : Option (Value × List Char) :=
  names.findSome? fun (name, v) => (Text.after? name.toList cs).map (v, ·)

mutual
/-- A value at the start of a text, and the rest. -/
def readValue? : Nat → List Char → Option (Value × List Char)
  | 0, _ => none
  | fuel + 1, cs =>
    match readName? cs with
    | some found => some found
    | none => match cs with
      | '"' :: rest => (readChars? (rest.length + 1) [] rest).map fun (s, rest) => (.text s, rest)
      | '[' :: rest =>
        match skipSpace rest with
        | ']' :: rest => some (.list [], rest)
        | rest => (readItems? fuel [] rest).map fun (xs, rest) => (.list xs, rest)
      | '\x7b' :: rest =>
        match skipSpace rest with
        | '\x7d' :: rest => some (.dict [], rest)
        | rest => (readMembers? fuel [] rest).map fun (ms, rest) => (.dict ms, rest)
      | '-' :: rest => readNumber? true rest
      | _ => readNumber? false cs
/-- The items of a list up to its closing bracket, gathered in reverse. -/
def readItems? : Nat → List Value → List Char → Option (List Value × List Char)
  | 0, _, _ => none
  | fuel + 1, read, cs => do
    let (v, rest) ← readValue? fuel (skipSpace cs)
    match skipSpace rest with
    | ',' :: rest => readItems? fuel (v :: read) rest
    | ']' :: rest => some ((v :: read).reverse, rest)
    | _ => none
/-- The members of a mapping up to its closing bracket. -/
def readMembers? : Nat → Members → List Char → Option (Members × List Char)
  | 0, _, _ => none
  | fuel + 1, read, cs => do
    match skipSpace cs with
    | '"' :: rest =>
      let (key, rest) ← readChars? (rest.length + 1) [] rest
      match skipSpace rest with
      | ':' :: rest =>
        let (v, rest) ← readValue? fuel (skipSpace rest)
        let read := Members.insert (.text key) v read
        match skipSpace rest with
        | ',' :: rest => readMembers? fuel read rest
        | '\x7d' :: rest => some (read, rest)
        | _ => none
      | _ => none
    | _ => none
end

/-- The value written by a JSON text. -/
def read? (s : String) : Option Value :=
  let cs := skipSpace s.toList
  match readValue? (cs.length + 1) cs with
  | some (v, rest) => if (skipSpace rest).isEmpty then some v else none
  | none => none

end DocumentSql.Json

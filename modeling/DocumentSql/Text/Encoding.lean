/-
Decoding byte strings that hold JSON.

The encoding is told from a mark at the start or from the places of zero bytes among the first
four: UTF-8, or UTF-16 or UTF-32 of either byte order.
-/

namespace DocumentSql.Text

/-- An encoding of texts in bytes. -/
inductive Encoding where
  /-- One to four bytes for a character. -/
  | utf8
  /-- One or two units of two bytes for a character. -/
  | utf16 (bigEndian : Bool)
  /-- Four bytes for a character. -/
  | utf32 (bigEndian : Bool)
deriving DecidableEq

/-- The number written by bytes. -/
def bytesValue (bigEndian : Bool) (bs : List UInt8) : Nat :=
  (if bigEndian then bs else bs.reverse).foldl (fun n b => n * 256 + b.toNat) 0

/-- The bytes taken in groups of a size; nothing when a group is incomplete. -/
def byteGroups? (size : Nat) : Nat → List UInt8 → Option (List (List UInt8))
  | _, [] => some []
  | 0, _ => none
  | fuel + 1, bs =>
    if bs.length < size then none
    else (byteGroups? size fuel (bs.drop size)).map (bs.take size :: ·)

/-- The character of a code point, if it is one. -/
def codePoint? (n : Nat) : Option Char := if n.isValidChar then some (Char.ofNat n) else none

/-- The characters of units of sixteen bits. -/
def ofUnits? : List Nat → Option (List Char)
  | [] => some []
  | unit :: units =>
    if 0xd800 ≤ unit && unit < 0xdc00 then
      match units with
      | low :: units =>
        if 0xdc00 ≤ low && low < 0xe000 then
          (ofUnits? units).map
            (Char.ofNat (0x10000 + (unit - 0xd800) * 0x400 + (low - 0xdc00)) :: ·)
        else none
      | [] => none
    else do
      let c ← codePoint? unit
      let cs ← ofUnits? units
      some (c :: cs)

/-- The text of bytes in an encoding. -/
def Encoding.decode? (e : Encoding) (bs : List UInt8) : Option String :=
  match e with
  | utf8 => String.fromUTF8? ⟨bs.toArray⟩
  | utf16 bigEndian => do
    let units ← byteGroups? 2 bs.length bs
    (ofUnits? (units.map (bytesValue bigEndian))).map String.ofList
  | utf32 bigEndian => do
    let units ← byteGroups? 4 bs.length bs
    (units.mapM fun u => codePoint? (bytesValue bigEndian u)).map String.ofList

/-- The encoding of a JSON text, and its bytes without a mark at the start. -/
def encodingOf (bs : List UInt8) : Encoding × List UInt8 :=
  match bs with
  | 0 :: 0 :: 0xfe :: 0xff :: rest => (.utf32 true, rest)
  | 0xff :: 0xfe :: 0 :: 0 :: rest => (.utf32 false, rest)
  | 0xfe :: 0xff :: rest => (.utf16 true, rest)
  | 0xff :: 0xfe :: rest => (.utf16 false, rest)
  | 0xef :: 0xbb :: 0xbf :: rest => (.utf8, rest)
  | 0 :: b :: _ :: _ :: _ => (if b != 0 then .utf16 true else .utf32 true, bs)
  | _ :: 0 :: c :: d :: _ => (if c != 0 || d != 0 then .utf16 false else .utf32 false, bs)
  | [0, _] => (.utf16 true, bs)
  | [_, 0] => (.utf16 false, bs)
  | _ => (.utf8, bs)

/-- The text of bytes that hold JSON. -/
def decode? (bs : List UInt8) : Option String :=
  let (e, rest) := encodingOf bs
  e.decode? rest

end DocumentSql.Text

/-
The readable layout of values.

A value that fits into its line is shown by its literal. One that does not is laid out over
several lines: the parts of lists, tuples, sets and mappings on a line each, indented below their
bracket, and long texts cut behind blanks and line ends. The members of mappings stand in the order
of their keys.
-/
import DocumentSql.Value.Literal
import DocumentSql.Value.Equal
import DocumentSql.Text.Blank

namespace DocumentSql

/-- The measures of a layout. -/
structure PageStyle where
  /-- The number of columns of a line. -/
  width : Nat
  /-- The number of columns by which the parts of a value are indented. -/
  indent : Nat

namespace PageStyle

/-- Eighty columns, and four for each level. -/
def usual : PageStyle := ⟨80, 4⟩

/-- The text fits between what stands before and behind it on the line. -/
def fits (p : PageStyle) (before behind : Nat) (s : String) : Bool :=
  before + s.length + behind ≤ p.width

/-- The blanks between an opening bracket and the first part. -/
def lead (p : PageStyle) : String := "".pushn ' ' (p.indent - 1)

/-- What separates parts. -/
def separator (p : PageStyle) (before : Nat) : String :=
  ",\n" ++ "".pushn ' ' (before + p.indent)

end PageStyle

namespace Readable

/-! ### The order of members -/

/-- A key stands before another one: texts by their characters, numbers by their values, and keys
that cannot be compared by the names of their classes. -/
def keyBefore (a b : Value) : Bool :=
  match a, b with
  | .text s, .text t => s ≤ t
  | a, b => match a.number?, b.number? with
    | some (.ratio n d, _), some (.ratio m c, _) => n * c ≤ m * d
    | _, _ => a.className ≤ b.className

mutual
/-- The value with the members of its sets and mappings in order. -/
def ordered : Value → Value
  | .list xs => .list (orderedAll xs)
  | .tuple xs => .tuple (orderedAll xs)
  | .set xs => .set (xs.mergeSort keyBefore)
  | .dict ms => .dict ((orderedMembers ms).mergeSort fun a b => keyBefore a.1 b.1)
  | v => v
  termination_by structural v => v
/-- The values with the members of their mappings in order. -/
def orderedAll : List Value → List Value
  | [] => []
  | v :: vs => ordered v :: orderedAll vs
  termination_by structural vs => vs
/-- The members with the members of their values in order. -/
def orderedMembers : List (Value × Value) → List (Value × Value)
  | [] => []
  | (k, v) :: ms => (k, ordered v) :: orderedMembers ms
  termination_by structural ms => ms
end

/-! ### Long texts -/

/-- A character that ends a line. -/
def isLineEnd (c : Char) : Bool :=
  "\n\r\x0b\x0c\x1c\x1d\x1e\u0085\u2028\u2029".toList.contains c

/-- The lines of a text, each with its end. -/
def lines : List Char → List (List Char)
  | [] => []
  | '\r' :: '\n' :: cs => ['\r', '\n'] :: lines cs
  | c :: cs =>
    if isLineEnd c then [c] :: lines cs
    else match lines cs with
      | [] => [[c]]
      | l :: ls => (c :: l) :: ls

/-- The words of a line, each with the blanks behind it. -/
def words : List Char → List (List Char)
  | [] => []
  | [c] => [[c]]
  | c :: d :: cs =>
    match words (d :: cs) with
    | [] => [[c]]
    | w :: ws => if Text.isBlank c && !Text.isBlank d then [c] :: w :: ws else (c :: w) :: ws

/-- The literal of a part of a text. -/
def chunk (cs : List Char) : String := Text.quoted (String.ofList cs)

/-- The words gathered into chunks no longer than a width, the last of them no longer than another
one. -/
def gather (width lastWidth : Int) (current : List Char) : List (List Char) → List String
  | [] => if current.isEmpty then [] else [chunk current]
  | w :: ws =>
    let limit := if ws.isEmpty then lastWidth else width
    if limit < (chunk (current ++ w)).length then
      (if current.isEmpty then [] else [chunk current]) ++ gather width lastWidth w ws
    else gather width lastWidth (current ++ w) ws

/-- The chunks of lines: a line that is too long is cut behind its words. -/
def lineChunks (width lastWidth : Int) : List (List Char) → List String
  | [] => []
  | l :: ls =>
    let limit := if ls.isEmpty then lastWidth else width
    (if (chunk l).length ≤ limit then [chunk l] else gather width limit [] (words l)) ++
      lineChunks width lastWidth ls

/-- The parts of a byte string of four bytes each, gathered like words. -/
def byteChunks (width lastWidth : Int) (current : List UInt8) : List UInt8 → List String
  | a :: b :: c :: d :: bs =>
    let next := current ++ [a, b, c, d]
    if width < (Text.quotedBytes next).length then
      (if current.isEmpty then [] else [Text.quotedBytes current]) ++
        byteChunks width lastWidth [a, b, c, d] bs
    else byteChunks width lastWidth next bs
  | bs =>
    let next := current ++ bs
    if lastWidth < (Text.quotedBytes next).length then
      (if current.isEmpty then [] else [Text.quotedBytes current]) ++
        (if bs.isEmpty then [] else [Text.quotedBytes bs])
    else if next.isEmpty then [] else [Text.quotedBytes next]

/-- Chunks on a line each. -/
def stack (before : Nat) (chunks : List String) : String :=
  String.intercalate ("\n" ++ "".pushn ' ' before) chunks

/-! ### The layout -/

mutual
/-- The layout of a value between what stands before and behind it on its line. -/
def layout (p : PageStyle) (before behind : Nat) : Value → String
  | .text s =>
    let room : Int := p.width - before
    if p.fits before behind (Text.quoted s) || s.isEmpty then Text.quoted s
    else stack before (lineChunks room (room - behind) (lines s.toList))
  | .bytes bs =>
    let room : Int := p.width - before
    if p.fits before behind (Text.quotedBytes bs) || bs.length ≤ 4 then Text.quotedBytes bs
    else stack before (byteChunks room (room - behind) [] bs)
  | .list xs =>
    let whole := (Value.list xs).literal
    if p.fits before behind whole then whole
    else "[" ++ p.lead ++ layoutItems p before (behind + 1) xs ++ "]"
  | .tuple xs =>
    let whole := (Value.tuple xs).literal
    let closing := if xs.length == 1 then ",)" else ")"
    if p.fits before behind whole then whole
    else "(" ++ p.lead ++ layoutItems p before (behind + closing.length) xs ++ closing
  | .set (x :: xs) =>
    let whole := (Value.set (x :: xs)).literal
    if p.fits before behind whole then whole
    else "\x7b" ++ p.lead ++ layoutItems p before (behind + 1) (x :: xs) ++ "\x7d"
  | .dict ms =>
    let whole := (Value.dict ms).literal
    if p.fits before behind whole then whole
    else "\x7b" ++ p.lead ++ layoutMembers p before (behind + 1) ms ++ "\x7d"
  | v => v.literal
  termination_by structural v => v
/-- The layouts of parts. -/
def layoutItems (p : PageStyle) (before behind : Nat) : List Value → String
  | [] => ""
  | v :: vs =>
    if vs.isEmpty then layout p (before + p.indent) behind v
    else layout p (before + p.indent) 1 v ++ p.separator before ++ layoutItems p before behind vs
  termination_by structural vs => vs
/-- The layouts of members. -/
def layoutMembers (p : PageStyle) (before behind : Nat) : List (Value × Value) → String
  | [] => ""
  | (k, v) :: ms =>
    let key := k.literal
    let start := before + p.indent + key.length + 2
    if ms.isEmpty then key ++ ": " ++ layout p start behind v
    else key ++ ": " ++ layout p start 1 v ++ p.separator before ++ layoutMembers p before behind ms
  termination_by structural ms => ms
end

end Readable

/-- The readable layout of a value. -/
def Value.readable (p : PageStyle) (v : Value) : String := Readable.layout p 0 0 (Readable.ordered v)

end DocumentSql

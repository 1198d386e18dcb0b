/-
JSON texts of values.

A text is written with a blank behind every comma and colon, members in their order, and ASCII
characters only. Keys that are numbers, truth values or nothing are written as texts. Numbers
that are not finite are written by name, which JSON itself does not know.
-/
import DocumentSql.Value.Literal

namespace DocumentSql.Json

/-- Why a value has no JSON text. -/
inductive Unwritable where
  /-- A value of a class that JSON has no form for. -/
  | value (className : String)
  /-- A key of such a class. -/
  | key (className : String)
deriving DecidableEq

/-- The fault in words. -/
def Unwritable.message : Unwritable → String
  | value className => "Object of type " ++ className ++ " is not JSON serializable"
  | key className => "keys must be str, int, float, bool or None, not " ++ className

/-- One unit of sixteen bits as an escape. -/
def escapeUnit (n : Nat) : List Char := '\\' :: 'u' :: Text.hex 4 n

/-- A character beyond printable ASCII as an escape, in two units when it needs them. -/
def escapeCode (n : Nat) : List Char :=
  if n < 0x10000 then escapeUnit n
  else escapeUnit (0xd800 + (n - 0x10000) / 0x400) ++ escapeUnit (0xdc00 + (n - 0x10000) % 0x400)

/-- A character inside a JSON text. -/
def writeChar (c : Char) : List Char :=
  if c == '"' || c == '\\' then ['\\', c]
  else if c == '\n' then ['\\', 'n']
  else if c == '\r' then ['\\', 'r']
  else if c == '\t' then ['\\', 't']
  else if c == '\x08' then ['\\', 'b']
  else if c == '\x0c' then ['\\', 'f']
  else if 32 ≤ c.toNat && c.toNat < 127 then [c]
  else escapeCode c.toNat

/-- A text in JSON. -/
def writeText (s : String) : String :=
  String.ofList ('"' :: s.toList.flatMap writeChar ++ ['"'])

/-- A number in JSON. -/
def writeFloat (x : Binary) : String := FloatStyle.json.text .double x

/-- The key of a member, as a text. -/
def keyText : Value → Except Unwritable String
  | .text s => .ok s
  | .cast k => .ok k.name
  | .null => .ok "null"
  | .bool b => .ok (if b then "true" else "false")
  | .int n => .ok (toString n)
  | .float x => .ok (writeFloat x)
  | .scalar "float64" (.float x) => .ok (writeFloat x)
  | .scalar _ (.text s) => .ok s
  | v => .error (.key v.className)

/-- How the parts of lists and mappings are laid out. -/
structure Layout where
  /-- The number of blanks by which each level is indented; without it all is on one line. -/
  indent : Option Nat

namespace Layout

/-- All on one line. -/
def line : Layout := ⟨none⟩

/-- The line end before a part at a depth. -/
def breakAt (l : Layout) (depth : Nat) : String :=
  match l.indent with
  | none => ""
  | some n => "\n" ++ "".pushn ' ' (n * depth)

/-- The parts of a list or mapping at a depth, between its brackets. -/
def group (l : Layout) (depth : Nat) (opening closing : String) (parts : List String) : String :=
  match parts with
  | [] => opening ++ closing
  | parts =>
    let separator := match l.indent with
      | none => ", "
      | some _ => "," ++ l.breakAt (depth + 1)
    opening ++ l.breakAt (depth + 1) ++ String.intercalate separator parts ++
      l.breakAt depth ++ closing

end Layout

mutual
/-- The JSON text of a value at a depth. What JSON has no form for is replaced as the second
argument says. -/
def writeAt (l : Layout) (other : Value → Except Unwritable String) (depth : Nat) :
    Value → Except Unwritable String
  | .null => .ok "null"
  | .bool b => .ok (if b then "true" else "false")
  | .int n => .ok (toString n)
  | .float x => .ok (writeFloat x)
  | .text s => .ok (writeText s)
  | .cast k => .ok (writeText k.name)
  | .list xs => (writeItems l other (depth + 1) xs).map (l.group depth "[" "]")
  | .tuple xs => (writeItems l other (depth + 1) xs).map (l.group depth "[" "]")
  | .dict ms => (writeMembers l other (depth + 1) ms).map (l.group depth "\x7b" "\x7d")
  | .scalar kind plain =>
    match kind, plain with
    | "float64", .float x => .ok (writeFloat x)
    | _, .text s => .ok (writeText s)
    | _, _ => other (.scalar kind plain)
  | v => other v
  termination_by structural v => v
/-- The JSON texts of the items of a list. -/
def writeItems (l : Layout) (other : Value → Except Unwritable String) (depth : Nat) :
    List Value → Except Unwritable (List String)
  | [] => .ok []
  | v :: vs =>
    match writeAt l other depth v with
    | .error e => .error e
    | .ok s => (writeItems l other depth vs).map (s :: ·)
  termination_by structural vs => vs
/-- The JSON texts of the members of a mapping. -/
def writeMembers (l : Layout) (other : Value → Except Unwritable String) (depth : Nat) :
    List (Value × Value) → Except Unwritable (List String)
  | [] => .ok []
  | (k, v) :: ms =>
    match keyText k with
    | .error e => .error e
    | .ok key => match writeAt l other depth v with
      | .error e => .error e
      | .ok s => (writeMembers l other depth ms).map ((writeText key ++ ": " ++ s) :: ·)
  termination_by structural ms => ms
end

/-- A value that JSON has no form for is refused. -/
def refuse (v : Value) : Except Unwritable String := .error (.value v.className)

/-- The JSON text of a value, on one line. -/
def write (v : Value) : Except Unwritable String := writeAt .line refuse 0 v

/-- The JSON text of a value, indented. -/
def writeIndented (indent : Nat) (v : Value) : Except Unwritable String :=
  writeAt ⟨some indent⟩ refuse 0 v

/-- The JSON text of a value, indented; values that JSON has no form for are written as their
plain texts. -/
def writeReadable (indent : Nat) (v : Value) : Except Unwritable String :=
  writeAt ⟨some indent⟩ (fun v => .ok (writeText v.plainText)) 0 v

/-- The value has a JSON text. -/
def isWritable (v : Value) : Bool :=
  match write v with
  | .ok _ => true
  | .error _ => false

end DocumentSql.Json

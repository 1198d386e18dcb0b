/-
The fields of settings and the values that they accept.

A field that is checked takes every value that plainly stands for one of its kind: a flag may be
given as a word, a number as a numeral, a text as bytes. What it keeps is the value of its own kind.
-/
import DocumentSql.Error
import DocumentSql.Value.Equal
import DocumentSql.Number.Numeral
import DocumentSql.Text.Encoding
import DocumentSql.Text.Cut

namespace DocumentSql

/-- The kinds of fields. -/
inductive FieldKind where
  /-- A text. -/
  | text
  /-- A text or nothing. -/
  | optionalText
  /-- An integer. -/
  | number
  /-- A truth value or nothing. -/
  | optionalFlag
deriving DecidableEq

namespace FieldKind

/-! ### Flags -/

/-- The words for a flag that is set. -/
def setWords : List String := ["1", "on", "t", "true", "y", "yes"]

/-- The words for a flag that is not set. -/
def unsetWords : List String := ["0", "off", "f", "false", "n", "no"]

/-- The flag that a word stands for, in any case. -/
def flagOfWord? (s : String) : Option Bool :=
  let word := s.toLower
  if setWords.contains word then some true
  else if unsetWords.contains word then some false
  else none

/-- The flag that a number stands for. -/
def flagOfNumber? : RealValue → Option Bool
  | .ratio n d => if n == 0 then some false else if n == d then some true else none
  | _ => none

/-! ### Integers -/

/-- The digits of a numeral, in which single underscores may stand between digits. -/
def plainDigits? : List Char → Option (List Char)
  | [] => none
  | [c] => if c.isDigit then some [c] else none
  | c :: '_' :: cs => if c.isDigit then (plainDigits? cs).map (c :: ·) else none
  | c :: cs => if c.isDigit then (plainDigits? cs).map (c :: ·) else none

/-- The integer written by a text. A fraction of zeros may follow it. The digits of a negative one
begin with no zero. -/
def integerOfText? (s : String) : Option Int := do
  let cs := Numeral.stripPadding s.toList
  let (negative, cs) := match cs with
    | '-' :: cs => (true, cs)
    | '+' :: cs => (false, cs)
    | cs => (false, cs)
  let (whole, fraction) := Text.cutAt '.' cs
  let digits ← plainDigits? whole
  if negative && digits.head? == some '0' && digits.length != 1 then none
  else if digits.length ≤ Numeral.digitLimit && (fraction.getD []).all (· == '0') then
    let n : Int := Text.digitsValue 0 digits
    some (if negative then -n else n)
  else none

/-- The integer that a number without fraction stands for. -/
def integerOfNumber? : RealValue → Option Int
  | .ratio n d => if n % (d : Int) == 0 then some (n / (d : Int)) else none
  | _ => none

/-! ### Acceptance -/

/-- The text that a value stands for. -/
def text? : Value → Option String
  | .bytes bs => Text.Encoding.utf8.decode? bs
  | v => v.asText?

/-- The real number that a value is. -/
def real? : Value → Option RealValue
  | .complex .. => none
  | .scalar _ (.complex ..) => none
  | v => v.number?.map Prod.fst

/-- The flag that a value stands for. -/
def flag? (v : Value) : Option Bool :=
  match text? v with
  | some s => flagOfWord? s
  | none => real? v >>= flagOfNumber?

/-- The magnitude of the integer is below `2 ^ 63`. -/
def fitsWord (n : Int) : Bool := n.natAbs < Nat.pow 2 63

/-- The integer that a floating-point number without fraction stands for. -/
def integerOfFloat? (x : Binary) : Option Int := x.toInt?.filter fitsWord

/-- The integer that a value stands for. Typed elements count as floating-point numbers. -/
def integer? (v : Value) : Option Int :=
  match text? v with
  | some s => integerOfText? s
  | none => match v with
    | .float x => integerOfFloat? x
    | .scalar _ (.float x) => integerOfFloat? x
    | .scalar _ (.int n) => integerOfFloat? (Binary.ofInt n)
    | v => real? v >>= integerOfNumber?

/-- What a field of a kind keeps of a value, if it accepts the value. -/
def accept? : FieldKind → Value → Option Value
  | text, v => (text? v).map .text
  | optionalText, .null => some .null
  | optionalText, v => (text? v).map .text
  | number, v => (integer? v).map .int
  | optionalFlag, .null => some .null
  | optionalFlag, v => (flag? v).map .bool

end FieldKind

/-- A field of a group of settings. -/
structure SettingField where
  /-- The name. -/
  name : String
  /-- The kind. -/
  kind : FieldKind
  /-- The value unless another one is given. -/
  default : Value

/-- The groups of settings. -/
inductive SettingGroup where
  /-- Where and as whom a connection is made. -/
  | database
  /-- The procedures of the server. -/
  | procedures
deriving DecidableEq, Inhabited

namespace SettingGroup

/-- The name of a group. -/
def name : SettingGroup → String
  | database => "database"
  | procedures => "procedures"

/-- The group with a given name. -/
def ofName? (s : String) : Option SettingGroup := [database, procedures].find? (·.name == s)

/-- The fields of a group, in order. -/
def fields : SettingGroup → List SettingField
  | database =>
    [⟨"host", .text, .text "localhost"⟩, ⟨"password", .optionalText, .null⟩,
     ⟨"user", .optionalText, .null⟩, ⟨"port", .number, .int 5432⟩,
     ⟨"dbname", .text, .text "postgres"⟩, ⟨"schema_name", .text, .text "public"⟩,
     ⟨"use_tls", .optionalFlag, .null⟩, ⟨"connect_timeout", .number, .int 10⟩]
  | procedures =>
    [⟨"dispatch", .text, .text "call_func"⟩, ⟨"relations", .text, .text "get_documents"⟩]

/-- The group has a field of a name. -/
def hasField (g : SettingGroup) (name : String) : Bool := g.fields.any (·.name == name)

/-- The key of a member of a group, spelled like the field that it names in any case. -/
def fieldKey (g : SettingGroup) (key : Value) : Value :=
  match key with
  | .text s => match g.fields.find? (·.name == s.toLower) with
    | some f => .text f.name
    | none => key
  | _ => key

/-- What the names of the environment variables of the fields of a group start with. -/
def variableStem : SettingGroup → String
  | database => "docstore_"
  | procedures => "docstore_procedure_"

end SettingGroup

/-- The environment: variables and their values, the names in lower case. -/
abbrev Environ := List (String × String)

namespace Environ

/-- The variables with their names in lower case; of two that differ in case only the later one
counts. -/
def ofVariables (vars : List (String × String)) : Environ :=
  vars.reverse.map fun (name, value) => (name.toLower, value)

/-- The value of a variable. -/
def value? (e : Environ) (name : String) : Option String := e.lookup name

end Environ

/-- The contents of a group: its fields in their order, and behind them what else was given. -/
abbrev GroupContents := List (String × Value)

namespace GroupContents

/-- The value under a name. -/
def value? (c : GroupContents) (name : String) : Option Value := c.lookup name

/-- The contents with a value set under a name that they have. -/
def set (c : GroupContents) (name : String) (v : Value) : GroupContents :=
  c.map fun m => if m.1 == name then (name, v) else m

/-- The value of a field: the given one, else that of its environment variable, else its
default. Defaults are not checked. -/
def fieldValue (e : Environ) (g : SettingGroup) (given : List (String × Value))
    (f : SettingField) : Result Value :=
  let found := match given.lookup f.name with
    | some v => some v
    | none => (e.value? (g.variableStem ++ f.name)).map .text
  match found with
  | none => .ok f.default
  | some v => match f.kind.accept? v with
    | some v => .ok v
    | none => .error (.fault .invalidSetting)

/-- The contents of a group with given values. -/
def make (e : Environ) (g : SettingGroup) (given : List (String × Value)) :
    Result GroupContents := do
  let declared ← g.fields.mapM fun f => do
    let v ← fieldValue e g given f
    pure (f.name, v)
  pure (declared ++ given.filter fun m => !g.hasField m.1)

/-- The text keys of a mapping. -/
def textKeys (ms : Members) : Result (List (String × Value)) :=
  ms.mapM fun (k, v) => match k with
    | .text s => .ok (s, v)
    | _ => .error (.fault .wrongType)

/-- The contents of a group that a value gives. -/
def ofValue (e : Environ) (g : SettingGroup) (v : Value) : Result GroupContents :=
  match v with
  | .dict ms => do make e g (← textKeys ms)
  | _ => .error (.fault .invalidSetting)

end GroupContents

end DocumentSql

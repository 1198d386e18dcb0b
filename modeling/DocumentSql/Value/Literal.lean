/-
How values are shown: `Value.literal` is the unambiguous form that messages quote, and
`Value.plainText` is the text of a value that is spliced into other texts.
-/
import DocumentSql.Value.Basic
import DocumentSql.Text.Quoted

namespace DocumentSql

namespace Literal

/-- The name of a truth value. -/
def ofBool (b : Bool) : String := if b then "True" else "False"

/-- The parts joined with commas. -/
def commas (parts : List String) : String := String.intercalate ", " parts

/-- A complex number. The real part is left out when it is a positive zero. -/
def ofComplex (re im : Binary) : String :=
  let part := FloatStyle.part.text .double
  if re.isZero && !re.isNegative then part im ++ "j"
  else "(" ++ part re ++ (if im.isNegative then "" else "+") ++ part im ++ "j)"

/-- The constructor of a day. -/
def ofDate (d : Date) : String :=
  "datetime.date(" ++ commas ([d.year, d.month, d.day].map toString) ++ ")"

/-- The parts of a time, from the hour on: seconds and microseconds are left out when they are
zero. -/
def clockParts (t : TimeOfDay) : List String :=
  let parts := if t.micro != 0 then [t.hour, t.minute, t.second, t.micro]
    else if t.second != 0 then [t.hour, t.minute, t.second] else [t.hour, t.minute]
  parts.map toString

/-- The zone of a time, by its offset from universal time. -/
def zoneParts : Option Int → List String
  | none => []
  | some 0 => ["tzinfo=datetime.timezone.utc"]
  | some micros =>
    let days := micros.fdiv 86400000000
    let rest := (micros.fmod 86400000000).toNat
    let parts := (if days != 0 then ["days=" ++ toString days] else []) ++
      (if rest / 1000000 != 0 then ["seconds=" ++ toString (rest / 1000000)] else []) ++
      (if rest % 1000000 != 0 then ["microseconds=" ++ toString (rest % 1000000)] else [])
    ["tzinfo=datetime.timezone(datetime.timedelta(" ++ commas parts ++ "))"]

/-- The constructor of a moment. -/
def ofMoment (m : Moment) : String :=
  "datetime.datetime(" ++ commas ([m.date.year, m.date.month, m.date.day].map toString ++
    clockParts m.time ++ zoneParts m.time.offset) ++ ")"

/-- The constructor of a time of day. -/
def ofTime (t : TimeOfDay) : String :=
  "datetime.time(" ++ commas (clockParts t ++ zoneParts t.offset) ++ ")"

/-- A tuple, by the literals of its parts: a comma follows a single one. -/
def ofTuple : List String → String
  | [part] => "(" ++ part ++ ",)"
  | parts => "(" ++ commas parts ++ ")"

/-- The constructor of a field key. -/
def ofKey (k : FieldKey) : String :=
  "FieldKey(name=" ++ Text.quoted k.name ++
    ", kind=<KeyKind." ++ k.kindName.toUpper ++ ": " ++ Text.quoted k.kindName ++ ">" ++
    ", column=" ++ (k.columnName?.map Text.quoted).getD "None" ++
    ", path=" ++ ofTuple (k.components.map Text.quoted) ++ ")"

/-- The format of the floating-point elements of a type. -/
def elementFormat (kind : String) : BinaryFormat :=
  if kind == "float32" then .single else if kind == "float16" then .half else .double

/-- The text of a floating-point element: the shortest one for the format of its type. -/
def elementText (kind : String) (x : Binary) : String :=
  let f := elementFormat kind
  FloatStyle.value.text f (x.toFormat f)

/-- A typed element, by its type and the literal of its value. -/
def ofElement (kind : String) (plain : Value) (literal : String) : String :=
  match plain with
  | .bool b => "np." ++ ofBool b ++ "_"
  | .float x => "np." ++ kind ++ "(" ++ elementText kind x ++ ")"
  | .complex .. =>
    let inner := if literal.startsWith "(" then literal else "(" ++ literal ++ ")"
    "np." ++ kind ++ inner
  | .text _ => "np.str_(" ++ literal ++ ")"
  | _ => "np." ++ kind ++ "(" ++ literal ++ ")"

/-- The elements of a typed array, filled up to one width. -/
def arrayParts (parts : List String) : List String :=
  let width := (parts.map String.length).foldl max 0
  parts.map fun p => "".pushn ' ' (width - p.length) ++ p

/-- A typed array of one dimension. The type of the elements is shown where it is not the usual
one. -/
def ofArray (kind : String) (plain : Value) (literals : List String) : String :=
  let usual := kind == "int64" || kind == "float64" || kind == "bool" || kind == "complex128"
  let typeNote := if literals.isEmpty || !usual then ", dtype=" ++ kind else ""
  match plain with
  | .list _ => "array([" ++ commas (arrayParts literals) ++ "]" ++ typeNote ++ ")"
  | _ => "array(" ++ commas literals ++ typeNote ++ ")"

end Literal

namespace Value

mutual
/-- The unambiguous form of a value. -/
def literal : Value → String
  | null => "None"
  | bool b => Literal.ofBool b
  | int n => toString n
  | float x => x.text
  | text s => Text.quoted s
  | list xs => "[" ++ Literal.commas (literals xs) ++ "]"
  | tuple xs => Literal.ofTuple (literals xs)
  | set [] => "set()"
  | set (x :: xs) => "\x7b" ++ Literal.commas (x.literal :: literals xs) ++ "\x7d"
  | dict ms => "\x7b" ++ Literal.commas (memberLiterals ms) ++ "\x7d"
  | complex re im => Literal.ofComplex re im
  | decimal d => "Decimal(" ++ Text.quoted d.text ++ ")"
  | date d => Literal.ofDate d
  | moment m => Literal.ofMoment m
  | time t => Literal.ofTime t
  | uuid s => "UUID(" ++ Text.quoted s ++ ")"
  | bytes bs => Text.quotedBytes bs
  | scalar kind plain => Literal.ofElement kind plain plain.literal
  | array kind (list xs) => Literal.ofArray kind (list xs) (literals xs)
  | array kind plain => Literal.ofArray kind plain [plain.literal]
  | frame columns _ => "[" ++ Literal.commas (columns.map Text.quoted) ++ "]"
  | function name implementation returnType =>
      "PredicateFunction(name=" ++ Text.quoted name ++ ", function=" ++
        (implementation.map fun l => "<function " ++ l ++ ">").getD "None" ++
        ", return_type=" ++ returnType.literal ++ ")"
  | callable label => "<function " ++ label ++ ">"
  | class_ name => "<class " ++ Text.quoted name ++ ">"
  | key k => Literal.ofKey k
  | cast k => "<CastKind." ++ k.label ++ ": " ++ Text.quoted k.name ++ ">"
  | documentType name id schema info =>
      "DocumentType(name=" ++ name.literal ++ ", id=" ++ id.literal ++ ", schema=" ++
        schema.literal ++ ", meta=" ++ info.literal ++ ")"
  termination_by structural v => v
/-- The unambiguous forms of values. -/
def literals : List Value → List String
  | [] => []
  | v :: vs => v.literal :: literals vs
  termination_by structural vs => vs
/-- The unambiguous forms of the members of a mapping. -/
def memberLiterals : List (Value × Value) → List String
  | [] => []
  | (k, v) :: ms => (k.literal ++ ": " ++ v.literal) :: memberLiterals ms
  termination_by structural ms => ms
end

/-- The text of a value that is spliced into other texts. -/
def plainText : Value → String
  | text s => s
  | decimal d => d.text
  | date d => d.text
  | moment m => m.textWith " "
  | time t => t.text
  | uuid s => s
  | cast k => "CastKind." ++ k.label
  | key k => k.name
  | scalar kind (float x) => Literal.elementText kind x
  | scalar _ plain => plain.plainText
  | v => v.literal

@[simp] theorem plainText_text (s : String) : plainText (.text s) = s := by
  unfold plainText; rfl

end Value

end DocumentSql

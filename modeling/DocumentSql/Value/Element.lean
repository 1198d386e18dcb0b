/-
Typed elements: single elements and arrays of numeric libraries, and tables whose columns are
typed. Their plain values are what the type makes of the given ones.
-/
import DocumentSql.Value.Equal
import DocumentSql.Value.Integer
import DocumentSql.Value.Literal

namespace DocumentSql

/-- The double that is nearest to a number in a narrower format. -/
def Binary.narrowed (f : BinaryFormat) (x : Binary) : Binary := (x.toFormat f).toFormat .double

namespace Value

/-- The floating-point element of a format that a value makes. -/
def floatElement (f : BinaryFormat) (v : Value) : Value :=
  match v with
  | null => float .nan
  | float x => float (x.narrowed f)
  | v => match v.toInteger with
    | .ok n => float ((Binary.ofInt n).narrowed f)
    | .error _ => v

/-- The complex element, with parts of a format, that a value makes. -/
def complexElement (f : BinaryFormat) (v : Value) : Value :=
  match v with
  | complex re im => complex (re.narrowed f) (im.narrowed f)
  | v => match floatElement f v with
    | float x => complex x (Binary.ofInt 0)
    | v => v

/-- The integer element that a value makes. -/
def integerElement (v : Value) : Value :=
  match v.toInteger with
  | .ok n => int n
  | .error _ => v

/-- The plain value of an element of a type. -/
def element (kind : String) (v : Value) : Value :=
  if kind == "bool" then bool v.truth
  else if kind.startsWith "float" then floatElement (Literal.elementFormat kind) v
  else if kind == "complex64" then complexElement .single v
  else if kind == "complex128" then complexElement .double v
  else if kind.startsWith "int" || kind.startsWith "uint" then integerElement v
  else v

mutual
/-- The plain values of an array of a type, as nested lists. -/
def elementsOf (kind : String) : Value → Value
  | list vs => list (elementsOfAll kind vs)
  | v => element kind v
  termination_by structural v => v
/-- The plain values of the rows of an array of a type. -/
def elementsOfAll (kind : String) : List Value → List Value
  | [] => []
  | v :: vs => elementsOf kind v :: elementsOfAll kind vs
  termination_by structural vs => vs
end

/-- A column of a table. -/
structure Column where
  /-- The name of the column. -/
  name : Value
  /-- The type of its elements. -/
  kind : String
  /-- Its values, from the first row on. -/
  values : List Value

/-- The table of columns. It has as many rows as its first column, and names that are no texts
become texts. -/
def table (columns : List Column) : Value :=
  let height := (columns.head?.map fun c => c.values.length).getD 0
  frame (columns.map fun c => c.name.plainText)
    ((List.range height).map fun i => columns.map fun c => element c.kind ((c.values[i]?).getD null))

end Value

end DocumentSql

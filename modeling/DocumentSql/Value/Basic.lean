/-
The values that callers hand over.

Filters, objects, traits and settings are given as dynamic values: JSON values, and beside them
tuples, sets, numbers and moments of richer types, elements and arrays of numeric libraries,
tables of records, and references to functions, keys and types. Mappings keep the order of
their members, which decides the order of conditions, columns and parameters.
-/
import DocumentSql.Number.Shortest
import DocumentSql.Number.Decimal
import DocumentSql.Calendar
import DocumentSql.Key.Basic
import DocumentSql.Cast.Basic

namespace DocumentSql

/-- A dynamic value. -/
inductive Value where
  /-- Nothing. -/
  | null
  /-- A truth value. -/
  | bool (b : Bool)
  /-- An integer of any size. -/
  | int (n : Int)
  /-- A floating-point number. -/
  | float (x : Binary)
  /-- A text. -/
  | text (s : String)
  /-- A list. -/
  | list (items : List Value)
  /-- A tuple. -/
  | tuple (items : List Value)
  /-- A set, by its members in order of insertion. -/
  | set (items : List Value)
  /-- A mapping, by its members in order of insertion. -/
  | dict (members : List (Value × Value))
  /-- A complex number. -/
  | complex (re im : Binary)
  /-- A decimal numeral. -/
  | decimal (d : Decimal)
  /-- A day. -/
  | date (d : Date)
  /-- A day and a time of day. -/
  | moment (m : Moment)
  /-- A time of day. -/
  | time (t : TimeOfDay)
  /-- A universally unique identifier, in its canonical text. -/
  | uuid (text : String)
  /-- A byte string. -/
  | bytes (bs : List UInt8)
  /-- A single element of a typed array, with the name of its type and its plain value. -/
  | scalar (kind : String) (plain : Value)
  /-- A typed array, with the name of its element type and its elements as nested lists. -/
  | array (kind : String) (plain : Value)
  /-- A table of records: the names of its columns, and the plain values of each row. -/
  | frame (columns : List String) (rows : List (List Value))
  /-- A named predicate function with the label of its local implementation, if it has one, and
  the type of its result. -/
  | function (name : String) (implementation : Option String) (returnType : Value)
  /-- A plain function, by its label. -/
  | callable (label : String)
  /-- A class of values, by its name. -/
  | class_ (name : String)
  /-- A parsed field key. -/
  | key (k : FieldKey)
  /-- A kind of cast. -/
  | cast (k : CastKind)
  /-- A declared document type. -/
  | documentType (name id schema info : Value)
deriving Inhabited

/-- The members of a mapping, in order. -/
abbrev Members := List (Value × Value)

namespace Value

/-- The text that a value is, if it is one: texts, kinds of casts, and text elements. -/
def asText? : Value → Option String
  | text s => some s
  | cast k => some k.name
  | scalar _ (text s) => some s
  | _ => none

/-- The value is nothing. -/
def isNull : Value → Bool
  | null => true
  | _ => false

/-- The value is a mapping or a list. -/
def isStructured : Value → Bool
  | dict _ | list _ => true
  | _ => false

/-- The members of a mapping. -/
def members? : Value → Option Members
  | dict ms => some ms
  | _ => none

/-- The name of the class of a value. -/
def className : Value → String
  | null => "NoneType"
  | bool _ => "bool"
  | int _ => "int"
  | float _ => "float"
  | text _ => "str"
  | list _ => "list"
  | tuple _ => "tuple"
  | set _ => "set"
  | dict _ => "dict"
  | complex .. => "complex"
  | decimal _ => "Decimal"
  | date _ => "date"
  | moment _ => "datetime"
  | time _ => "time"
  | uuid _ => "UUID"
  | bytes _ => "bytes"
  | scalar kind _ => if kind == "str" then "str_" else kind
  | array .. => "ndarray"
  | frame .. => "DataFrame"
  | function .. => "PredicateFunction"
  | callable _ => "function"
  | class_ _ => "type"
  | key _ => "FieldKey"
  | cast _ => "CastKind"
  | documentType .. => "DocumentType"

end Value

end DocumentSql

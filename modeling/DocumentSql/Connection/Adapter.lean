/-
Literals for typed elements that reach the driver as they are.
-/
import DocumentSql.Value.Basic

namespace DocumentSql

/-- The types of elements that have a literal. -/
def adaptedKinds : List String :=
  ["bool", "int8", "int16", "int32", "int64", "uint8", "uint16", "uint32", "uint64", "float16",
   "float32", "float64"]

/-- The literal of a typed element: truth values in capitals, and numbers in their shortest
form. -/
def Value.sqlLiteral? : Value → Option String
  | .scalar kind plain =>
    if adaptedKinds.contains kind then
      match plain with
      | .bool b => some (if b then "TRUE" else "FALSE")
      | .int n => some (toString n)
      | .float x => some x.text
      | _ => none
    else none
  | _ => none

end DocumentSql

/-
Field keys: the parsed form of the logical keys by which callers name columns of a table and
properties of its documents.

A key is written with a leading dollar sign when it names a column, and as a dotted path when it
names a property inside the data container. The written form, `FieldKey.name`, is determined by
the parsed one.
-/

namespace DocumentSql

/-- A parsed logical key. -/
inductive FieldKey where
  /-- A column of the table. -/
  | column (name : String)
  /-- A column that holds a moment. -/
  | timestamp (name : String)
  /-- A property inside the data container, by its path. -/
  | path (components : List String)
  /-- The related documents. -/
  | relations
  /-- All columns. -/
  | all
deriving DecidableEq, Inhabited

namespace FieldKey

/-- The column in which the related documents are answered. -/
def relationsColumn : String := "documents"

/-- The key as it is written. -/
def name : FieldKey → String
  | column c => "$" ++ c
  | timestamp c => "$" ++ c
  | path components => String.intercalate "." components
  | relations => "$" ++ relationsColumn
  | all => "$*"

/-- The name of the kind of a key. -/
def kindName : FieldKey → String
  | column _ => "column"
  | timestamp _ => "timestamp"
  | path _ => "path"
  | relations => "relations"
  | all => "all"

/-- The column that a key names, for every kind but a path. -/
def columnName? : FieldKey → Option String
  | column c => some c
  | timestamp c => some c
  | path _ => none
  | relations => some relationsColumn
  | all => some "*"

/-- The components of a path; none for the other kinds. -/
def components : FieldKey → List String
  | path cs => cs
  | _ => []

/-- The key names something else than a property of the data container. -/
def isReserved : FieldKey → Bool
  | path _ => false
  | _ => true

end FieldKey

end DocumentSql

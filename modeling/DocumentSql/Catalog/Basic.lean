/-
What the catalog of the store tells: its indexes and their definitions, and the declared document
types.
-/
import DocumentSql.Executor
import DocumentSql.DocumentType
import DocumentSql.Entity

namespace DocumentSql

/-- A view of the catalog, by the schema that the tables live in. -/
structure Catalog where
  /-- The name of the schema. -/
  schemaName : Value

namespace Catalog

variable {σ : Type}

/-- The catalog of a schema; the configured one, if none is given. -/
def ofSchema (given configured : Value) : Catalog := ⟨given.orElse configured⟩

/-- The catalog as it is shown. -/
def literal (c : Catalog) : String := "Catalog(schema=" ++ c.schemaName.plainText ++ ")"

/-- The statement that asks whether an index exists. -/
def existsText : String :=
  "SELECT 1 FROM pg_indexes WHERE schemaname = $1 AND indexname = $2"

/-- The statement that asks for the definition of an index. -/
def definitionText : String :=
  "SELECT indexdef FROM pg_indexes WHERE schemaname = $1 AND indexname = $2"

/-- The statement that asks for the indexes of a table. -/
def listText : String :=
  "SELECT indexname, indexdef FROM pg_indexes WHERE schemaname = $1 AND tablename = $2"

/-- The statement that asks for the declared types of a name. -/
def typesText : String := "SELECT * FROM " ++ Entity.type.table ++ " WHERE name = $1"

/-- There is an index of a name. -/
def indexExists (x : Executor σ) (c : Catalog) (name : Value) : Run σ Bool := do
  let rows ← x.run existsText [c.schemaName, name]
  return !rows.isEmpty

/-- The member of a row that must be there. -/
def column (row : Members) (name : String) : Result Value :=
  match row.getText? name with
  | some v => .ok v
  | none => .error (.fault .missingMember)

/-- The definition of an index as the catalog reports it; nothing, if there is none. -/
def indexDefinition (x : Executor σ) (c : Catalog) (name : Value) : Run σ Value := do
  match ← x.run definitionText [c.schemaName, name] with
  | [] => return .null
  | row :: _ => Run.ofResult (column row "indexdef")

/-- The names and definitions that rows report, in order. -/
def definitionsOf : List Members → Result Members
  | [] => .ok []
  | row :: rows => do
    let name ← column row "indexname"
    let definition ← column row "indexdef"
    let rest ← definitionsOf rows
    .ok ((name, definition) :: rest)

/-- The indexes of a table with their definitions. -/
def listIndexes (x : Executor σ) (c : Catalog) (table : String) : Run σ Members := do
  let rows ← x.run listText [c.schemaName, .text table]
  let pairs ← Run.ofResult (definitionsOf rows)
  return Members.ofList pairs

/-- The declared types that rows store, in order. -/
def typesOf : List Members → Result (List DocumentType)
  | [] => .ok []
  | row :: rows => do
    let t ← DocumentType.ofStoredRow row
    let ts ← typesOf rows
    .ok (t :: ts)

/-- The declared document types of a name. -/
def lookUpTypes (x : Executor σ) (name : Value) : Run σ (List DocumentType) := do
  let rows ← x.run typesText [name]
  Run.ofResult (typesOf rows)

end Catalog

end DocumentSql

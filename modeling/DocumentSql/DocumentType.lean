/-
Declared document types, as the table of types stores them: the name that documents are told
apart by, the JSON schema that decides casts, and further data that may list the related
documents to fetch.
-/
import DocumentSql.Error
import DocumentSql.Value.Collection
import DocumentSql.Json.Read
import DocumentSql.Text.Encoding

namespace DocumentSql

/-- A declared document type. -/
structure DocumentType where
  /-- The name of the type. -/
  name : Value
  /-- The identifier of its row. -/
  id : Value
  /-- The JSON schema of its documents. -/
  schema : Value
  /-- Further data. -/
  info : Value
deriving Inhabited

namespace DocumentType

/-- The type as a value. -/
def toValue (t : DocumentType) : Value := .documentType t.name t.id t.schema t.info

/-- The type that a value is. -/
def ofValue? : Value → Option DocumentType
  | .documentType name id schema info => some ⟨name, id, schema, info⟩
  | _ => none

@[simp] theorem ofValue?_toValue (t : DocumentType) : ofValue? t.toValue = some t := rfl

/-- The elements of a value. -/
def elements (v : Value) : Result (List Value) :=
  match v.elements? with
  | some vs => .ok vs
  | none => .error (.fault .wrongType)

/-- The relation expressions declared for the type. -/
def documents (t : DocumentType) : Result (List Value) :=
  match t.info with
  | .dict ms => elements ((Members.getD ms "documents").orElse (.list []))
  | _ => .error (.fault .missingAttribute)

/-- The type of a row. A schema or further data that count as false are empty mappings. -/
def ofMembers (row : Members) : Result DocumentType :=
  match row.getText? "name" with
  | none => .error (.fault .missingMember)
  | some name =>
    .ok ⟨name, row.getD "id", (row.getD "schema").orElse (.dict []),
      (row.getD "meta").orElse (.dict [])⟩

/-- The type of a row. -/
def ofRow : Value → Result DocumentType
  | .dict row => ofMembers row
  | _ => .error (.fault .wrongType)

/-- The value of a JSON column: texts and byte strings are read, other values are kept. -/
def decodeColumn (v : Value) : Result Value :=
  let read (s : String) : Result Value :=
    match Json.read? s with
    | some v => .ok v
    | none => .error (.fault .malformedJson)
  match v with
  | .bytes bs => match Text.decode? bs with
    | some s => read s
    | none => .error (.fault .malformedText)
  | v => match v.asText? with
    | some s => read s
    | none => .ok v

/-- The type of a row whose JSON columns may not be decoded yet. -/
def ofStoredRow (row : Members) : Result DocumentType := do
  let schema ← decodeColumn (row.getD "schema")
  let info ← decodeColumn (row.getD "meta")
  ofMembers (Members.insert (.text "meta") info (Members.insert (.text "schema") schema row))

end DocumentType

end DocumentSql

/-
Entities: the tables that hold documents.

Each entity has a handful of columns and one JSON column, the data container, for the properties
that have no column of their own. The columns are listed by their logical keys, with a leading
dollar sign; the key of the related documents is listed too, but is no column.
-/
import DocumentSql.Error

namespace DocumentSql

/-- A table of documents. -/
structure Entity where
  /-- The name of the entity. -/
  name : String
  /-- The name of the table. -/
  table : String
  /-- The logical key of the data container. -/
  dataKey : String
  /-- The logical keys of the entity, those of columns and computed ones. -/
  keys : List String
  /-- The column that holds the document type, if documents are typed. -/
  discriminator : Option String
deriving DecidableEq, Inhabited

namespace Entity

/-- The key of the related documents: it is computed by the query and stored in no column. -/
def computedKey : String := "$documents"

/-- A logical key without its first character, the dollar sign. -/
def unmarked (key : String) : String := String.ofList (key.toList.drop 1)

/-- The name of the data container. -/
def container (e : Entity) : String := unmarked e.dataKey

/-- The names of the columns. -/
def columns (e : Entity) : List String := (e.keys.filter (· != computedKey)).map unmarked

/-- The entity has a column of the name. -/
def hasColumn (e : Entity) (name : String) : Bool := e.columns.contains name

/-- The entity as it is shown. -/
def literal (e : Entity) : String := "EntityType(" ++ e.name ++ ", table=" ++ e.table ++ ")"

/-! ### The built-in entities -/

/-- Documents. -/
def document : Entity :=
  ⟨"Document", "documents", "$content",
    ["$id", "$type", "$content", "$types_id", "$created", "$modified", "$documents"],
    some "type"⟩

/-- Declared document types. -/
def type : Entity :=
  ⟨"Type", "types", "$meta",
    ["$id", "$name", "$schema", "$validator", "$meta", "$documents", "$created", "$modified"],
    none⟩

/-- Attachments of documents. -/
def attachment : Entity :=
  ⟨"Attachment", "attachments", "$meta",
    ["$id", "$documents_id", "$content", "$meta", "$created", "$updated"], none⟩

/-- Libraries of code. -/
def lib : Entity :=
  ⟨"Lib", "libs", "$meta", ["$id", "$name", "$content", "$meta", "$created", "$modified"], none⟩

/-- Methods of types. -/
def method : Entity :=
  ⟨"Method", "methods", "$meta",
    ["$id", "$types_id", "$type", "$name", "$body", "$meta", "$active", "$created", "$modified"],
    some "type"⟩

/-- Views of types. -/
def view : Entity :=
  ⟨"View", "views", "$meta",
    ["$id", "$types_id", "$type", "$name", "$meta", "$active", "$created", "$modified"],
    some "type"⟩

/-- All built-in entities. -/
def builtIn : List Entity := [document, type, attachment, lib, method, view]

/-- The built-in entity with a name, or with the name of its table. -/
def ofName (name : Value) : Result Entity :=
  match builtIn.find? fun e => name.asText? == some e.name || name.asText? == some e.table with
  | some e => .ok e
  | none => .error (.entityUnknown name)

end Entity

end DocumentSql

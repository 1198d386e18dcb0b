/-
Statements that change rows: inserts, updates and deletes.
-/
import DocumentSql.Row
import DocumentSql.Sql.Predicate
import DocumentSql.Json.Write

namespace DocumentSql

/-- SQL with the values of its placeholders. -/
structure Statement where
  /-- The text. -/
  text : String
  /-- The values of the placeholders, in order. -/
  params : List Value
deriving Inhabited

namespace Statement

/-- The parameter for a value: lists and mappings are handed over as JSON texts. -/
def encode (v : Value) : Result Value :=
  let v := v.normalize
  if v.isStructured then
    match Json.write v with
    | .ok s => .ok (.text s)
    | .error _ => .error (.fault .wrongType)
  else .ok v

/-- The parameters for values, in order. -/
def encodeAll : List Value → Result (List Value)
  | [] => .ok []
  | v :: vs => do
    let p ← encode v
    let ps ← encodeAll vs
    .ok (p :: ps)

/-- The text of an insert of values into columns. -/
def insertText (table : String) (columns : List String) : String :=
  "INSERT INTO " ++ table ++ " (" ++ String.intercalate ", " columns ++ ") VALUES (" ++
    String.intercalate ", " (columns.map fun _ => "$") ++ ") RETURNING *"

/-- The insert of a row. -/
def insertRow (e : Entity) (row : Row) : Result Statement :=
  if row.isEmpty then .ok ⟨"INSERT INTO " ++ e.table ++ " DEFAULT VALUES RETURNING *", []⟩
  else do
    let params ← encodeAll (row.map Prod.snd)
    let p ← Predicate.ofText (insertText e.table (row.map Prod.fst)) params
    .ok ⟨p.text, p.params⟩

/-- The insert of an object. -/
def insert (e : Entity) (object : Value) : Result Statement := do
  let row ← Row.ofObject e object
  insertRow e row

/-- The assignments of an update, in order. -/
def assignments : Row → Result (List Predicate)
  | [] => .ok []
  | (column, v) :: row => do
    let v ← encode v
    let p ← Predicate.ofText (column ++ " = $") [v]
    let ps ← assignments row
    .ok (p :: ps)

/-- The update of the columns of a row that a column and its value identify. -/
def updateRow (e : Entity) (changes : Row) (column : String) (v : Value) : Result Statement := do
  let assigned ← assignments changes
  let assigned ← Predicate.chain assigned ", "
  let target ← Predicate.ofText ("WHERE " ++ column ++ " = $ RETURNING *") [v]
  let p ← Predicate.concat
    [.text ("UPDATE " ++ e.table ++ " SET"), .predicate assigned, .predicate target] " "
  .ok ⟨p.text, p.params⟩

/-- The update that applies a patch to a stored object; none, if nothing changes. The stored object
identifies the row, and the patch only where it does not. -/
def update (e : Entity) (stored patch : Value) : Result (Option Statement) := do
  let new ← Row.mergeable patch
  let old ← Row.mergeable stored
  let (column, v) ← Row.identifyMembers e (Members.merge new old)
  let changes ← Row.changedColumns e stored patch
  if changes.isEmpty then .ok none
  else (updateRow e changes column v).map some

/-- The delete of an object. -/
def delete (e : Entity) (object : Value) : Result Statement := do
  let (column, v) ← Row.identify e object
  .ok ⟨"DELETE FROM " ++ e.table ++ " WHERE " ++ column ++ " = $1", [v]⟩

end Statement

end DocumentSql

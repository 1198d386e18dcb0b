/-
Queries: assembled searches, and the statements that they compile to.
-/
import DocumentSql.Search.Item

namespace DocumentSql

/-- What a query answers. -/
inductive QueryMethod where
  /-- Rows. -/
  | select
  /-- The number of rows. -/
  | count
deriving DecidableEq, Inhabited

namespace QueryMethod

/-- The method that a value names. -/
def ofValue (v : Value) : Result QueryMethod :=
  match v.asText? with
  | some "select" => .ok select
  | some "count" => .ok count
  | _ => .error (.queryMethod v)

end QueryMethod

/-- An assembled search. -/
structure Query where
  /-- What it answers. -/
  method : QueryMethod
  /-- The table that it searches. -/
  table : String
  /-- The condition; it may be empty. -/
  condition : Predicate
  /-- The selected expressions. -/
  fields : List Predicate
  /-- The expressions to order by. -/
  order : List Predicate
  /-- The expressions to group by. -/
  group : List Predicate
  /-- The limit, or nothing. -/
  limit : Value
  /-- The number of rows to skip; none are skipped when it counts as false. -/
  offset : Value
  /-- The output columns. -/
  fieldMap : Search.FieldMap

/-- A complete statement of a search. -/
structure CompiledQuery where
  /-- The text. -/
  text : String
  /-- The values of its placeholders. -/
  params : List Value
  /-- The output columns and the logical keys that they answer. -/
  fieldMap : Search.FieldMap
deriving Inhabited

namespace Query

/-- The select list. -/
def selectList (q : Query) : Result Predicate :=
  match q.method with
  | .count => Predicate.ofText "COUNT(*) AS count" []
  | .select => Predicate.chain q.fields ", "

/-- A clause: a keyword and expressions with commas between them; nothing without expressions. -/
def clause (keyword : String) (items : List Predicate) : Result (List Predicate.Part) :=
  if items.isEmpty then .ok []
  else do
    let p ← Predicate.chain items ", "
    .ok [.text keyword, .predicate p]

/-- The condition clause. -/
def whereClause (q : Query) : List Predicate.Part :=
  if q.condition.isEmpty then [] else [.text "WHERE", .predicate q.condition]

/-- The limit clause. -/
def limitClause (q : Query) : List Predicate.Part :=
  if q.limit.isNull then [] else [.text ("LIMIT " ++ q.limit.plainText)]

/-- The offset clause. -/
def offsetClause (q : Query) : List Predicate.Part :=
  if q.offset.truth then [.text ("OFFSET " ++ q.offset.plainText)] else []

/-- The statement of a query. -/
def compile (q : Query) : Result CompiledQuery := do
  let fields ← q.selectList
  let group ← clause "GROUP BY" q.group
  let order ← clause "ORDER BY" q.order
  let p ← Predicate.concat
    ([.text "SELECT", .predicate fields, .text "FROM", .text q.table] ++ q.whereClause ++
      group ++ order ++ q.limitClause ++ q.offsetClause) " "
  .ok ⟨p.text, p.params, q.fieldMap⟩

end Query

end DocumentSql

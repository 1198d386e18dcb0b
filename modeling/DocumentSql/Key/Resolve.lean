/-
Resolving logical keys of an entity into fragments of SQL.

The same key always gives the same text, whether it is used to filter, to order or to index. Only
the related documents take a parameter: the relations to follow, as a JSON text.
-/
import DocumentSql.Relation
import DocumentSql.Procedures
import DocumentSql.Json.Write

namespace DocumentSql

/-- The relations as a JSON text. -/
def Relation.listText (rs : List Relation) : Result String :=
  match Json.write (.list (rs.map Relation.toValue)) with
  | .ok s => .ok s
  | .error _ => .error (.fault .wrongType)

namespace FieldKey

/-- The fragment of a key. Moments are taken as milliseconds since the epoch when asked for. -/
def resolve (procedures : Procedures) (e : Entity) (epoch : Bool) (documents : Value)
    (k : FieldKey) : Result Predicate :=
  match k with
  | relations => do
    let rs ← Relation.parseAll e documents
    let text ← Relation.listText rs
    Predicate.make (procedures.relations ++ "(row_to_json(" ++ e.table ++ ".*), $::json)")
      [.text text] [(.text "key", .text relationsColumn)]
  | k => k.resolveColumn e epoch

/-- The fragments of keys, in order. -/
def resolveAll (procedures : Procedures) (e : Entity) (epoch : Bool) (documents : Value) :
    List FieldKey → Result (List Predicate)
  | [] => .ok []
  | k :: ks => do
    let p ← k.resolve procedures e epoch documents
    let ps ← resolveAll procedures e epoch documents ks
    .ok (p :: ps)

end FieldKey

end DocumentSql

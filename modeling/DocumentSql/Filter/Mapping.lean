/-
Filters as plain mappings: each node is a mapping that names its kind under `node`, and its parts
stand under names of their own. Values in the place of filters are kept.
-/
import DocumentSql.Filter.Basic
import DocumentSql.Key.Parse
import DocumentSql.Value.Collection

namespace DocumentSql.Filter

/-! ### Writing -/

/-- A node of a kind with parts. -/
def nodeValue (kind : String) (parts : List (String × Value)) : Value :=
  .dict ((.text "node", .text kind) :: parts.map fun p => (.text p.1, p.2))

mutual
/-- The mapping of a filter. -/
def toValue : Filter → Value
  | raw text => nodeValue "Raw" [("text", .text text)]
  | column k v => nodeValue "Column" [("key", .text k.name), ("value", v)]
  | property k v => nodeValue "PathEquals" [("key", .text k.name), ("value", v)]
  | all fs => nodeValue "And" [("operands", .list (toValues fs))]
  | any fs => nodeValue "Or" [("operands", .list (toValues fs))]
  | call keys f arguments returnType =>
    nodeValue "Bind" [("keys", .list (keys.map fun k => .text k.name)), ("function", .text f.name),
      ("args", .list arguments), ("return_type", returnType)]
  | other v => v
  termination_by structural f => f
/-- The mappings of filters. -/
def toValues : List Filter → List Value
  | [] => []
  | f :: fs => f.toValue :: toValues fs
  termination_by structural fs => fs
end

/-! ### Reading -/

/-- The parsed keys of a list. -/
def keysOf : List Value → Result (List FieldKey)
  | [] => .ok []
  | v :: vs => do
    let k ← FieldKey.parse v
    let ks ← keysOf vs
    .ok (k :: ks)

/-- The filter of a mapping, whose operands are read already. -/
def ofNode (r : FunctionRegistry) (ms : Members) (operands : Result (List Filter)) :
    Result Filter :=
  match (ms.getD "node").asText? with
  | some "Raw" => .ok (raw ((ms.getD "text").asText?.getD ""))
  | some "Column" => do .ok (column (← FieldKey.parse (ms.getD "key")) (ms.getD "value"))
  | some "PathEquals" => do .ok (property (← FieldKey.parse (ms.getD "key")) (ms.getD "value"))
  | some "And" => operands.map all
  | some "Or" => operands.map any
  | some "Bind" => do
    let keys ← keysOf (ms.getD "keys").asList
    let f ← FunctionRegistry.find r (ms.getD "function")
    .ok (call keys f (ms.getD "args").asList (ms.getD "return_type"))
  | _ => .ok (other (.dict ms))

mutual
/-- The filter of a value. -/
def ofValue (r : FunctionRegistry) : Value → Result Filter
  | .dict ms => ofNode r ms (operandsOf r ms)
  | v => .ok (other v)
  termination_by structural v => v
/-- The filters under the name of the operands. -/
def operandsOf (r : FunctionRegistry) : List (Value × Value) → Result (List Filter)
  | [] => .ok []
  | (k, v) :: ms => if k.same (.text "operands") then listOf r v else operandsOf r ms
  termination_by structural ms => ms
/-- The filters of a list. -/
def listOf (r : FunctionRegistry) : Value → Result (List Filter)
  | .list vs => ofValues r vs
  | _ => .ok []
  termination_by structural v => v
/-- The filters of values. -/
def ofValues (r : FunctionRegistry) : List Value → Result (List Filter)
  | [] => .ok []
  | v :: vs => do
    let f ← ofValue r v
    let fs ← ofValues r vs
    .ok (f :: fs)
  termination_by structural vs => vs
end

end DocumentSql.Filter

/-
The items of a search: the keys that it selects, groups by and orders by.

A key to group or order by may carry a cast behind a colon; otherwise the schema decides its
cast. An order item may be a call of a predicate function.
-/
import DocumentSql.Filter.Compile
import DocumentSql.Search.Traits

namespace DocumentSql

namespace Search

/-- A key and the cast behind its colon; nothing, if none is given. -/
def splitCast (v : Value) : Result (String × Value) :=
  match v.asText? with
  | none => .error (.orderKeyRefused v)
  | some s =>
    let (before, after) := Text.cutAt ':' s.toList
    .ok (String.ofList before,
      ((OperatorToken.suffix? after).map Value.text).getD .null)

/-- The expression of a key under its cast. -/
def castKey (s : Scope) (k : FieldKey) (cast : Value) (p : Predicate) : Result Predicate := do
  let text ← Cast.applyToKey s.entity s.schema k p.text cast
  p.withText text

/-! ### Groups -/

/-- The key that groups and the cast it is given. -/
def groupKey (item : Value) : Result (FieldKey × Value) := do
  let (name, cast) ← splitCast item
  let k ← FieldKey.parse (.text name)
  .ok (k, cast)

/-- The expression of an item to group by. -/
def groupItem (s : Scope) (item : Value) : Result Predicate := do
  let (k, cast) ← groupKey item
  match k with
  | .all | .relations => .error (.notGroupable k.name)
  | k => do
    let p ← k.resolve s.procedures s.entity true (.list [])
    castKey s k cast p

/-- The expressions of items to group by, in order. -/
def groupItems (s : Scope) : List Value → Result (List Predicate)
  | [] => .ok []
  | item :: items => do
    let p ← groupItem s item
    let ps ← groupItems s items
    .ok (p :: ps)

/-! ### Orders -/

/-- The directions of an order. -/
def directions : List String :=
  ["ASC", "DESC", "NULLS FIRST", "NULLS LAST", "ASC NULLS FIRST", "ASC NULLS LAST",
   "DESC NULLS FIRST", "DESC NULLS LAST"]

/-- The direction that values write. -/
def directionOf (words : List Value) : Result String :=
  let direction := Text.upper (String.intercalate " " (words.map Value.plainText))
  if directions.contains direction then .ok direction else .error (.orderDirection direction)

/-- An item to order by: a key with a cast, or the head of a call, and what follows it. -/
def orderParts (item : Value) : Result (Value × List Value) :=
  match item with
  | .list [] | .tuple [] => .error .orderItemEmpty
  | .list (first :: rest) | .tuple (first :: rest) => .ok (first, rest)
  | v => .ok (v, [])

/-- The expression of a call to order by; its result is text if no type is given. -/
def orderCall (r : FunctionRegistry) (s : Scope) (returnType : Option String)
    (rest : List Value) : Result Predicate := do
  let token := Value.text (OperatorToken.callName ++ ":" ++ returnType.getD "text")
  let f ← Filter.parseItems r .and (token :: rest)
  Filter.compile? s f

/-- The expression of a key to order by, with its direction. -/
def orderKey (s : Scope) (first : Value) (rest : List Value) : Result Predicate := do
  let (name, cast) ← splitCast first
  let k ← FieldKey.parse (.text name)
  match k with
  | .all | .relations => .error (.notOrderable k.name)
  | k => do
    let p ← k.resolve s.procedures s.entity true s.documents
    let p ← castKey s k cast p
    if rest.isEmpty then .ok p
    else
      let direction ← directionOf rest
      Predicate.concat [.predicate p, .text direction] " "

/-- The expression of an item to order by. -/
def orderItem (r : FunctionRegistry) (s : Scope) (item : Value) : Result Predicate := do
  let (first, rest) ← orderParts item
  match ← OperatorToken.ofValue first with
  | some (.call returnType) => orderCall r s returnType rest
  | some (.junction _) => .error (.orderOperator first)
  | none => orderKey s first rest

/-- The expressions of items to order by, in order. -/
def orderItems (r : FunctionRegistry) (s : Scope) : List Value → Result (List Predicate)
  | [] => .ok []
  | item :: items => do
    let p ← orderItem r s item
    let ps ← orderItems r s items
    .ok (p :: ps)

/-! ### Fields -/

/-- Output columns and the logical keys that they answer, in order. -/
abbrev FieldMap := List (String × String)

/-- The field map with an output column set; a column that is there keeps its place. -/
def FieldMap.put (column key : String) : FieldMap → FieldMap
  | [] => [(column, key)]
  | m :: ms => if m.1 == column then (m.1, key) :: ms else m :: FieldMap.put column key ms

/-- The field map with output columns set in order. -/
def FieldMap.putAll (extra : FieldMap) (m : FieldMap) : FieldMap :=
  extra.foldl (fun m e => FieldMap.put e.1 e.2 m) m

/-- The output column of a path of an entity. -/
def pathAlias (e : Entity) (k : FieldKey) : String := e.container ++ "." ++ k.name

/-- The output columns of a key. -/
def outputs (e : Entity) (k : FieldKey) : FieldMap :=
  match k with
  | .all => e.columns.map fun c => (c, "$" ++ c)
  | .path _ => [(pathAlias e k, k.name)]
  | .column c | .timestamp c => [(c, k.name)]
  | .relations => [(FieldKey.relationsColumn, k.name)]

/-- The expression of a grouped key among those of the groups: the last one for the key. -/
def groupedAs? (groups : List (FieldKey × Predicate)) (k : FieldKey) : Option Predicate :=
  (groups.reverse.find? fun g => g.1.name == k.name).map Prod.snd

/-- A selected key: its expression with the name of its output column. A grouped property is
selected as the expression that it is grouped by. -/
def fieldItem (s : Scope) (groups : List (FieldKey × Predicate)) (name : Value) :
    Result (Predicate × FieldMap) := do
  let k ← FieldKey.parse name
  let p ← k.resolve s.procedures s.entity false s.documents
  match k with
  | .path _ => do
    let p := (groupedAs? groups k).getD p
    let q ← p.withText (p.text ++ " AS \"" ++ pathAlias s.entity k ++ "\"")
    .ok (q, outputs s.entity k)
  | .relations => do
    let q ← p.withText (p.text ++ " AS " ++ FieldKey.relationsColumn)
    .ok (q, outputs s.entity k)
  | k => .ok (p, outputs s.entity k)

/-- The selected keys, in order. -/
def fieldItems (s : Scope) (groups : List (FieldKey × Predicate)) :
    List Value → Result (List (Predicate × FieldMap))
  | [] => .ok []
  | name :: names => do
    let f ← fieldItem s groups name
    let fs ← fieldItems s groups names
    .ok (f :: fs)

end Search

end DocumentSql

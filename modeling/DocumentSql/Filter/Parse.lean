/-
Reading filter specifications.

A specification is a nested value: nothing; a mapping of keys to values, one equality each; a
list of specifications with an operator at its head, AND if none is given; a call of a predicate
function; a table, whose rows are mappings of which one must hold; or a raw fragment of SQL.
Whatever is malformed is refused here.
-/
import DocumentSql.Filter.Basic
import DocumentSql.Filter.Token
import DocumentSql.Cast.Apply
import DocumentSql.Key.Parse
import DocumentSql.Value.Collection
import DocumentSql.Json.Write

namespace DocumentSql

namespace Filter

/-! ### Comparisons -/

/-- The value is of a class that is compared as it is. -/
def isScalar : Value → Bool
  | .text _ | .cast _ | .bool _ | .int _ | .float _ | .decimal _ | .date _ | .moment _ | .time _
  | .uuid _ => true
  | _ => false

/-- The value that a key is compared with, in its plain form. Lists and mappings must have a JSON
text. -/
def checkedValue (k : FieldKey) (v : Value) : Result Value :=
  let v := v.normalize
  if v.isNull || isScalar v then .ok v
  else if v.isStructured then
    match Json.write v with
    | .ok _ => .ok v
    | .error e => .error (.valueUnwritable k.name e.message)
  else .error (.valueRefused k.name v)

/-- The equality of a key with a value. -/
def comparison (name value : Value) : Result Filter := do
  let k ← FieldKey.parse name
  match k with
  | .relations | .all => .error (.notComparable k.name)
  | .path _ => do
    let v ← checkedValue k value
    .ok (property k v)
  | .column _ | .timestamp _ => do
    let v ← checkedValue k value
    .ok (column k v)

/-- The equalities of the members of a mapping, in order. -/
def comparisons : Members → Result (List Filter)
  | [] => .ok []
  | (name, value) :: ms => do
    let f ← comparison name value
    let fs ← comparisons ms
    .ok (f :: fs)

/-- A mapping, its equalities joined by an operator. -/
def ofMembers (op : Predicate.Operator) (ms : Members) : Result (Option Filter) :=
  (comparisons ms).map (joined? op)

/-! ### Tables -/

/-- The members of a row of a table. -/
def rowMembers (columns : List String) (row : List Value) : Members :=
  (columns.map Value.text).zip row

/-- The filters of the rows of a table, each with all its equalities. -/
def ofRows (columns : List String) : List (List Value) → Result (List Filter)
  | [] => .ok []
  | row :: rows => do
    let f ← ofMembers .and (rowMembers columns row)
    let fs ← ofRows columns rows
    .ok (f.toList ++ fs)

/-! ### Calls -/

/-- The keys that values name; all columns at once are refused. -/
def callKeys : List Value → Result (List FieldKey)
  | [] => .ok []
  | v :: vs => do
    let k ← FieldKey.parse v
    match k with
    | .all => .error (.notPassable k.name)
    | k => do
      let ks ← callKeys vs
      .ok (k :: ks)

/-- The items before the first reference to a function, the reference, and the items behind
it. -/
def splitCall : List Value → Option (List Value × Value × List Value)
  | [] => none
  | v :: vs =>
    if FunctionRegistry.isReference v then some ([], v, vs)
    else (splitCall vs).map fun (before, f, after) => (v :: before, f, after)

/-- The type that the result of a call is cast to: the one that the operator gives, or that of
the function. -/
def callType (returnType : Option String) (f : PredicateFunction) : Value :=
  match returnType with
  | some t => .text t
  | none => f.returnType

/-- A call: keys, a function and arguments. -/
def ofCall (r : FunctionRegistry) (returnType : Option String) (items : List Value) :
    Result Filter :=
  match splitCall items with
  | none => .error .callWithoutFunction
  | some (names, reference, arguments) => do
    let f ← r.find reference
    let keys ← callKeys names
    let arguments := arguments.map Value.normalize
    match Json.write (.list arguments) with
    | .error e => .error (.argumentsUnwritable f.name e.message)
    | .ok _ => do
      let type := callType returnType f
      let _ ← Cast.parse type
      .ok (call keys f arguments type)

/-! ### Specifications -/

/-- A value that is none of the other forms: a truth value, a text or a number is a raw
fragment. -/
def ofScalar (v : Value) : Result Filter :=
  match v.normalize with
  | .bool b => .ok (raw (if b then "TRUE" else "FALSE"))
  | .text s => .ok (raw (Text.strip s))
  | .cast k => .ok (raw (Text.strip (Value.cast k).plainText))
  | .int n => .ok (raw (toString n))
  | .float x => .ok (raw x.text)
  | .decimal d => .ok (raw d.text)
  | v => .error (.filterRefused v)

mutual
/-- The filter that a specification describes, if it imposes a condition. The operator joins the
members of mappings. -/
def parse (r : FunctionRegistry) (op : Predicate.Operator) : Value → Result (Option Filter)
  | .null => .ok none
  | .frame columns rows => (ofRows columns rows).map (joined? .or)
  | .dict ms => ofMembers op ms
  | .list items => parseItems r op items
  | .tuple items => parseItems r op items
  | v => (ofScalar v).map some
  termination_by structural v => v
/-- The filter that a list describes. -/
def parseItems (r : FunctionRegistry) (op : Predicate.Operator) :
    List Value → Result (Option Filter)
  | [] => .ok none
  | first :: rest =>
    match OperatorToken.ofValue first with
    | .error e => .error e
    | .ok (some token) =>
      if rest.isEmpty then .error (.operatorAlone first)
      else match token with
        | .call returnType => (ofCall r returnType rest).map some
        | .junction joiner => (parseAll r op rest).map (joined? joiner)
    | .ok none =>
      match parse r op first with
      | .error e => .error e
      | .ok f => (parseAll r op rest).map fun fs => joined? .and (f.toList ++ fs)
  termination_by structural items => items
/-- The filters that specifications describe, in order, without those that impose no
condition. -/
def parseAll (r : FunctionRegistry) (op : Predicate.Operator) :
    List Value → Result (List Filter)
  | [] => .ok []
  | v :: vs =>
    match parse r op v with
    | .error e => .error e
    | .ok f => (parseAll r op vs).map (f.toList ++ ·)
  termination_by structural vs => vs
end

/-- The operator that joins the members of mappings, by its name. -/
def operatorOf (v : Value) : Result Predicate.Operator :=
  match v.asText?.bind Predicate.Operator.ofName? with
  | some op => .ok op
  | none => .error (.unknownOperator v)

/-- The operator that joins the members of mappings, by the way to match them. -/
def matchOperator (v : Value) : Result Predicate.Operator :=
  if !v.isKey then .error (.fault .wrongType)
  else match v.asText? with
    | some "all" => .ok .and
    | some "any" => .ok .or
    | _ => .error (.matchRefused v)

end Filter

end DocumentSql

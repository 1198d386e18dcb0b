/-
Compiling filters into fragments of SQL.

Values never enter the text: each comparison has one placeholder, and a call has its name and
arguments as JSON parameters. The text of a comparison depends on the key, on the declared type
of the key or else the kind of the value, and on whether the value is nothing, structured or
plain.
-/
import DocumentSql.Filter.Parse
import DocumentSql.Key.Resolve

namespace DocumentSql

/-- What a filter is compiled for. -/
structure Scope where
  /-- The procedures of the server. -/
  procedures : Procedures
  /-- The entity. -/
  entity : Entity
  /-- The document type or schema that decides casts. -/
  schema : Value
  /-- The relation expressions of the related documents. -/
  documents : Value

namespace Filter

/-- Elements of the classes that extend numbers and texts are these numbers and texts. -/
def extended : Value → Value
  | .scalar "float64" (.float x) => .float x
  | .scalar _ (.text s) => .text s
  | v => v

/-- The cast of a key that no schema declares, by the value that it is compared with. -/
def kindOfValue (v : Value) : CastKind :=
  match extended v with
  | .bool _ => .boolean
  | .int _ | .float _ | .decimal _ => .numeric
  | _ => .text

/-- A value as the text of a property: texts as they are, truth values and numbers as JSON. -/
def textParam (v : Value) : Value :=
  match extended v with
  | .text _ | .cast _ => v
  | .bool b => .text (if b then "true" else "false")
  | .int n => .text (toString n)
  | .float x => .text (Json.writeFloat x)
  | v => .text v.plainText

/-- A value as the parameter of a comparison under a cast. -/
def castParam (k : CastKind) (v : Value) : Value :=
  match k with
  | .direct => v
  | .text => textParam v
  | .numeric =>
    match v with
    | .bool b => .int (if b then 1 else 0)
    | v => v
  | .boolean =>
    match extended v with
    | .bool b => .bool b
    | .int n => .bool (n != 0)
    | .float x => .bool !x.isZero
    | .decimal d => .bool !d.isZero
    | _ => v

/-- The JSON text of a value. -/
def jsonText (v : Value) : Result String :=
  match Json.write v with
  | .ok s => .ok s
  | .error _ => .error (.fault .wrongType)

/-- The comparison of an expression with a list or mapping. -/
def compareJson (expr : String) (v : Value) : Result Predicate := do
  let s ← jsonText v
  Predicate.ofText ("(" ++ expr ++ ")::jsonb = $::jsonb") [.text s]

/-- The equality of a column with a value. -/
def compileColumn (s : Scope) (k : FieldKey) (v : Value) : Result Predicate := do
  let p ← k.resolve s.procedures s.entity false (.list [])
  if v.isNull then Predicate.ofText (p.text ++ " IS NULL") []
  else if v.isStructured then compareJson p.text v
  else Predicate.ofText (p.text ++ " = $") [v]

/-- The cast under which a key is compared with a value. -/
def comparisonKind (s : Scope) (k : FieldKey) (v : Value) : Result CastKind :=
  match Schema.declaredType? s.schema k with
  | some _ => CastKind.ofKey s.entity s.schema k
  | none => .ok (kindOfValue v)

/-- The equality of a property with a value. -/
def compileProperty (s : Scope) (k : FieldKey) (v : Value) : Result Predicate := do
  let p ← k.resolve s.procedures s.entity false (.list [])
  if v.isNull then Predicate.ofText (Cast.asText p.text ++ " IS NULL") []
  else if v.isStructured then compareJson p.text v
  else do
    let kind ← comparisonKind s k v
    Predicate.ofText ((Cast.kind kind).applyTo p.text ++ " = $") [castParam kind v]

/-- The fragments, each as JSON. -/
def asJson : List Predicate → Result (List Predicate)
  | [] => .ok []
  | p :: ps => do
    let q ← p.withText ("to_json(" ++ p.text ++ ")")
    let qs ← asJson ps
    .ok (q :: qs)

/-- The array of the values of a call. -/
def valueArray (values : Predicate) : String :=
  if values.isEmpty then "'[]'::json" else "array_to_json(ARRAY[" ++ values.text ++ "])"

/-- The result of a call under a cast. The textual form of a navigation belongs to the arguments
of the call, so a cast to text stands behind it. -/
def castCall (c : Cast) (text : String) : Result String :=
  match c with
  | .kind .text => .ok ("(" ++ text ++ ")::text")
  | c => Cast.apply c.toValue text

/-- The call of a function: the values of the keys are packed into an array, and the name and the
arguments follow as JSON parameters. -/
def compileCall (s : Scope) (keys : List FieldKey) (f : PredicateFunction)
    (arguments : List Value) (returnType : Value) : Result Predicate := do
  let resolved ← FieldKey.resolveAll s.procedures s.entity true s.documents keys
  let resolved ← asJson resolved
  let values ← Predicate.chain resolved ", "
  let arguments ← jsonText (.list arguments)
  let p ← Predicate.ofText
    (s.procedures.dispatch ++ "(" ++ valueArray values ++ ", $::json, $::json)")
    (values.params ++ [.text (Json.writeText f.name), .text arguments])
  let c ← Cast.parse returnType
  let text ← castCall c p.text
  p.withText text

mutual
/-- The fragment of a filter; it is empty when the filter imposes no condition. -/
def compile (s : Scope) : Filter → Result Predicate
  | raw text => Predicate.ofText text []
  | column k v => compileColumn s k v
  | property k v => compileProperty s k v
  | call keys f arguments returnType => compileCall s keys f arguments returnType
  | all operands =>
    match compileAll s operands with
    | .ok ps => Predicate.join ps .and
    | .error e => .error e
  | any operands =>
    match compileAll s operands with
    | .ok ps => Predicate.join ps .or
    | .error e => .error e
  | other v => if v.isNull then .ok Predicate.empty else .error (.nodeRefused v)
  termination_by structural f => f
/-- The fragments of filters, in order. -/
def compileAll (s : Scope) : List Filter → Result (List Predicate)
  | [] => .ok []
  | f :: fs =>
    match compile s f with
    | .ok p => (compileAll s fs).map (p :: ·)
    | .error e => .error e
  termination_by structural fs => fs
end

/-- The fragment of a filter that may impose no condition. -/
def compile? (s : Scope) : Option Filter → Result Predicate
  | none => .ok Predicate.empty
  | some f => compile s f

/-- The condition that a specification describes. The way to match joins the members of
mappings. -/
def condition (r : FunctionRegistry) (s : Scope) (match_ spec : Value) : Result Predicate := do
  let op ← matchOperator match_
  let f ← parse r op spec
  compile? s f

end Filter

end DocumentSql

/-
The registry of predicate functions.

A filter may call a function of the server on the values of fields. Only functions that are
registered under a name can be called, so a compiled statement carries names and no code. A
function is registered together with its local implementation, known here by its label.
-/
import DocumentSql.Error
import DocumentSql.Text.Identifier
import DocumentSql.Value.Collection
import DocumentSql.Value.Identical
import DocumentSql.Value.Integer
import DocumentSql.Value.Literal

namespace DocumentSql

/-- A predicate function. -/
structure PredicateFunction where
  /-- The name that is passed to the server. -/
  name : String
  /-- The label of the local implementation, if there is one. -/
  implementation : Option String
  /-- The type of the result, when a filter does not give one. -/
  returnType : Value
deriving DecidableEq, Inhabited

namespace PredicateFunction

/-- The function as a value. -/
def toValue (f : PredicateFunction) : Value := .function f.name f.implementation f.returnType

/-- Equality of name, implementation and type. -/
def same (f g : PredicateFunction) : Bool := f.toValue.same g.toValue

/-- What calling the function locally returns: its arguments, if it has an implementation. -/
def call (f : PredicateFunction) (arguments : List Value) : Result Value :=
  match f.implementation with
  | some _ => .ok (.list arguments)
  | none => .error (.functionRemote f.name)

end PredicateFunction

namespace Value

/-- The integer that a value makes. -/
def makeInteger (v : Value) : Result Value :=
  match v.toInteger with
  | .ok n => .ok (int n)
  | .error .unbounded => .error (.fault .overflow)
  | .error .noNumber => match v with
    | text _ | bytes _ | float _ | decimal _ => .error (.fault .wrongValue)
    | _ => .error (.fault .wrongType)

/-- The mapping that a value makes. -/
def makeMapping (v : Value) : Result Value :=
  match v.toMapping with
  | .ok ms => .ok (dict ms)
  | .error .type => .error (.fault .wrongType)
  | .error .value => .error (.fault .wrongValue)

/-- What calling a value returns: a predicate function asks its implementation, a plain function
returns its arguments, and a class makes a value of its own. -/
def call (v : Value) (arguments : List Value) : Result Value :=
  match v, arguments with
  | function name implementation returnType, arguments =>
    PredicateFunction.call ⟨name, implementation, returnType⟩ arguments
  | callable _, arguments => .ok (list arguments)
  | class_ "int", [] => .ok (int 0)
  | class_ "int", [v] => makeInteger v
  | class_ "str", [] => .ok (text "")
  | class_ "str", [v] => .ok (text v.plainText)
  | class_ "dict", [] => .ok (dict [])
  | class_ "dict", [v] => makeMapping v
  | _, _ => .error (.fault .wrongType)

end Value

/-- What is registered under each name, in the order in which the names were taken. -/
abbrev FunctionRegistry := List (String × PredicateFunction)

namespace FunctionRegistry

/-- The function of a name. -/
def get? (r : FunctionRegistry) (name : String) : Option PredicateFunction := r.lookup name

/-- The registry with a function stored under a name. A name that is taken keeps its place. -/
def put (name : String) (f : PredicateFunction) : FunctionRegistry → FunctionRegistry
  | [] => [(name, f)]
  | e :: r => if e.1 == name then (name, f) :: r else e :: put name f r

/-- The registry without the function of a name. -/
def erase (r : FunctionRegistry) (name : String) : FunctionRegistry :=
  r.filter (·.1 != name)

/-- The name under which an implementation is registered: the given one, or its own. -/
def nameFor (name : Value) (label : String) : Value := name.orElse (.text label)

/-- Registers an implementation under a name, its own one if none is given. A name that belongs to
another implementation is refused. -/
def register (r : FunctionRegistry) (name : Value) (label : String) (returnType : Value) :
    Result (FunctionRegistry × PredicateFunction) :=
  let name := nameFor name label
  match name.asText? with
  | none => .error (.functionName name)
  | some n =>
    if !Text.isIdentifier n then .error (.functionName name)
    else
      let f : PredicateFunction := ⟨n, some label, returnType⟩
      match get? r n with
      | some g =>
        if g.implementation == some label then .ok (put n f r, f) else .error (.functionTaken n)
      | none => .ok (put n f r, f)

/-- Removes the function of a name. -/
def unregister (r : FunctionRegistry) (name : Value) : Result FunctionRegistry :=
  if !name.isKey then .error (.fault .wrongType)
  else match name.asText? with
    | some n => if (get? r n).isSome then .ok (erase r n) else .error (.functionUnknown name)
    | none => .error (.functionUnknown name)

/-- The registered function that a plain function implements. -/
def ofLabel (r : FunctionRegistry) (label : String) : Result PredicateFunction :=
  match r.find? (·.2.implementation == some label) with
  | some e => .ok e.2
  | none => .error (.functionUnregistered label)

/-- The function of a name. -/
def ofName (r : FunctionRegistry) (name : Value) (n : String) : Result PredicateFunction :=
  match get? r n with
  | some f => .ok f
  | none => .error (.functionUnknown name)

/-- The registered function that a value refers to: a registered entry, a name, or a plain
function. -/
def find (r : FunctionRegistry) (reference : Value) : Result PredicateFunction :=
  match reference with
  | .function name implementation returnType =>
    let f : PredicateFunction := ⟨name, implementation, returnType⟩
    match get? r name with
    | some g => if g = f ∨ g.same f then .ok f else .error (.functionUnknown (.text name))
    | none => .error (.functionUnknown (.text name))
  | .callable label => ofLabel r label
  | .class_ name => .error (.functionUnregistered name)
  | v => match v.asText? with
    | some n => ofName r v n
    | none => .error (.functionReference v)

/-- The value marks the place of a function in a call: it is a function, and no name or
class. -/
def isReference : Value → Bool
  | .function .. => true
  | .callable _ => true
  | _ => false

/-- The names of all functions, in the order of their code points. -/
def names (r : FunctionRegistry) : List String :=
  (r.map (·.1)).mergeSort fun a b => decide (a ≤ b)

end FunctionRegistry

end DocumentSql

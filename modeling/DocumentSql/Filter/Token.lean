/-
Operator tokens: the texts at the head of a list that say how its items are joined.
-/
import DocumentSql.Sql.Predicate

namespace DocumentSql

/-- The head of a list of a filter. -/
inductive OperatorToken where
  /-- The items are joined. -/
  | junction (op : Predicate.Operator)
  /-- The items are a call of a function, whose result is cast to a type, if one is given. -/
  | call (returnType : Option String)
deriving DecidableEq

namespace OperatorToken

/-- The name of the operator of calls. -/
def callName : String := "BIND"

/-- The name of the operator. -/
def name : OperatorToken → String
  | junction op => op.name
  | call _ => callName

/-- The type that the operator gives. -/
def returnType : OperatorToken → Option String
  | junction _ => none
  | call t => t

/-- The text behind the first colon, if there is any. -/
def suffix? (after : Option (List Char)) : Option String :=
  match after with
  | none => none
  | some [] => none
  | some cs => some (String.ofList cs)

/-- The operator token that a value is, if it is one. A type may be given behind a colon to the
operator of calls only. -/
def ofValue (v : Value) : Result (Option OperatorToken) :=
  match v.asText? with
  | none => .ok none
  | some s =>
    let (before, after) := Text.cutAt ':' s.toList
    let name := String.ofList before
    let returnType := suffix? after
    match Predicate.Operator.ofName? name with
    | some op =>
      if returnType.isSome then .error (.operatorReturnType name v)
      else .ok (some (junction op))
    | none => if name == callName then .ok (some (call returnType)) else .ok none

end OperatorToken

end DocumentSql

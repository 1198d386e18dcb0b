/-
Filters: which documents a search, an update or a count is about.

A filter is a tree of comparisons, raw fragments and calls of predicate functions, joined by AND
and OR. Its leaves refer to fields by parsed keys.
-/
import DocumentSql.Function
import DocumentSql.Sql.Predicate

namespace DocumentSql

/-- A filter. -/
inductive Filter where
  /-- A fragment of SQL without parameters. -/
  | raw (text : String)
  /-- Equality of a column with a value. -/
  | column (key : FieldKey) (value : Value)
  /-- Equality of a property of the data container with a value. -/
  | property (key : FieldKey) (value : Value)
  /-- All operands hold. -/
  | all (operands : List Filter)
  /-- One of the operands holds. -/
  | any (operands : List Filter)
  /-- The call of a predicate function on the values of fields, with arguments, and the type its
  result is cast to. -/
  | call (keys : List FieldKey) (function : PredicateFunction) (arguments : List Value)
      (returnType : Value)
  /-- A value in the place of a filter: nothing imposes no condition, and other values are
  refused when the filter is compiled. -/
  | other (value : Value)
deriving Inhabited

namespace Filter

/-- Filters joined by an operator. -/
def joined (op : Predicate.Operator) (operands : List Filter) : Filter :=
  match op with
  | .and => all operands
  | .or => any operands

/-- Filters joined by an operator; none impose no condition. -/
def joined? (op : Predicate.Operator) (operands : List Filter) : Option Filter :=
  if operands.isEmpty then none else some (joined op operands)

@[simp] theorem joined?_nil (op : Predicate.Operator) : joined? op [] = none := rfl

@[simp] theorem joined?_cons (op : Predicate.Operator) (f : Filter) (fs : List Filter) :
    joined? op (f :: fs) = some (joined op (f :: fs)) := rfl

end Filter

end DocumentSql

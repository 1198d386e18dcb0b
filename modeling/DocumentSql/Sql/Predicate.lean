/-
Predicates: fragments of SQL with the values bound to their placeholders.

The placeholders of a predicate are numbered from one, from left to right. Whatever is built of
predicates is numbered anew, so that the fragments of a statement keep their own parameters.
-/
import DocumentSql.Sql.Placeholder
import DocumentSql.Error
import DocumentSql.Text.Case
import DocumentSql.Value.Equal

namespace DocumentSql

/-- A fragment of SQL. -/
structure Predicate where
  /-- The text, its placeholders numbered from one. -/
  text : String
  /-- The values of the placeholders, in order. -/
  params : List Value
  /-- What the fragment was resolved from. -/
  origin : Members
deriving Inhabited

namespace Predicate

/-- The fragment without text. -/
def empty : Predicate := ⟨"", [], []⟩

/-- The fragment has no text. -/
def isEmpty (p : Predicate) : Bool := p.text.isEmpty

/-- The fragment with a text and the values of its placeholders, refused when their numbers
differ. -/
def make (text : String) (params : List Value) (origin : Members) : Result Predicate :=
  let placeholders := Sql.countPlaceholders text
  if placeholders != params.length then
    .error (.placeholderCount text placeholders params.length)
  else .ok ⟨Sql.renumber text 0, params, origin⟩

/-- The fragment of a text with parameters. -/
def ofText (text : String) (params : List Value) : Result Predicate := make text params []

/-- The text, numbered behind the parameters of the fragments before it. -/
def shifted (p : Predicate) (offset : Int) : String := Sql.renumber p.text offset

/-- The fragment with another text for the same parameters. -/
def withText (p : Predicate) (text : String) : Result Predicate := make text p.params p.origin

/-- Equality of text and parameters; where the fragments come from does not count. -/
def same (p q : Predicate) : Bool := p.text == q.text && Value.sameAll p.params q.params

/-- A part of a sequence of fragments. -/
inductive Part where
  /-- A text without parameters. -/
  | text (s : String)
  /-- A fragment. -/
  | predicate (p : Predicate)

/-- The fragment of a part. -/
def Part.toPredicate : Part → Result Predicate
  | .text s => ofText s []
  | .predicate p => .ok p

/-- The fragments of the parts, in order. -/
def ofParts : List Part → Result (List Predicate)
  | [] => .ok []
  | part :: parts => do
    let p ← part.toPredicate
    let ps ← ofParts parts
    .ok (p :: ps)

/-- The texts of the fragments, each numbered behind the parameters of those before it. -/
def shiftedTexts (offset : Nat) : List Predicate → List String
  | [] => []
  | p :: ps => p.shifted offset :: shiftedTexts (offset + p.params.length) ps

/-- The parameters of all fragments, in order. -/
def allParams (ps : List Predicate) : List Value := ps.flatMap (·.params)

/-- The fragments that are not empty, one behind the other with a separator between them. -/
def chain (ps : List Predicate) (separator : String) : Result Predicate :=
  let ps := ps.filter (!·.isEmpty)
  ofText (String.intercalate separator (shiftedTexts 0 ps)) (allParams ps)

/-- The parts that are not empty, one behind the other with a separator between them. -/
def concat (parts : List Part) (separator : String) : Result Predicate := do
  let ps ← ofParts parts
  chain ps separator

/-- The boolean operators that join fragments. -/
inductive Operator where
  /-- All must hold. -/
  | and
  /-- One must hold. -/
  | or
deriving DecidableEq, Inhabited

/-- The operator in SQL. -/
def Operator.name : Operator → String
  | .and => "AND"
  | .or => "OR"

/-- The operator with a name in capitals. -/
def Operator.ofName? (s : String) : Option Operator :=
  if s == "AND" then some .and else if s == "OR" then some .or else none

/-- The operator with a name in any case. -/
def Operator.ofText (s : String) : Result Operator :=
  match Operator.ofName? (Text.upper s) with
  | some op => .ok op
  | none => .error (.unknownOperator (.text (Text.upper s)))

/-- The fragment in parentheses. -/
def enclosed (p : Predicate) : Result Predicate := p.withText ("(" ++ p.text ++ ")")

/-- The fragments in parentheses, in order. -/
def enclosedAll : List Predicate → Result (List Predicate)
  | [] => .ok []
  | p :: ps => do
    let q ← p.enclosed
    let qs ← enclosedAll ps
    .ok (q :: qs)

/-- The fragments that are not empty, joined with an operator: none make the empty fragment, one
is kept as it is, and several are put in parentheses. -/
def join (ps : List Predicate) (op : Operator) : Result Predicate :=
  match ps.filter (!·.isEmpty) with
  | [] => .ok empty
  | [p] => .ok p
  | ps => do
    let ps ← enclosedAll ps
    chain ps (" " ++ op.name ++ " ")

@[simp] theorem isEmpty_empty : empty.isEmpty = true := rfl

@[simp] theorem params_empty : empty.params = [] := rfl

end Predicate

end DocumentSql

/-
Compositions: how a fragment is built of texts and parameters by joining, chaining and filling
templates.

A composition need not give a fragment: nothing and plain texts are allowed in the place of one,
and a plain text that stands alone in a join is what the join gives. They count as fragments
where a fragment is wanted last.
-/
import DocumentSql.Sql.Predicate

namespace DocumentSql

/-- How a fragment is built. -/
inductive Composition where
  /-- Nothing. -/
  | nothing
  /-- A plain text. -/
  | text (s : String)
  /-- A fragment of a text with the values of its placeholders. -/
  | fragment (text : String) (params : List Value) (origin : Members)
  /-- Parts joined with an operator. -/
  | join (parts : List Composition) (operator : String)
  /-- Parts one behind the other with a separator between them. -/
  | chain (parts : List Composition) (separator : String)
  /-- A part whose text fills the gaps of a template. -/
  | fill (template : String) (part : Composition)
deriving Inhabited

/-- What a composition gives. -/
inductive Composed where
  /-- Nothing. -/
  | nothing
  /-- A plain text. -/
  | text (s : String)
  /-- A fragment. -/
  | predicate (p : Predicate)

namespace Composed

/-- There is no text. -/
def isEmpty : Composed → Bool
  | nothing => true
  | text s => s.isEmpty
  | predicate p => p.isEmpty

/-- The part of a sequence, unless there is nothing. -/
def part? : Composed → Option Predicate.Part
  | nothing => none
  | text s => some (.text s)
  | predicate p => some (.predicate p)

/-- The fragment, which nothing and texts have not. -/
def onlyPredicate : Composed → Result Predicate
  | predicate p => .ok p
  | _ => .error (.fault .missingAttribute)

/-- The fragment; nothing is the empty one, and a text has no parameters. -/
def toPredicate : Composed → Result Predicate
  | nothing => .ok .empty
  | text s => Predicate.ofText s []
  | predicate p => .ok p

/-- What was composed is a given fragment. -/
def same (c : Composed) (p : Predicate) : Bool :=
  match c with
  | predicate q => p.same q
  | _ => false

end Composed

namespace Composition

/-- A template with every pair of braces replaced by a text. -/
def filled (s : List Char) : List Char → List Char
  | '\x7b' :: '\x7d' :: cs => s ++ filled s cs
  | c :: cs => c :: filled s cs
  | [] => []

/-- The fragments of what is joined. -/
def predicates : List Composed → Result (List Predicate)
  | [] => .ok []
  | c :: cs => do
    let p ← c.onlyPredicate
    let ps ← predicates cs
    .ok (p :: ps)

/-- Parts joined with an operator: none make the empty fragment, and one is kept as it is. -/
def joined (parts : List Composed) (operator : String) : Result Composed := do
  let op ← Predicate.Operator.ofText operator
  match parts.filter (!·.isEmpty) with
  | [] => .ok (.predicate .empty)
  | [c] => .ok c
  | cs =>
    let ps ← predicates cs
    let p ← Predicate.join ps op
    .ok (.predicate p)

mutual
/-- What a composition gives. -/
def evaluate : Composition → Result Composed
  | nothing => .ok .nothing
  | text s => .ok (.text s)
  | fragment s params origin => (Predicate.make s params origin).map .predicate
  | join parts operator => do joined (← evaluateAll parts) operator
  | chain parts separator => do
    let cs ← evaluateAll parts
    let p ← Predicate.concat (cs.filterMap Composed.part?) separator
    .ok (.predicate p)
  | fill template part => do
    let c ← evaluate part
    let p ← c.onlyPredicate
    let p ← p.withText (String.ofList (filled p.text.toList template.toList))
    .ok (.predicate p)
  termination_by structural c => c
/-- What compositions give. -/
def evaluateAll : List Composition → Result (List Composed)
  | [] => .ok []
  | c :: cs => do
    let d ← evaluate c
    let ds ← evaluateAll cs
    .ok (d :: ds)
  termination_by structural cs => cs
end

end Composition

end DocumentSql

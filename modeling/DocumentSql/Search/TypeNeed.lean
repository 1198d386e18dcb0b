/-
The document types of a search: the condition that tells them apart, and whether the declared
type has to be looked up.

A type is needed when the search asks for it, or when a property without a cast of its own is
ordered or grouped by. Only a single type can be resolved.
-/
import DocumentSql.Search.Item
import DocumentSql.DocumentType

namespace DocumentSql

/-- A source of declared document types, by name. -/
abbrev TypeLookup := Value → List DocumentType

/-- The types of a list that have the name looked up, in order. -/
def TypeLookup.among (types : List DocumentType) : TypeLookup := fun name =>
  types.filter fun t => t.name.same name

namespace Search

/-! ### The discriminator -/

/-- The name that a document type is told apart by. -/
def typeName (v : Value) : Result Value :=
  match v with
  | .documentType name _ _ _ => .ok name
  | v => match v.asText? with
    | some s => if s.isEmpty then .error (.typeRefused v) else .ok v
    | none => .error (.typeRefused v)

/-- The names of document types, in order. -/
def typeNames : List Value → Result (List Value)
  | [] => .ok []
  | v :: vs => do
    let n ← typeName v
    let ns ← typeNames vs
    .ok (n :: ns)

/-- The equalities of a column with names, in order. -/
def nameConditions (column : String) : List Value → Result (List Predicate)
  | [] => .ok []
  | n :: ns => do
    let p ← Predicate.ofText (column ++ " = $") [n]
    let ps ← nameConditions column ns
    .ok (p :: ps)

/-- The condition that a document is of one of the types. -/
def typeCondition (e : Entity) (documentType : Value) : Result Predicate := do
  match ← typeNames documentType.asList with
  | [] => .ok Predicate.empty
  | names =>
    match e.discriminator with
    | none => .error (.entityUntyped e.name)
    | some column => do
      let ps ← nameConditions column names
      Predicate.join ps .or

/-! ### Whether the type is needed -/

/-- What an item is about: its first part, if it is a list with parts. -/
def itemHead : Value → Value
  | .list (first :: _) => first
  | .tuple (first :: _) => first
  | v => v

/-- The item is a property without a cast of its own. -/
def itemNeedsSchema (item : Value) : Result Bool :=
  match (itemHead item).asText? with
  | none => .ok false
  | some s => do
    let (name, cast) ← splitCast (.text s)
    if name == OperatorToken.callName || !cast.isNull then .ok false
    else
      let k ← FieldKey.parse (.text name)
      .ok (!k.isReserved)

/-- One of the items is a property without a cast of its own. The items behind it are not looked
at. -/
def needsSchema : List Value → Result Bool
  | [] => .ok false
  | item :: items => do
    if ← itemNeedsSchema item then .ok true else needsSchema items

/-- What is to be done about the declared type of a search. -/
inductive TypeNeed where
  /-- There is none, or none is needed. -/
  | nothing
  /-- The type was handed over. -/
  | known (t : DocumentType)
  /-- The type has to be looked up by its name. -/
  | lookUp (name : Value)

namespace TypeNeed

/-- What it takes to know the only one of the given types. -/
def ofType (documentType : Value) : TypeNeed :=
  match documentType.asList with
  | [item] =>
    match DocumentType.ofValue? item with
    | some t => known t
    | none => lookUp item
  | _ => nothing

/-- What a search with the given traits needs. -/
def ofSearch (t : Traits) (documentType : Value) : Result TypeNeed := do
  if t.typeAwareness then .ok (ofType documentType)
  else if ← needsSchema (t.order ++ t.group) then .ok (ofType documentType)
  else match DocumentType.ofValue? documentType with
    | some d => .ok (known d)
    | none => .ok nothing

/-- The type that is found. A look-up must find exactly one. -/
def resolve (lookup : Option TypeLookup) : TypeNeed → Result (Option DocumentType)
  | nothing => .ok none
  | known t => .ok (some t)
  | lookUp name =>
    match lookup with
    | none => .ok none
    | some find => match find name with
      | [t] => .ok (some t)
      | found => .error (.typeCount name found.length)

/-- The names that are looked up. -/
def lookups (lookup : Option TypeLookup) : TypeNeed → List Value
  | lookUp name => if lookup.isSome then [name] else []
  | _ => []

end TypeNeed

end Search

end DocumentSql

/-
Traits: what a search returns, in which order, in which groups and how much of it.

Callers give a mapping; `Traits.ofValue` puts it into its normal form or refuses it. Traits in
normal form can be written as a mapping again, with the same normal form.
-/
import DocumentSql.Sql.Predicate
import DocumentSql.Filter.Parse
import DocumentSql.Value.Integer
import DocumentSql.Log

namespace DocumentSql

/-- A limit of the number of rows. -/
inductive Limit where
  /-- All rows. -/
  | all
  /-- At most so many rows. -/
  | rows (count : Nat)
deriving DecidableEq, Inhabited

/-- The limit as a value. -/
def Limit.toValue : Limit → Value
  | all => .text "ALL"
  | rows n => .int n

/-- What the settings say about searches. -/
structure SearchDefaults where
  /-- The order item of a search that gives no order. -/
  order : Value
  /-- Whether a search looks up its document type when it does not say so. -/
  typeAwareness : Bool

/-- The traits of a search in normal form. -/
structure Traits where
  /-- The logical keys to return. -/
  fields : List Value
  /-- The items to order by. -/
  order : List Value
  /-- The items to group by. -/
  group : List Value
  /-- The greatest number of rows. -/
  limit : Option Limit
  /-- The number of rows to skip. -/
  offset : Option Nat
  /-- The operator that joins the members of mappings. -/
  matching : Predicate.Operator
  /-- The number of rows is wanted instead of the rows. -/
  count : Bool
  /-- The document type is looked up, to cast fields and to fetch its related documents. -/
  typeAwareness : Bool
  /-- The relation expressions of the related documents. -/
  documents : List Value

namespace Traits

/-- The names of all traits. -/
def names : List String :=
  ["fields", "order", "group", "limit", "offset", "match", "count", "type_awareness", "documents"]

/-- The name of a trait, another spelling of which is taken too. -/
def canonicalName (k : Value) : Value :=
  if k.asText? == some "typeAwareness" then .text "type_awareness" else k

/-- The members with their canonical names. -/
def canonicalMembers (ms : Members) : Members :=
  Members.ofList (ms.map fun m => (canonicalName m.1, m.2))

/-- The members of what a caller gives as traits; what counts as false is empty. -/
def membersOf (v : Value) : Result Members :=
  if !v.truth then .ok []
  else match v.toMapping with
    | .ok ms => .ok ms
    | .error .type => .error (.fault .wrongType)
    | .error .value => .error (.fault .wrongValue)

/-- The key is the name of a trait. -/
def isName (k : Value) : Bool :=
  match k.asText? with
  | some s => names.contains s
  | none => false

/-- The names of unknown traits in order, when they have one. -/
def sortedNames (ks : List Value) : Result (List Value) :=
  match ks with
  | [k] => .ok [k]
  | ks =>
    if ks.all fun k => k.asText?.isSome then
      .ok (ks.mergeSort fun a b => decide (a.asText?.getD "" ≤ b.asText?.getD ""))
    else if ks.all fun k => match k with | .int _ | .bool _ => true | _ => false then
      .ok (ks.mergeSort fun a b =>
        match a.toInteger, b.toInteger with
        | .ok m, .ok n => m ≤ n
        | _, _ => true)
    else .error (.fault .wrongType)

/-- A count given by a caller: a number cut toward zero or a numeral, but no truth value. -/
def countOf (trait : String) (v : Value) : Result Nat :=
  match v with
  | .bool _ => .error (.countRefused trait v)
  | v => match v.toInteger with
    | .error .noNumber => .error (.countRefused trait v)
    | .error .unbounded => .error (.fault .overflow)
    | .ok n => if n < 0 then .error (.countNegative trait n) else .ok n.toNat

/-- The value is the word for all rows. -/
def isAll (v : Value) : Bool :=
  match v.asText? with
  | some s => Text.upper (Text.strip s) == "ALL"
  | none => false

/-- The limit given by a caller. -/
def limitOf : Value → Result (Option Limit)
  | .null => .ok none
  | v =>
    if isAll v then .ok (some .all)
    else (countOf "limit" v).map fun n => some (.rows n)

/-- The offset given by a caller. -/
def offsetOf : Value → Result (Option Nat)
  | .null => .ok none
  | v => (countOf "offset" v).map some

/-- The value is the truth value true. -/
def isTrue : Value → Bool
  | .bool b => b
  | _ => false

/-- The fields given by a caller; all, if there are none. -/
def fieldsOf (v : Value) : List Value :=
  match v.asList with
  | [] => [.text "$*"]
  | vs => vs

/-- The order given by a caller; the usual one, if it gives none. -/
def orderOf (defaults : SearchDefaults) : Value → List Value
  | .null => [defaults.order]
  | v => v.asList

/-- The traits of members with canonical names. -/
def ofCanonical (defaults : SearchDefaults) (ms : Members) : Result Traits := do
  let unknown := (ms.map Prod.fst).filter (!isName ·)
  if !unknown.isEmpty then
    let sorted ← sortedNames unknown
    .error (.traitsUnknown sorted)
  else
    let matching ← Filter.matchOperator ((Members.getText? ms "match").getD (.text "all"))
    let limit ← limitOf (Members.getD ms "limit")
    let offset ← offsetOf (Members.getD ms "offset")
    let count := isTrue (Members.getD ms "count")
    .ok {
      fields := if count then [.text "count"] else fieldsOf (Members.getD ms "fields")
      order := if count then [] else orderOf defaults (Members.getD ms "order")
      group := (Members.getD ms "group").asList
      limit, offset, matching, count
      typeAwareness := match Members.getText? ms "type_awareness" with
        | some v => isTrue v
        | none => defaults.typeAwareness
      documents := (Members.getD ms "documents").asList }

/-- The traits that a mapping gives. -/
def ofMembers (defaults : SearchDefaults) (ms : Members) : Result Traits :=
  ofCanonical defaults (canonicalMembers ms)

/-- The traits that a caller gives. -/
def ofValue (defaults : SearchDefaults) (v : Value) : Result Traits := do
  let ms ← membersOf v
  ofMembers defaults ms

/-- The name of the way to match. -/
def matchName : Predicate.Operator → String
  | .and => "all"
  | .or => "any"

/-- The traits as a mapping. -/
def toMembers (t : Traits) : Members :=
  [(.text "fields", .list t.fields), (.text "order", .list t.order),
   (.text "group", .list t.group),
   (.text "limit", (t.limit.map Limit.toValue).getD .null),
   (.text "offset", (t.offset.map fun n => Value.int n).getD .null),
   (.text "match", .text (matchName t.matching)), (.text "count", .bool t.count),
   (.text "type_awareness", .bool t.typeAwareness), (.text "documents", .list t.documents)]

/-- A limited number of rows in no order is most likely a mistake. -/
def warnings (t : Traits) : List LogLine :=
  if t.limit.isSome && t.order.isEmpty && !t.count then
    [.warning "Limit without ordering will yield unpredictable results"]
  else []

end Traits

/-- The traits of a search as callers hand them over: as a mapping, or in normal form. -/
inductive TraitsArgument where
  /-- A mapping. -/
  | given (v : Value)
  /-- In normal form. -/
  | prepared (t : Traits)

namespace TraitsArgument

/-- The normal form. -/
def resolve (defaults : SearchDefaults) : TraitsArgument → Result Traits
  | given v => Traits.ofValue defaults v
  | prepared t => .ok t

/-- The warnings of taking the normal form. -/
def warnings (defaults : SearchDefaults) : TraitsArgument → List LogLine
  | given v => match Traits.ofValue defaults v with
    | .ok t => t.warnings
    | .error _ => []
  | prepared _ => []

/-- The members, whether in normal form or not. -/
def members : TraitsArgument → Result Members
  | given v => Traits.membersOf v
  | prepared t => .ok t.toMembers

/-- The same traits, but for a count. -/
def counting (a : TraitsArgument) : Result TraitsArgument := do
  let ms ← a.members
  .ok (given (.dict (Members.insert (.text "count") (.bool true) ms)))

end TraitsArgument

end DocumentSql

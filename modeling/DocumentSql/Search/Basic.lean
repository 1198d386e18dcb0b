/-
Searches: from an entity, document types, a filter and traits to a statement.

A search is built in three steps: its traits are put into normal form, its document type is
resolved as far as it is needed, and under both the query is assembled. The count of a search is
the search with the trait `count`.
-/
import DocumentSql.Search.Query
import DocumentSql.Search.TypeNeed

namespace DocumentSql

/-- What searches depend on beside their arguments. -/
structure Environment where
  /-- The procedures of the server. -/
  procedures : Procedures
  /-- What the settings say about searches. -/
  defaults : SearchDefaults
  /-- The registered functions. -/
  functions : FunctionRegistry

/-- The arguments of a search, but for its traits. -/
structure Search where
  /-- The entity to search. -/
  entity : Entity
  /-- The document types to restrict the search to; nothing for all. -/
  documentType : Value
  /-- The filter specification. -/
  filter : Value

/-- What came of a search. -/
structure SearchReport where
  /-- The statement. -/
  result : Result CompiledQuery
  /-- The names that were looked up, in order. -/
  lookups : List Value
  /-- The log. -/
  log : List LogLine

namespace Search

/-- The relation expressions of a search: those of its traits, else those that its type
declares, if the search asks for the type. -/
def documentsOf (t : Traits) (type : Option DocumentType) : Result (List Value) :=
  if t.documents.isEmpty && t.typeAwareness then
    match type with
    | some d => d.documents
    | none => .ok []
  else .ok t.documents

/-- The keys that are selected: the related documents are added when there are any. -/
def selectedKeys (t : Traits) (documents : List Value) : List Value :=
  if !documents.isEmpty && !t.fields.any (fun f => f.same (.text "$documents")) && !t.count then
    t.fields ++ [.text "$documents"]
  else t.fields

/-- The keys of groups with the expressions that they are grouped by. -/
def groupedKeys : List Value → List Predicate → Result (List (FieldKey × Predicate))
  | item :: items, p :: ps => do
    let (k, _) ← groupKey item
    let rest ← groupedKeys items ps
    .ok ((k, p) :: rest)
  | _, _ => .ok []

/-- What the filter and the items of a search are compiled for. -/
def scope (env : Environment) (s : Search) (type : Option DocumentType)
    (documents : List Value) : Scope :=
  ⟨env.procedures, s.entity, (type.map DocumentType.toValue).getD .null, .list documents⟩

/-- The condition of a search: of the document types, and of the filter. -/
def condition (env : Environment) (s : Search) (t : Traits) (scope : Scope)
    (discriminator : Predicate) : Result Predicate := do
  let f ← Filter.parse env.functions t.matching s.filter
  let p ← Filter.compile? scope f
  Predicate.join [discriminator, p] .and

/-- The query of a search whose type is resolved. -/
def assemble (env : Environment) (s : Search) (t : Traits) (type : Option DocumentType)
    (discriminator : Predicate) : Result Query := do
  let documents ← documentsOf t type
  let scope := s.scope env type documents
  let condition ← s.condition env t scope discriminator
  let group ← groupItems scope t.group
  if t.count then
    .ok ⟨.count, s.entity.table, condition, [], [], group, .null, .null, [("count", "count")]⟩
  else
    let groups ← groupedKeys t.group group
    let fields ← fieldItems scope groups (selectedKeys t documents)
    let order ← orderItems env.functions scope t.order
    .ok ⟨.select, s.entity.table, condition, fields.map Prod.fst, order, group,
      (t.limit.map Limit.toValue).getD .null, (t.offset.map fun n => Value.int n).getD .null,
      FieldMap.putAll (fields.flatMap Prod.snd) []⟩

/-- The query of a search. -/
def build (env : Environment) (s : Search) (lookup : Option TypeLookup) (t : Traits) :
    Result Query := do
  let discriminator ← typeCondition s.entity s.documentType
  let need ← TypeNeed.ofSearch t s.documentType
  let type ← need.resolve lookup
  s.assemble env t type discriminator

/-- The statement that selects what a search finds. -/
def select (env : Environment) (s : Search) (lookup : Option TypeLookup)
    (traits : TraitsArgument) : Result CompiledQuery := do
  let t ← traits.resolve env.defaults
  let q ← s.build env lookup t
  q.compile

/-- The statement that counts what a search finds. -/
def count (env : Environment) (s : Search) (lookup : Option TypeLookup)
    (traits : TraitsArgument) : Result CompiledQuery := do
  let traits ← traits.counting
  s.select env lookup traits

/-- The names that are looked up when a search is built. -/
def lookups (env : Environment) (s : Search) (lookup : Option TypeLookup)
    (traits : TraitsArgument) : List Value :=
  let need : Result TypeNeed := do
    let t ← traits.resolve env.defaults
    let _ ← typeCondition s.entity s.documentType
    TypeNeed.ofSearch t s.documentType
  match need with
  | .ok need => need.lookups lookup
  | .error _ => []

/-- The warnings of taking the traits of a search. -/
def warnings (env : Environment) (traits : TraitsArgument) : List LogLine :=
  traits.warnings env.defaults

/-- What comes of a search whose traits are taken. -/
def reportOf (env : Environment) (s : Search) (lookup : Option TypeLookup) (isCount : Bool)
    (traits : TraitsArgument) : SearchReport :=
  match if isCount then traits.counting else .ok traits with
  | .error e => ⟨.error e, [], []⟩
  | .ok traits => ⟨s.select env lookup traits, s.lookups env lookup traits, warnings env traits⟩

/-- What comes of a search or a count. Traits may be prepared first, with warnings of their
own. -/
def report (env : Environment) (s : Search) (lookup : Option TypeLookup)
    (isCount isPrepared : Bool) (traits : Value) : SearchReport :=
  if isPrepared then
    match Traits.ofValue env.defaults traits with
    | .error e => ⟨.error e, [], []⟩
    | .ok t =>
      let r := s.reportOf env lookup isCount (.prepared t)
      { r with log := t.warnings ++ r.log }
  else s.reportOf env lookup isCount (.given traits)

theorem report_result_of_counting (env : Environment) (s : Search) (lookup : Option TypeLookup)
    (traits : TraitsArgument) :
    (s.reportOf env lookup true traits).result = s.count env lookup traits := by
  unfold reportOf count
  cases traits.counting <;> rfl

end Search

end DocumentSql

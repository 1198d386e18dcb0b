/-
Indexes over fields.

The expression of an index is made by the same resolution and cast of the key as the conditions
of a search, so the index serves them. Its name is canonical, and its definition is accepted in
two forms: with the table as it is named, or qualified by its schema.
-/
import DocumentSql.Key.Resolve
import DocumentSql.Cast.Apply
import DocumentSql.Text.Case

namespace DocumentSql

/-- A letter or digit that a name of an index keeps. -/
def isSlugChar (c : Char) : Bool := c.isLower || c.isDigit

/-- The text with every run of other characters replaced by an underscore. The flag says that the
character before belongs to such a run. -/
def slugChars (inRun : Bool) : List Char → List Char
  | [] => []
  | c :: cs =>
    if isSlugChar c then c :: slugChars false cs
    else if inRun then slugChars true cs
    else '_' :: slugChars true cs

/-- The text in lower case, with an underscore for every run of characters that are no ASCII
letters or digits. -/
def slug (s : String) : String := String.ofList (slugChars false (Text.lowerLatin s.toList))

/-- An index over one field of an entity. -/
structure IndexSpec where
  /-- The entity. -/
  entity : Entity
  /-- The key of the field. -/
  field : Value
  /-- The document type or schema that decides the cast. -/
  schema : Value
  /-- A column placed before the field, or nothing. -/
  typeField : Value
  /-- Equal values are refused. -/
  unique : Bool

namespace IndexSpec

/-- The column before the field belongs to the entity, if there is one. -/
def check (s : IndexSpec) : Result Unit :=
  if s.typeField.isNull then .ok ()
  else match s.typeField.asText? with
    | some c => if s.entity.hasColumn c then .ok () else .error (.noColumn s.entity.name s.typeField)
    | none => .error (.noColumn s.entity.name s.typeField)

/-- The key of the field and its fragment. Keys without a value of their own cannot be indexed. -/
def resolved (procedures : Procedures) (s : IndexSpec) : Result (FieldKey × Predicate) := do
  let k ← FieldKey.parse s.field
  match k with
  | .all => .error (.notIndexable k.name)
  | k => do
    let p ← k.resolve procedures s.entity false (.list [])
    if p.params.isEmpty then .ok (k, p) else .error (.indexWithParameters k.name)

/-- The column before the field, if there is one. -/
def typeColumn (s : IndexSpec) : Option String := s.typeField.asText?

/-- The name of the field in the name of its index. -/
def fieldName (p : Predicate) : String :=
  let container := Members.getD p.origin "data_container"
  let key := (Members.getD p.origin "key").plainText
  if container.truth then container.plainText ++ "." ++ key else key

/-- The canonical name of the index. -/
def name (procedures : Procedures) (s : IndexSpec) : Result String := do
  let (_, p) ← s.resolved procedures
  .ok (String.intercalate "_"
    ([slug s.entity.table] ++ (s.typeColumn.map slug).toList ++ [slug (fieldName p)]) ++ "_index")

/-- The indexed expression as the catalog reports it. -/
def expression (procedures : Procedures) (s : IndexSpec) : Result String := do
  let (k, p) ← s.resolved procedures
  let kind ← CastKind.ofKey s.entity s.schema k
  let expr := Cast.indexExpression ((Cast.kind kind).applyTo p.text)
  .ok (match s.typeColumn with
    | some c => c ++ ", " ++ expr
    | none => expr)

/-- The table of the index, qualified by a schema that does not count as false. -/
def qualifiedTable (s : IndexSpec) (schemaName : Value) : String :=
  if schemaName.truth then schemaName.plainText ++ "." ++ s.entity.table else s.entity.table

/-- The statement that creates the index, with the table qualified by a schema. -/
def definition (procedures : Procedures) (s : IndexSpec) (schemaName : Value) :
    Result String := do
  let name ← s.name procedures
  let expr ← s.expression procedures
  .ok ("CREATE " ++ (if s.unique then "UNIQUE " else "") ++ "INDEX " ++ name ++ " ON " ++
    s.qualifiedTable schemaName ++ " USING btree (" ++ expr ++ ")")

/-- The two accepted forms of the definition. -/
def definitions (procedures : Procedures) (s : IndexSpec) (schemaName : Value) :
    Result (List String) := do
  let plain ← s.definition procedures .null
  let qualified ← s.definition procedures schemaName
  .ok [plain, qualified]

end IndexSpec

end DocumentSql

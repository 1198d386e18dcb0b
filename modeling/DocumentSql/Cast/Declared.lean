/-
Casts that declared types decide.

The JSON schema of a document type declares the types of its properties, nested ones under
`properties`. Numbers and truth values are cast to what they are, and everything else is text;
columns are never cast.
-/
import DocumentSql.Cast.Basic
import DocumentSql.Entity
import DocumentSql.Value.Equal

namespace DocumentSql

namespace Schema

/-- The properties that a schema declares: those of a document type or of a mapping. -/
def properties (schema : Value) : Value :=
  match schema with
  | .dict ms => (Members.getD ms "properties").orElse (.dict [])
  | _ => .dict []

/-- The schema of a document type, or the value itself. -/
def ofValue : Value → Value
  | .documentType _ _ schema _ => schema
  | v => v

/-- The node that a schema declares for a path. -/
def node? (properties : Value) : List String → Option Members
  | [] => none
  | part :: path =>
    match properties with
    | .dict ms =>
      match Members.getD ms part, path with
      | .dict node, [] => some node
      | .dict node, path => node? (Schema.properties (.dict node)) path
      | _, _ => none
    | _ => none

/-- The type that a node names: of a list of types the first one that is not `null`. -/
def nodeType? (node : Members) : Option String :=
  let named : Value := match Members.getD node "type" with
    | .list ts | .tuple ts => (ts.find? fun t => t.asText? != some "null").getD .null
    | t => t
  named.asText?

/-- The type that a schema declares for a key. -/
def declaredType? (schema : Value) : FieldKey → Option String
  | .path components => (node? (properties (ofValue schema)) components).bind nodeType?
  | _ => none

end Schema

namespace CastKind

/-- The cast of a value of a declared type. -/
def ofDeclared : Option String → CastKind
  | some "number" => numeric
  | some "integer" => numeric
  | some "boolean" => boolean
  | _ => text

/-- The cast of a key of an entity under a schema. -/
def ofKey (e : Entity) (schema : Value) (k : FieldKey) : Result CastKind :=
  match k with
  | .path _ => .ok (ofDeclared (Schema.declaredType? schema k))
  | .column c | .timestamp c =>
    if e.hasColumn c then .ok direct else .error (.noColumnForKey e.name (.text k.name))
  | .relations | .all => .ok direct

end CastKind

end DocumentSql

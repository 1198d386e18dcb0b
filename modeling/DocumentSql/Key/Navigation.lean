/-
The SQL expressions of keys.

A path is a navigation into the data container: one component by an arrow and a quoted name,
several by a hash arrow and an array literal. A column is its name; a moment may be taken as
milliseconds since the epoch.
-/
import DocumentSql.Key.Parse
import DocumentSql.Entity
import DocumentSql.Sql.Predicate
import DocumentSql.Value.Collection
import DocumentSql.Value.Literal

namespace DocumentSql

/-- How the value that a navigation reaches is taken. -/
inductive Access where
  /-- As JSON. -/
  | json
  /-- As text. -/
  | text
deriving DecidableEq

namespace Access

/-- The operator that reaches a member. -/
def member : Access → String
  | json => "->"
  | text => "->>"

/-- The operator that follows a path. -/
def path : Access → String
  | json => "#>"
  | text => "#>>"

end Access

/-- The expression that navigates from a container along a path. -/
def navigate (container : String) (access : Access) : List String → String
  | [name] => "(" ++ container ++ " " ++ access.member ++ " '" ++ name ++ "'::text)"
  | path => "(" ++ container ++ " " ++ access.path ++ " '\x7b" ++
      String.intercalate "," path ++ "\x7d')"

/-- The expression that navigates from a container along a collection of names. Several of them
must be texts. -/
def navigateAlong (container : String) (access : Access) (path : Value) : Result String :=
  match path.elements? with
  | none => .error (.fault .wrongType)
  | some [name] => .ok (navigate container access [name.plainText])
  | some names =>
    if names.all fun v => v.asText?.isSome then
      .ok (navigate container access (names.map fun v => v.asText?.getD ""))
    else .error (.fault .wrongType)

namespace FieldKey

/-- The fragment of a key that has parameters nowhere: all but the related documents, whose own
column it gives. -/
def resolveColumn (e : Entity) (epoch : Bool) (k : FieldKey) : Result Predicate :=
  match k with
  | path components =>
    Predicate.make (navigate e.container .json components) []
      [(.text "data_container", .text e.container), (.text "key", .text k.name)]
  | all => Predicate.make "*" [] [(.text "key", .text "*")]
  | timestamp c =>
    if !e.hasColumn c then .error (.noColumnForKey e.name (.text k.name))
    else if epoch then
      Predicate.make ("extract(epoch from " ++ c ++ ")*1000") [] [(.text "key", .text c)]
    else Predicate.make c [] [(.text "key", .text c)]
  | column c =>
    if !e.hasColumn c then .error (.noColumnForKey e.name (.text k.name))
    else Predicate.make c [] [(.text "key", .text c)]
  | relations => Predicate.make relationsColumn [] [(.text "key", .text relationsColumn)]

end FieldKey

end DocumentSql

/-
Keeping the indexes of a store as they are declared.

An index that is absent is created; one that is defined in an accepted form is left alone; any
other is dropped and created anew. What was created is compared with the catalog.
-/
import DocumentSql.Index.Spec
import DocumentSql.Catalog.Basic

namespace DocumentSql

/-- What was done about an index. -/
inductive IndexAction where
  /-- Nothing: it was as declared. -/
  | unchanged
  /-- It was created. -/
  | created
  /-- It was dropped and created anew. -/
  | rebuilt
deriving DecidableEq, Inhabited

/-- The name of an action. -/
def IndexAction.name : IndexAction → String
  | unchanged => "unchanged"
  | created => "created"
  | rebuilt => "rebuilt"

namespace Index

variable {σ : Type}

/-- The definition that the catalog reports is one of the accepted forms. -/
def isAccepted (definitions : List String) (actual : Value) : Bool :=
  match actual.asText? with
  | some s => definitions.contains s
  | none => false

/-- Creates an index and verifies its definition. -/
def create (x : Executor σ) (procedures : Procedures) (c : Catalog) (s : IndexSpec) :
    Run σ Unit := do
  let definition ← Run.ofResult (s.definition procedures .null)
  let _ ← x.run definition []
  let name ← Run.ofResult (s.name procedures)
  let actual ← c.indexDefinition x (.text name)
  let accepted ← Run.ofResult (s.definitions procedures c.schemaName)
  if isAccepted accepted actual then return ()
  else Run.fail (.indexDiffers name actual (.text definition))

/-- Makes sure that an index exists as it is declared. -/
def declare (x : Executor σ) (procedures : Procedures) (c : Catalog) (s : IndexSpec) :
    Run σ IndexAction := do
  Run.ofResult s.check
  let name ← Run.ofResult (s.name procedures)
  if !(← c.indexExists x (.text name)) then
    create x procedures c s
    Run.log (.info ("Created index " ++ name))
    return .created
  else
    let actual ← c.indexDefinition x (.text name)
    let accepted ← Run.ofResult (s.definitions procedures c.schemaName)
    if isAccepted accepted actual then return .unchanged
    else
      Run.log (.info ("Index " ++ name ++ " differs from its declaration, rebuilding"))
      let _ ← x.run ("DROP INDEX IF EXISTS " ++ name) []
      create x procedures c s
      return .rebuilt

/-- What is common to the indexes of a batch. -/
structure Batch where
  /-- The entity. -/
  entity : Entity
  /-- The document type or schema that decides casts. -/
  schema : Value
  /-- A column placed before every field, or nothing. -/
  typeField : Value
  /-- Equal values are refused. -/
  unique : Bool

/-- The index of a batch over one field. -/
def Batch.spec (b : Batch) (field : Value) : IndexSpec :=
  ⟨b.entity, field, b.schema, b.typeField, b.unique⟩

/-- The actions of a batch by field: a field that is listed again keeps its place and shows what
was done last. -/
abbrev Actions := List (Value × IndexAction)

/-- The actions with the action of a field set. -/
def Actions.put (field : Value) (action : IndexAction) : Actions → Actions
  | [] => [(field, action)]
  | a :: rest =>
    if a.1.same field then (a.1, action) :: rest else a :: Actions.put field action rest

/-- Declares the indexes of a batch over fields, in order, given the actions done before. -/
def declareFields (x : Executor σ) (procedures : Procedures) (c : Catalog) (b : Batch) :
    Actions → List Value → Run σ Actions
  | done, [] => return done
  | done, field :: fields => do
    let action ← declare x procedures c (b.spec field)
    declareFields x procedures c b (Actions.put field action done) fields

/-- Declares the indexes of a batch over a collection of fields. -/
def declareAll (x : Executor σ) (procedures : Procedures) (c : Catalog) (b : Batch)
    (fields : Value) : Run σ Actions := do
  let fields ← Run.ofResult (DocumentType.elements fields)
  declareFields x procedures c b [] fields

/-- Drops the index over a field; false, if there is none. -/
def drop (x : Executor σ) (procedures : Procedures) (c : Catalog) (s : IndexSpec) :
    Run σ Bool := do
  Run.ofResult s.check
  let name ← Run.ofResult (s.name procedures)
  if !(← c.indexExists x (.text name)) then return false
  else
    let _ ← x.run ("DROP INDEX " ++ name) []
    Run.log (.info ("Dropped index " ++ name))
    return true

end Index

end DocumentSql

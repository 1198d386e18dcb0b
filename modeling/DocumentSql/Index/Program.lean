/-
Programs over a catalog in memory: sequences of steps that declare and drop indexes, ask the
catalog about them, or change how it behaves. A step that fails does not end the program, and each
answer comes with the statements that its step sent.
-/
import DocumentSql.Catalog.Memory
import DocumentSql.Index.Sync

namespace DocumentSql

/-- A step of a program over a catalog. -/
inductive IndexStep where
  /-- Declares an index. -/
  | declare (spec : IndexSpec)
  /-- Declares indexes of fields, inside a transaction or not. -/
  | declareAll (batch : Index.Batch) (fields : Value) (isBracketed : Bool)
  /-- Drops an index. -/
  | drop (spec : IndexSpec)
  /-- Changes how definitions are reported. -/
  | report (form : Option ReportForm)
  /-- Stores a definition under a name. -/
  | put (name definition : Value)
  /-- Asks whether there is an index of a name. -/
  | ask (name : Value)
  /-- Asks for the definition under a name. -/
  | define (name : Value)
  /-- Lists the indexes of a table. -/
  | list (table : String)
  /-- Shows the catalog. -/
  | present
  /-- Fails. -/
  | fail (e : Error)

namespace IndexStep

/-- A pair as a list. -/
def pairValue (k v : Value) : Value := .list [k, v]

/-- Changes the catalog in memory. -/
def change (f : MemoryCatalog → MemoryCatalog) : Run MemoryCatalog Value := fun s =>
  (.ok .null, { s with store := f s.store })

/-- What a step does, and its answer. -/
def run (procedures : Procedures) (catalog : Catalog) : IndexStep → Run MemoryCatalog Value
  | declare spec => do
    let action ← Index.declare MemoryCatalog.executor procedures catalog spec
    return .text action.name
  | declareAll batch fields isBracketed => do
    let x := MemoryCatalog.executor
    let body := Index.declareAll x procedures catalog batch fields
    let actions ← if isBracketed then x.transaction body else body
    return .list (actions.map fun a => pairValue a.1 (.text a.2.name))
  | drop spec => do
    return .bool (← Index.drop MemoryCatalog.executor procedures catalog spec)
  | report form => change fun m => { m with form := form.getD m.form }
  | put name definition =>
    change fun m => { m with indexes := Members.insert name definition m.indexes }
  | ask name => do return .bool (← catalog.indexExists MemoryCatalog.executor name)
  | define name => catalog.indexDefinition MemoryCatalog.executor name
  | list table => do
    let ms ← catalog.listIndexes MemoryCatalog.executor table
    return .list (ms.map fun m => pairValue m.1 m.2)
  | present => return .text catalog.literal
  | fail e => Run.fail e

/-- The answer of a step, and the statements that it sent. -/
abbrev Answer := Result Value × List (String × List Value)

/-- Runs steps; gives their answers and what is left of the session. -/
def runAll (procedures : Procedures) (catalog : Catalog) :
    List IndexStep → Session MemoryCatalog → List Answer × Session MemoryCatalog
  | [], s => ([], s)
  | step :: steps, s =>
    let (r, s) := step.run procedures catalog s
    let sent := s.store.sent
    let (answers, s) := runAll procedures catalog steps { s with store := { s.store with sent := [] } }
    ((r, sent) :: answers, s)

end IndexStep

end DocumentSql

/-
A catalog held in memory.

It keeps definitions of indexes under their names and rows of document types, and understands the
statements that this library sends about them. How it reports a definition can be chosen: as it
was issued, with the table qualified by a schema, with another access method, or not at all. It
records every statement.
-/
import DocumentSql.Executor
import DocumentSql.Text.Cut

namespace DocumentSql

/-- How a definition is reported after an index was created. -/
inductive ReportForm where
  /-- As it was issued. -/
  | plain
  /-- With the table qualified by the schema. -/
  | qualify
  /-- With another access method. -/
  | mangle
  /-- Not at all. -/
  | forget
deriving DecidableEq, Inhabited

namespace ReportForm

/-- The form with a given name. -/
def ofName? : String → Option ReportForm
  | "plain" => some plain
  | "qualify" => some qualify
  | "mangle" => some mangle
  | "forget" => some forget
  | _ => none

end ReportForm

/-- A catalog held in memory. -/
structure MemoryCatalog where
  /-- The definitions of indexes under their names. -/
  indexes : Members
  /-- The rows of document types. -/
  types : List Members
  /-- How definitions are reported. -/
  form : ReportForm
  /-- The schema that qualifies tables. -/
  schemaName : String
  /-- The statements received, the earliest first. -/
  sent : List (String × List Value)

namespace MemoryCatalog

/-- What separates the name of an index from its table. -/
def separator : List Char := " ON ".toList

/-- What precedes and what follows the first occurrence of a part. -/
def cutFirst? (part : List Char) : List Char → Option (List Char × List Char)
  | [] => if part.isEmpty then some ([], []) else none
  | c :: cs =>
    match Text.after? part (c :: cs) with
    | some rest => some ([], rest)
    | none => (cutFirst? part cs).map fun (before, after) => (c :: before, after)

/-- The text with every occurrence of one part replaced by another. -/
def replaceAll (part replacement : List Char) : Nat → List Char → List Char
  | 0, cs => cs
  | fuel + 1, cs =>
    match cutFirst? part cs with
    | none => cs
    | some (before, after) => before ++ replacement ++ replaceAll part replacement fuel after

/-- The last word of a text. -/
def lastWord (cs : List Char) : List Char :=
  let trimmed := cs.reverse.dropWhile (· == ' ')
  (trimmed.takeWhile (· != ' ')).reverse

/-- The name of the index that a statement creates. -/
def createdName (text : String) : String :=
  let head := match cutFirst? separator text.toList with
    | some (before, _) => before
    | none => text.toList
  String.ofList (lastWord head)

/-- The definition that is reported for a statement that created an index. -/
def reported? (m : MemoryCatalog) (text : String) : Option String :=
  match m.form with
  | .plain => some text
  | .forget => none
  | .qualify =>
    some (match cutFirst? separator text.toList with
      | some (before, after) =>
        String.ofList (before ++ separator ++ (m.schemaName ++ ".").toList ++ after)
      | none => text)
  | .mangle =>
    some (match cutFirst? separator text.toList with
      | some (before, after) =>
        String.ofList (before ++ separator ++
          replaceAll "USING btree".toList "USING hash".toList after.length after)
      | none => text)

/-- The text begins with a word or words. -/
def begins (words text : String) : Bool := words.toList.isPrefixOf text.toList

/-- The catalog with a statement recorded. -/
def record (m : MemoryCatalog) (text : String) (params : List Value) : MemoryCatalog :=
  { m with sent := m.sent ++ [(text, params)] }

/-- The members without one key. -/
def without (ms : Members) (key : Value) : Members := ms.filter fun m => !m.1.same key

/-- The second parameter of a statement. -/
def second (params : List Value) : Value := (params[1]?).getD .null

/-- The rows that answer a statement, and the catalog after it. -/
def answer (m : MemoryCatalog) (text : String) (params : List Value) :
    List Members × MemoryCatalog :=
  if begins "SELECT 1 FROM pg_indexes" text then
    ((if (Members.get? m.indexes (second params)).isSome then [[(.text "exists", .int 1)]]
      else []), m)
  else if begins "SELECT indexdef" text then
    ((match Members.get? m.indexes (second params) with
      | some d => [[(.text "indexdef", d)]]
      | none => []), m)
  else if begins "SELECT indexname" text then
    (m.indexes.map fun i => [(.text "indexname", i.1), (.text "indexdef", i.2)], m)
  else if begins "SELECT * FROM types" text then
    (m.types.filter fun row =>
      (Members.getD row "name").same ((params.head?).getD .null), m)
  else if begins "DROP INDEX" text then
    ([], { m with indexes := without m.indexes (.text (String.ofList (lastWord text.toList))) })
  else if begins "CREATE" text then
    match m.reported? text with
    | some d =>
      ([], { m with indexes := Members.insert (.text (createdName text)) (.text d) m.indexes })
    | none => ([], m)
  else ([], m)

/-- Runs a statement. -/
def execute (text : String) (params : List Value) (m : MemoryCatalog) :
    Result (List Members) × MemoryCatalog :=
  let (rows, m) := (m.record text params).answer text params
  (.ok rows, m)

/-- Records the bracket of a transaction. Changes are not undone. -/
def bracket (text : String) (m : MemoryCatalog) : Result Unit × MemoryCatalog :=
  (.ok (), m.record text [])

/-- Runs statements on a catalog in memory. -/
def executor : Executor MemoryCatalog :=
  ⟨execute, bracket "BEGIN", bracket "COMMIT", bracket "ROLLBACK"⟩

end MemoryCatalog

end DocumentSql

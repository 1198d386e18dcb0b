/-
Running the commands of the console.

A run starts from settings and a store that indexes are declared in. It ends with the text that is
printed, the settings, the state of the store and the log.
-/
import DocumentSql.Console.Command
import DocumentSql.Connection.Open
import DocumentSql.Index.Sync
import DocumentSql.Json.Write
import DocumentSql.Search.Basic

namespace DocumentSql.Console

/-- How a run ends. -/
inductive Ending where
  /-- The command was done. -/
  | done
  /-- The run ends with a status before there is a command. -/
  | status (code : Nat)
  /-- The command failed. -/
  | failed (e : Error)

/-- What came of a run. -/
structure Outcome (σ : Type) where
  /-- How it ended. -/
  ending : Ending
  /-- What was printed. -/
  output : String
  /-- The settings. -/
  settings : Settings
  /-- The store and the log. -/
  session : Session σ

/-- The usual environment of searches under settings. -/
def environment (s : Settings) (functions : FunctionRegistry) : Environment :=
  ⟨s.serverProcedures, ⟨.text s.defaultOrder, s.typeAwareness⟩, functions⟩

/-! ### Settings -/

/-- The settings with a field of the database that is given and not empty. -/
def withField (name : String) (given : Option String) (s : Settings) : Settings :=
  match given with
  | some v => if v.isEmpty then s else s.keep (.field .database name) (.plain (.text v))
  | none => s

/-- The settings with a login. -/
def withLogin (l : Login) (s : Settings) : Settings :=
  withField "host" l.host (withField "password" l.password (withField "user" l.user s))

/-! ### Compiling -/

/-- The document type of a search: names, or the only type with its schema. -/
def documentType (c : CompileCommand) : Result Value :=
  if c.schema.isNull then .ok (if c.types.isEmpty then .null else .list c.types)
  else match c.types with
    | [name] => .ok (.documentType name .null c.schema (.dict []))
    | _ => .error .schemaWithoutType

/-- The statement of a search. -/
def compiled (env : Environment) (c : CompileCommand) : Result CompiledQuery × List LogLine :=
  match Entity.ofName (.text c.entity), documentType c with
  | .error e, _ => (.error e, [])
  | _, .error e => (.error e, [])
  | .ok entity, .ok type =>
    let search : Search := ⟨entity, type, c.filter⟩
    let traits : TraitsArgument := .given c.traits
    if c.isCount then
      (search.count env none traits, match traits.counting with
        | .ok traits => Search.warnings env traits
        | .error _ => [])
    else (search.select env none traits, Search.warnings env traits)

/-- A statement as a mapping. -/
def queryValue (q : CompiledQuery) : Value :=
  .dict [(.text "text", .text q.text), (.text "params", .list q.params),
    (.text "field_map", .dict (q.fieldMap.map fun m => (.text m.1, .text m.2)))]

/-- The text that is printed for a statement. -/
def queryText (q : CompiledQuery) : Result String :=
  match Json.writeReadable 2 (queryValue q) with
  | .ok s => .ok (s ++ "\n")
  | .error _ => .error (.fault .wrongType)

/-- Runs `compile`. -/
def compile {σ : Type} (env : Environment) (c : CompileCommand) : Run σ String := fun s =>
  let (q, lines) := compiled env c
  (q >>= queryText, { s with log := s.log ++ lines })

/-! ### Indexing -/

/-- The type of a name, which must be the only one. -/
def onlyType {σ : Type} (x : Executor σ) (name : Option String) : Run σ Value :=
  match name with
  | none => return .null
  | some name =>
    if name.isEmpty then return .null
    else do
      match ← Catalog.lookUpTypes x (.text name) with
      | [t] => return t.toValue
      | found => Run.fail (.typeCount (.text name) found.length)

/-- The text that is printed for what was done. -/
def actionsText (actions : Index.Actions) : String :=
  String.join (actions.map fun a => a.1.plainText ++ ": " ++ a.2.name ++ "\n")

/-- Runs `index`: the indexes are declared inside one transaction. -/
def index {σ : Type} (x : Executor σ) (s : Settings) (c : IndexCommand) : Run σ String := do
  let entity ← Run.ofResult (Entity.ofName (.text c.entity))
  let schema ← onlyType x c.type
  let catalog := Catalog.ofSchema .null (s.field .database "schema_name")
  let batch : Index.Batch :=
    ⟨entity, schema, (c.typeField.map .text).getD .null, c.isUnique⟩
  let actions ← x.transaction
    (Index.declareAll x s.serverProcedures catalog batch (.list (c.fields.map .text)))
  return actionsText actions

/-! ### Runs -/

/-- The status and the text of a command line that is not read to its end. -/
def stopped : Stop → Nat × String
  | .misuse => (2, "")
  | .help => (0, "")
  | .version => (0, "docstore " ++ version ++ "\n")

/-- Runs a command line. -/
def run {σ : Type} (x : Executor σ) (functions : FunctionRegistry) (argv : List String)
    (s : Settings) (store : σ) : Outcome σ :=
  match readCommand argv with
  | .error stop =>
    let (code, text) := stopped stop
    ⟨.status code, text, s, ⟨store, []⟩⟩
  | .ok (login, command) =>
    let s := withLogin login s
    let body : Run σ String := match command with
      | .compile c => compile (environment s functions) c
      | .index c => index x s c
    match body ⟨store, []⟩ with
    | (.ok text, session) => ⟨.done, text, s, session⟩
    | (.error e, session) => ⟨.failed e, "", s, session⟩

end DocumentSql.Console

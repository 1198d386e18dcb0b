/-
The program: it runs the command line it is given. Statements about indexes run on a catalog in
memory, which starts empty.
-/
import DocumentSql.Catalog.Memory
import DocumentSql.Console.Run

namespace DocumentSql

/-- The environment variables that settings are taken from. -/
def settingVariables : List String :=
  SettingGroup.database.fields.map (fun f => "DOCSTORE_" ++ f.name.toUpper) ++
  SettingGroup.procedures.fields.map (fun f => "DOCSTORE_PROCEDURE_" ++ f.name.toUpper) ++
  ["DOCSTORE_DATABASE", "DOCSTORE_PROCEDURES", "LOGLEVEL", "DOCSTORE_LOG_LEVEL",
   "TYPE_AWARENESS", "DOCSTORE_TYPE_AWARENESS", "DOCSTORE_TIMEOUT", "DOCSTORE_DEFAULT_ORDER"]

/-- The variables that are set, with their values. -/
def readVariables (names : List String) : IO (List (String × String)) := do
  let found ← names.mapM fun name => do
    let value ← IO.getEnv name
    pure (value.map fun v => (name, v))
  pure (found.filterMap id)

/-- The class and the words of an error. -/
def errorText (e : Error) : String :=
  match e.kind? with
  | some kind => kind.name ++ ": " ++ e.message
  | none => e.message

/-- The exit code of a run. -/
def exitCode : Console.Ending → UInt32
  | .done => 0
  | .status code => code.toUInt32
  | .failed _ => 1

/-- Runs a command line, prints what it prints, and shows the log and the error beside. -/
def runCommandLine (argv : List String) (s : Settings) : IO UInt32 := do
  let store : MemoryCatalog := ⟨[], [], .plain, (s.field .database "schema_name").plainText, []⟩
  let o := Console.run MemoryCatalog.executor [] argv s store
  IO.print o.output
  for line in LogLine.shown o.settings.level o.session.log do
    IO.eprintln ("[" ++ line.level.name ++ "]: " ++ line.text)
  match o.ending with
  | .failed e => IO.eprintln (errorText e)
  | _ => pure ()
  pure (exitCode o.ending)

end DocumentSql

def main (argv : List String) : IO UInt32 := do
  let given ← DocumentSql.readVariables DocumentSql.settingVariables
  match DocumentSql.Settings.ofEnviron (DocumentSql.Environ.ofVariables given) with
  | .ok s => DocumentSql.runCommandLine argv s
  | .error _ =>
    IO.eprintln "The settings in the environment are malformed"
    pure 1

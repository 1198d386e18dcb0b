/-
Settings as texts: the readable form of all settings, and files that hold the declared ones as a
JSON object of dotted keys.
-/
import DocumentSql.Settings.Basic
import DocumentSql.Json.Write
import DocumentSql.Value.Readable

namespace DocumentSql.Settings

/-- Entries as a mapping. -/
def mapping (es : List (String × Value)) : Value := .dict (es.map fun e => (.text e.1, e.2))

/-- All settings in readable form. -/
def readable (s : Settings) : Result String :=
  s.flatten.map fun es => (mapping (s.extra.foldl (fun acc e => put e.1 e.2 acc) es)).readable .usual

/-- The text of a file that holds the declared settings. -/
def fileText (s : Settings) : Result String := do
  match Json.writeIndented 4 (mapping (← s.flatten)) with
  | .ok text => pure text
  | .error _ => .error (.fault .wrongType)

/-- The line of the log when settings are saved. -/
def savedLine (path : String) : LogLine := .info ("Saved settings in " ++ path)

/-- The line of the log when settings are loaded. -/
def loadedLine (path : String) : LogLine := .info ("docstore is configured from " ++ path)

/-- Assigns the settings of a file in order, up to the first one that is refused. The line of the
log is written once the text is known to be JSON. -/
def load (path text : String) (s : Settings) : Result Unit × Settings × List LogLine :=
  match Json.read? text with
  | none => (.error (.fault .malformedJson), s, [])
  | some v =>
    let lines := LogLine.shown s.level [loadedLine path]
    match v with
    | .dict ms =>
      let (r, s) := assignAll (ms.map fun (k, v) => (k.plainText, v)) s
      (r, s, lines)
    | _ => (.error (.fault .missingAttribute), s, lines)

end DocumentSql.Settings

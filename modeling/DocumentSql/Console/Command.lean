/-
The commands of the console.

`compile` prints the statement of a search, `index` declares indexes. Options in front of the
command say where and as whom to connect.
-/
import DocumentSql.Console.Grammar
import DocumentSql.Value.Collection

namespace DocumentSql.Console

/-! ### Grammars -/

/-- The options in front of the command. The short name of the host leaves none to the help. -/
def mainGrammar : Grammar :=
  ⟨[.stopping .help ["--help"], .stopping .version ["-V", "--version"],
    .text "user" ["-u", "--user"], .text "password" ["-p", "--password"],
    .text "host" ["-h", "--host"]], .rest⟩

/-- The options of `compile`; its operand is the entity. -/
def compileGrammar : Grammar :=
  ⟨[.stopping .help ["-h", "--help"], ⟨"type", ["-t", "--type"], .some, false, none⟩,
    .json "where" ["-w", "--where"], .json "traits" ["--traits"],
    .json "type_schema" ["--type-schema"], .flag "count" ["--count"]], .one⟩

/-- The options of `index`; its operands are the fields. -/
def indexGrammar : Grammar :=
  ⟨[.stopping .help ["-h", "--help"], .text "entity" ["-e", "--entity"],
    .text "type" ["-t", "--type"], .text "typefield" ["--typefield"],
    .flag "unique" ["--unique"], .flag "progress" ["--progress"]], .some⟩

/-! ### Commands -/

/-- Where and as whom to connect, as far as it is given. -/
structure Login where
  /-- The user. -/
  user : Option String
  /-- The password. -/
  password : Option String
  /-- The host. -/
  host : Option String

/-- Prints the statement of a search. -/
structure CompileCommand where
  /-- The entity. -/
  entity : String
  /-- The names of the document types. -/
  types : List Value
  /-- The filter. -/
  filter : Value
  /-- The traits. -/
  traits : Value
  /-- The JSON schema of the document type. -/
  schema : Value
  /-- The number of documents is wanted. -/
  isCount : Bool

/-- Declares indexes. -/
structure IndexCommand where
  /-- The keys to index. -/
  fields : List String
  /-- The entity. -/
  entity : String
  /-- The document type whose schema decides casts. -/
  type : Option String
  /-- The column placed before every key. -/
  typeField : Option String
  /-- Equal values are refused. -/
  isUnique : Bool

/-- A command. -/
inductive Command where
  /-- Prints the statement of a search. -/
  | compile (c : CompileCommand)
  /-- Declares indexes. -/
  | index (c : IndexCommand)

/-- A command that a reading gives, and what is left over of it. -/
abbrev CommandReading := Command × List String

/-- Reads the words behind `compile`. -/
def readCompile (argv : List String) : Except Stop CommandReading := do
  let r ← compileGrammar.read argv
  match r.operands with
  | some [entity] =>
    .ok (.compile ⟨entity, (r.valueD "type").asList, r.valueD "where", r.valueD "traits",
      r.valueD "type_schema", r.has "count"⟩, r.extras)
  | _ => .error .misuse

/-- Reads the words behind `index`. -/
def readIndex (argv : List String) : Except Stop CommandReading := do
  let r ← indexGrammar.read argv
  match r.operands with
  | some fields =>
    .ok (.index ⟨fields, (r.text? "entity").getD "Document", r.text? "type", r.text? "typefield",
      r.has "unique"⟩, r.extras)
  | none => .error .misuse

/-- Reads a command line. Nothing may be left over of it. -/
def readCommand (argv : List String) : Except Stop (Login × Command) := do
  let r ← mainGrammar.read argv
  let (command, extras) ← match r.operands with
    | some ("compile" :: rest) => readCompile rest
    | some ("index" :: rest) => readIndex rest
    | _ => .error .misuse
  if (r.extras ++ extras).isEmpty then
    .ok (⟨r.text? "user", r.text? "password", r.text? "host"⟩, command)
  else .error .misuse

end DocumentSql.Console

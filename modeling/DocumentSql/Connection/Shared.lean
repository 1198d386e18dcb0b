/-
The connection that modules share.

It is opened when it is first asked for, and again only on demand. What is neither given nor
configured is asked of the user.
-/
import DocumentSql.Connection.Open

namespace DocumentSql

/-- What the shared connection is asked for with. -/
structure SharedArguments where
  /-- The host. -/
  host : Value
  /-- The user. -/
  user : Value
  /-- The password. -/
  password : Value
  /-- A new connection is wanted. -/
  reset : Value
  /-- An encrypted connection is required, refused, or preferred when nothing is said. -/
  useTls : Value

namespace SharedArguments

/-- The names of the arguments. -/
def names : List String := ["host", "user", "password", "reset", "use_tls"]

/-- The arguments given by name. -/
def ofMembers (given : List (String × Value)) : Result SharedArguments :=
  if given.any (fun m => !names.contains m.1) then .error (.fault .wrongType)
  else
    let orNull (name : String) := (given.lookup name).getD .null
    .ok ⟨orNull "host", orNull "user", orNull "password", orNull "reset", orNull "use_tls"⟩

end SharedArguments

/-- Questions asked of the user, and the answers that are left. -/
structure Dialogue where
  /-- The questions, in order. -/
  prompts : List String
  /-- The answers that were not used yet. -/
  answers : List String

namespace Dialogue

/-- The value, or the answer of the user when there is none. -/
def orAsk (prompt : String) (v : Value) (d : Dialogue) : Result Value × Dialogue :=
  if v.isNull then
    match d.answers with
    | [] => (.error (.fault .outOfRange), { d with prompts := d.prompts ++ [prompt] })
    | a :: answers => (.ok (.text a), ⟨d.prompts ++ [prompt], answers⟩)
  else (.ok v, d)

/-- The user and the password, asked for in this order. -/
def credentials (user password : Value) (d : Dialogue) : Result (Value × Value) × Dialogue :=
  match orAsk "Please enter docstore username: " user d with
  | (.error e, d) => (.error e, d)
  | (.ok user, d) => match orAsk "Please enter docstore password: " password d with
    | (.error e, d) => (.error e, d)
    | (.ok password, d) => (.ok (user, password), d)

end Dialogue

/-- The connections that were shared so far; the last one is shared now. -/
structure SharedConnections (σ : Type) where
  /-- The connections, in order. -/
  made : List (Connection σ)

/-- What came of asking for the shared connection. -/
structure SharedAnswer (σ : Type) where
  /-- The connection, with its number. -/
  result : Result (Nat × Connection σ)
  /-- What the driver was asked to connect with, if it came to that. -/
  request : Option ConnectRequest
  /-- The questions asked of the user. -/
  prompts : List String
  /-- The log. -/
  log : List LogLine
  /-- The connections from now on. -/
  connections : SharedConnections σ

namespace SharedConnections

variable {σ : Type}

/-- No connection was shared yet. -/
def empty : SharedConnections σ := ⟨[]⟩

/-- The connection that is shared now, with its number. -/
def current? (cs : SharedConnections σ) : Option (Nat × Connection σ) :=
  cs.made.getLast?.map fun c => (cs.made.length - 1, c)

/-- The value, or the setting of the database when there is none. -/
def orSetting (s : Settings) (name : String) (v : Value) : Value :=
  if v.isNull then s.field .database name else v

/-- Opens a connection to be shared. A connection that cannot be opened leaves the old one. -/
def renew (d : Driver σ) (connect : ConnectRequest → Except String σ) (s : Settings)
    (answers : List String) (a : SharedArguments) (cs : SharedConnections σ) : SharedAnswer σ :=
  match Dialogue.credentials (orSetting s "user" a.user) (orSetting s "password" a.password)
      ⟨[], answers⟩ with
  | (.error e, dialogue) => ⟨.error e, none, dialogue.prompts, [], cs⟩
  | (.ok (user, password), dialogue) =>
    let arguments : ConnectionArguments :=
      ⟨orSetting s "host" a.host, user, password, .null, .null, orSetting s "use_tls" a.useTls⟩
    let opening := Connection.establish d connect s arguments
    match opening.result with
    | .error e => ⟨.error e, opening.request, dialogue.prompts, opening.log, cs⟩
    | .ok c => ⟨.ok (cs.made.length, c), opening.request, dialogue.prompts, opening.log,
        ⟨cs.made ++ [c]⟩⟩

/-- The shared connection, opened when there is none or a new one is wanted. -/
def get (d : Driver σ) (connect : ConnectRequest → Except String σ) (s : Settings)
    (answers : List String) (a : SharedArguments) (cs : SharedConnections σ) : SharedAnswer σ :=
  match cs.current? with
  | some current =>
    if a.reset.truth then cs.renew d connect s answers a
    else ⟨.ok current, none, [], [], cs⟩
  | none => cs.renew d connect s answers a

end SharedConnections

end DocumentSql

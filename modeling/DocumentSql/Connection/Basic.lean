/-
Connections: statements and transactions over a driver.

The driver is whatever sends statements to a server. A connection keeps beside it whether a
transaction is open; the answer holds only as long as the server is connected. Transactions are
not nested.
-/
import DocumentSql.Connection.DriverQuery
import DocumentSql.Connection.ServerError
import DocumentSql.Executor

namespace DocumentSql

/-- What sends statements to a server. -/
structure Driver (σ : Type) where
  /-- Sends a statement; answers its rows, if it has a result set. -/
  send : DriverQuery → σ → Except ServerError (Option (List Members)) × σ
  /-- Closes the connection. -/
  close : σ → σ
  /-- The connection is open. -/
  isOpen : σ → Bool

/-- Where and as whom a connection is made. -/
structure ConnectionInfo where
  /-- The host. -/
  host : Value
  /-- The port. -/
  port : Value
  /-- The user. -/
  user : Value
  /-- The password. -/
  password : Value
  /-- The database. -/
  database : Value
deriving Inhabited

namespace ConnectionInfo

/-- The user and the place. -/
def address (i : ConnectionInfo) : String :=
  i.user.plainText ++ "@" ++ i.host.plainText ++ ":" ++ i.port.plainText

end ConnectionInfo

/-- A connection. -/
structure Connection (σ : Type) where
  /-- Where and as whom it was made. -/
  info : ConnectionInfo
  /-- The state of the driver. -/
  server : σ
  /-- A transaction was opened and not closed since. -/
  isPending : Bool

namespace Connection

variable {σ : Type}

/-- The connection is open. -/
def isConnected (d : Driver σ) (c : Connection σ) : Bool := d.isOpen c.server

/-- A transaction is open. -/
def inTransaction (d : Driver σ) (c : Connection σ) : Bool := c.isPending && c.isConnected d

/-- The connection with its pending transaction forgotten when it is not connected. -/
def refreshed (d : Driver σ) (c : Connection σ) : Connection σ :=
  { c with isPending := c.inTransaction d }

/-- The connection as it is shown. -/
def literal (d : Driver σ) (c : Connection σ) : String :=
  "docstore connection (" ++ (if c.isConnected d then "connected" else "disconnected") ++ ") " ++
    c.info.address

/-- Sends a statement with parameters; answers its rows, if it has a result set. -/
def query (d : Driver σ) (text : String) (params : Value) (c : Connection σ) :
    Result (Option (List Members)) × Connection σ :=
  match DriverQuery.make text params with
  | .error e => (.error e, c)
  | .ok q =>
    match d.send q c.server with
    | (.ok rows, server) => (.ok rows, { c with server })
    | (.error e, server) => (.error (e.toError text), { c with server })

/-- Sends a statement with parameters; answers its rows, none if it has no result set. -/
def execute (d : Driver σ) (text : String) (params : Value) (c : Connection σ) :
    Result (List Members) × Connection σ :=
  match c.query d text params with
  | (.ok rows, c) => (.ok (rows.getD []), c)
  | (.error e, c) => (.error e, c)

/-- Sends a statement that opens or closes a transaction. -/
def bracket (d : Driver σ) (text : String) (isPending : Bool) (c : Connection σ) :
    Result Unit × Connection σ :=
  match c.query d text (.list []) with
  | (.ok _, c) => (.ok (), { c with isPending })
  | (.error e, c) => (.error e, c)

/-- Opens a transaction. -/
def start (d : Driver σ) (c : Connection σ) : Result Unit × Connection σ :=
  let c := c.refreshed d
  if c.isPending then (.error .nestedTransaction, c) else c.bracket d "BEGIN" true

/-- Closes a transaction and drops its changes. -/
def cancel (d : Driver σ) (c : Connection σ) : Result Unit × Connection σ :=
  c.bracket d "ROLLBACK" false

/-- Closes a transaction and keeps its changes. -/
def commit (d : Driver σ) (c : Connection σ) : Result Unit × Connection σ :=
  c.bracket d "COMMIT" false

/-- Closes the connection. -/
def close (d : Driver σ) (c : Connection σ) : Connection σ :=
  { c with server := d.close c.server }

/-- Runs statements on a connection. -/
def executor (d : Driver σ) : Executor (Connection σ) :=
  ⟨fun text params c => c.execute d text (.list params), start d, commit d, cancel d⟩

end Connection

end DocumentSql

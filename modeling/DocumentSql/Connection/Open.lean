/-
Opening connections.

The host may name the port behind a colon. What is not given comes from the settings. A new
connection tells the server after how long a statement is given up, unless that is switched off.
-/
import DocumentSql.Connection.Basic
import DocumentSql.Settings.Basic

namespace DocumentSql

/-- The version of this library. -/
def version : String := "0.3.0"

/-- What a connection is opened with. -/
structure ConnectionArguments where
  /-- The host, with or without its port. -/
  host : Value
  /-- The user. -/
  user : Value
  /-- The password. -/
  password : Value
  /-- The port, unless the host names it. -/
  port : Value
  /-- The database. -/
  database : Value
  /-- An encrypted connection is required, refused, or preferred when nothing is said. -/
  useTls : Value

/-- What the driver is asked to connect with. -/
structure ConnectRequest where
  /-- How much encryption matters. -/
  sslMode : String
  /-- The seconds to wait. -/
  connectTimeout : Value
  /-- Where and as whom. -/
  info : ConnectionInfo

namespace ConnectionArguments

/-- The names of the arguments. -/
def names : List String := ["host", "user", "password", "port", "dbname", "use_tls"]

/-- The arguments given by name. Host, user and password are required. -/
def ofMembers (given : List (String × Value)) : Result ConnectionArguments :=
  if given.any (fun m => !names.contains m.1) then .error (.fault .wrongType)
  else match given.lookup "host", given.lookup "user", given.lookup "password" with
    | some host, some user, some password =>
      let orNull (name : String) := (given.lookup name).getD .null
      .ok ⟨host, user, password, orNull "port", orNull "dbname", orNull "use_tls"⟩
    | _, _, _ => .error (.fault .wrongType)

/-- The host and the port that a host with a colon names. -/
def splitHost (host : String) : Result (Value × Value) :=
  match Text.split ':' host with
  | [host, port] => match Numeral.integer? port with
    | some n => .ok (.text host, .int n)
    | none => .error (.fault .wrongValue)
  | _ => .error (.fault .wrongValue)

/-- The host and the port. Only a text can name a port. -/
def hostAndPort (s : Settings) (a : ConnectionArguments) : Result (Value × Value) :=
  let port := if a.port.isNull then s.field .database "port" else a.port
  match a.host.asText? with
  | some host => if host.contains ':' then splitHost host else .ok (a.host, port)
  | none => match a.host with
    | .list xs | .tuple xs | .set xs =>
      if xs.any (·.same (.text ":")) then .error (.fault .missingAttribute) else .ok (a.host, port)
    | .dict ms =>
      if ms.any (·.1.same (.text ":")) then .error (.fault .missingAttribute) else .ok (a.host, port)
    | _ => .error (.fault .wrongType)

/-- How much encryption matters. -/
def sslMode (a : ConnectionArguments) : String :=
  match a.useTls with
  | .bool false => "disable"
  | .bool true => "require"
  | _ => "prefer"

/-- What the driver is asked to connect with. -/
def request (s : Settings) (a : ConnectionArguments) : Result ConnectRequest := do
  let (host, port) ← a.hostAndPort s
  let database := a.database.orElse (s.field .database "dbname")
  pure ⟨a.sslMode, s.field .database "connect_timeout", ⟨host, port, a.user, a.password, database⟩⟩

end ConnectionArguments

/-- What came of opening a connection. -/
structure Opening (σ : Type) where
  /-- What the driver was asked to connect with, if it came to that. -/
  request : Option ConnectRequest
  /-- The connection. -/
  result : Result (Connection σ)
  /-- The log. -/
  log : List LogLine

namespace Connection

variable {σ : Type}

/-- Tells the server after how long a statement is given up. -/
def setTimeout (d : Driver σ) (milliseconds : Nat) (c : Connection σ) :
    Result Unit × Connection σ :=
  if milliseconds == 0 then (.ok (), c)
  else match c.query d ("SET statement_timeout = " ++ toString milliseconds) (.list []) with
    | (.ok _, c) => (.ok (), c)
    | (.error e, c) => (.error e, c)

/-- The line of the log when a connection is opened. -/
def openedLine (i : ConnectionInfo) : LogLine :=
  .info ("docstore " ++ version ++ " connected to " ++ i.address)

/-- Opens a connection. The driver gives its state, or the reason why there is no connection. -/
def establish (d : Driver σ) (connect : ConnectRequest → Except String σ) (s : Settings)
    (a : ConnectionArguments) : Opening σ :=
  match a.request s with
  | .error e => ⟨none, .error e, []⟩
  | .ok r => match connect r with
    | .error reason => ⟨some r, .error (.connectionFailed r.info.address reason), []⟩
    | .ok server => match setTimeout d s.timeout ⟨r.info, server, false⟩ with
      | (.ok (), c) => ⟨some r, .ok c, [openedLine r.info]⟩
      | (.error e, _) => ⟨some r, .error e, []⟩

end Connection

end DocumentSql

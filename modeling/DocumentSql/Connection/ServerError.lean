/-
The errors of the driver, and what they mean.

The driver has a small hierarchy of classes. An error without a code from a class of lost
connections means that the connection is gone; otherwise the code of the server decides.
-/
import DocumentSql.Error

namespace DocumentSql

namespace ServerError

/-- The classes of the driver, each with the wider classes that it belongs to. -/
def classes : List (String × List String) :=
  [("Warning", []), ("Error", []), ("InterfaceError", ["Error"]), ("DatabaseError", ["Error"]),
   ("OperationalError", ["DatabaseError", "Error"]),
   ("ProgrammingError", ["DatabaseError", "Error"]),
   ("IntegrityError", ["DatabaseError", "Error"]), ("DataError", ["DatabaseError", "Error"]),
   ("InternalError", ["DatabaseError", "Error"]),
   ("NotSupportedError", ["DatabaseError", "Error"])]

/-- The wider classes of a class of the driver. -/
def wider? (className : String) : Option (List String) :=
  (classes.find? (·.1 == className)).map Prod.snd

/-- The names of the classes of an error, the narrowest first: a class of the driver is extended
by one of the same name. -/
def ancestry (e : ServerError) : List String :=
  match wider? e.className with
  | some wider => e.className :: e.className :: wider
  | none => [e.className]

/-- The error comes from the driver. -/
def isDriverError (e : ServerError) : Bool := (ancestry e).contains "Error"

/-- The class of the error is one of lost connections. -/
def isConnectionClass (e : ServerError) : Bool :=
  e.className == "OperationalError" || e.className == "InterfaceError"

/-- What the code of the server means, for the query that caused the error. -/
def ofCode? (e : ServerError) (query : String) (code : String) : Option Report :=
  let message := Value.text e.message
  let query := Value.text query
  match code with
  | "23505" => some ⟨.duplicate, [message]⟩
  | "23503" | "23502" | "23514" => some ⟨.integrity, [message]⟩
  | "42601" => some ⟨.querySyntax, [message, query]⟩
  | "42P01" => some ⟨.missingTable, [message, query]⟩
  | "42703" => some ⟨.missingColumn, [message]⟩
  | "08006" | "08003" | "08000" | "57P01" => some ⟨.connection, [message]⟩
  | "42501" => some ⟨.access, [.text "Insufficient privileges.", message, query]⟩
  | _ => none

/-- What the error means, for the query that caused it, if it has a meaning of its own. -/
def meaning? (e : ServerError) (query : String) : Option Report :=
  match e.code with
  | none =>
    if isConnectionClass e then
      some ⟨.connection, [.text "Server connection lost", .text e.message]⟩
    else none
  | some code => ofCode? e query code

/-- The error that a failed query gives. -/
def toError (e : ServerError) (query : String) : Error :=
  if isDriverError e then
    match meaning? e query with
    | some report => .refusedByServer report
    | none => .driver e
  else .driver e

end ServerError

end DocumentSql

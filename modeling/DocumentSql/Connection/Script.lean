/-
A driver that follows a script.

It keeps the statements that it is sent, and answers each with the prepared reply or, when there
is none, without a result set. It takes statements even after it was closed.
-/
import DocumentSql.Connection.Basic

namespace DocumentSql

/-- A prepared reply to a statement. -/
inductive Reply where
  /-- The statement succeeds, with rows if it has a result set. -/
  | answer (rows : Option (List Members))
  /-- The statement fails. -/
  | failure (e : ServerError)

/-- The state of a driver that follows a script. -/
structure Script where
  /-- The statements that were sent, in order. -/
  sent : List DriverQuery
  /-- The reply to the next statement. -/
  reply : Option Reply
  /-- The connection is open. -/
  isOpen : Bool

namespace Script

/-- Nothing was sent yet. -/
def fresh : Script := ⟨[], none, true⟩

/-- The statement is kept, and the reply is used up. -/
def send (q : DriverQuery) (s : Script) : Except ServerError (Option (List Members)) × Script :=
  let rest := { s with sent := s.sent ++ [q], reply := none }
  match s.reply with
  | none => (.ok none, rest)
  | some (.answer rows) => (.ok rows, rest)
  | some (.failure e) => (.error e, rest)

/-- The driver. -/
def driver : Driver Script := ⟨send, fun s => { s with isOpen := false }, Script.isOpen⟩

end Script

end DocumentSql

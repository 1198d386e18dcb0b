/-
Programs over a connection.

A program is a sequence of steps: statements, brackets of transactions, and blocks, which run
their steps inside a transaction. The failure of a step is shown in its answer and does not end
the program; a block may be told to fail when one of its steps fails, or at its end. Programs run
on a driver that follows a script: a step may carry the reply to the next statement that it
sends.
-/
import DocumentSql.Connection.Script

namespace DocumentSql

/-- What a step of a program does. -/
inductive ProgramAction where
  /-- Sends a statement; answers whether it has a result set. -/
  | query (text : String) (params : Value)
  /-- Sends a statement; answers its rows. -/
  | execute (text : String) (params : Value)
  /-- Opens a transaction. -/
  | start
  /-- Closes a transaction and drops its changes. -/
  | cancel
  /-- Closes a transaction and keeps its changes. -/
  | commit
  /-- Closes the connection. -/
  | close
  /-- Shows the connection. -/
  | present
  /-- Fails. -/
  | fail (e : Error)

/-- A step of a program, with the reply to the next statement. -/
inductive ProgramStep where
  /-- A single action. -/
  | action (reply : Option Reply) (a : ProgramAction)
  /-- Steps inside a transaction. A strict block fails behind the first step that fails; a failing
  block fails at its end. -/
  | block (reply : Option Reply) (isStrict isFailing : Bool) (steps : List ProgramStep)
deriving Inhabited

mutual
/-- What a step answers. -/
inductive StepOutcome where
  /-- The step is done. -/
  | done
  /-- Whether there is a result set. -/
  | hasRows (b : Bool)
  /-- The rows of a result set. -/
  | rows (rs : List Members)
  /-- The connection as it is shown. -/
  | shown (s : String)
  /-- The step failed. -/
  | failed (e : Error)
  /-- The answers of the steps of a block, and how the block failed, if it did. -/
  | block (inner : List StepAnswer) (problem : Option Error)
/-- The answer of a step. -/
inductive StepAnswer where
  /-- The outcome, the statements sent since the last answer, and behind the step whether the
  connection is open and whether a transaction is. -/
  | mk (outcome : StepOutcome) (sent : List DriverQuery) (isConnected isPending : Bool)
end

/-- The step failed. The failure of a block is part of its answer. -/
def StepOutcome.isFailure : StepOutcome → Bool
  | failed _ => true
  | _ => false

namespace Program

/-- A connection over a script, and the answers so far. -/
structure State where
  /-- The connection. -/
  connection : Connection Script
  /-- The answers, the earliest first. -/
  answers : List StepAnswer

/-- Prepares the reply to the next statement. -/
def withReply (reply : Option Reply) (c : Connection Script) : Connection Script :=
  { c with server := { c.server with reply } }

/-- The connection with the statements that were sent taken from it. -/
def withoutSent (c : Connection Script) : Connection Script :=
  { c with server := { c.server with sent := [] } }

/-- The outcome of an answer or an error. -/
def outcomeOf {α : Type} (f : α → StepOutcome) : Result α → StepOutcome
  | .ok a => f a
  | .error e => .failed e

/-- Does what a step does. -/
def act (a : ProgramAction) (c : Connection Script) : StepOutcome × Connection Script :=
  let d := Script.driver
  let ended {α : Type} (f : α → StepOutcome) (r : Result α × Connection Script) :
      StepOutcome × Connection Script := (outcomeOf f r.1, r.2)
  match a with
  | .query text params => ended (fun rows => .hasRows rows.isSome) (c.query d text params)
  | .execute text params => ended .rows (c.execute d text params)
  | .start => ended (fun _ => .done) (c.start d)
  | .cancel => ended (fun _ => .done) (c.cancel d)
  | .commit => ended (fun _ => .done) (c.commit d)
  | .close => (.done, c.close d)
  | .present => (.shown (c.literal d), c)
  | .fail e => (.failed e, c)

/-- Runs statements on the connection of a state. -/
def executor : Executor State :=
  let x := Connection.executor Script.driver
  let lift {α : Type} (f : Connection Script → Result α × Connection Script) (s : State) :
      Result α × State :=
    let (r, c) := f s.connection
    (r, { s with connection := c })
  ⟨fun text params => lift (x.execute text params), lift x.start, lift x.commit, lift x.rollback⟩

/-- Adds an answer: the statements that were sent are taken, and a reply that was not used is
dropped. -/
def answer (o : StepOutcome) (s : State) : State :=
  let c := withReply none s.connection
  let a := StepAnswer.mk o c.server.sent (c.isConnected Script.driver) (c.inTransaction Script.driver)
  ⟨(withoutSent c).refreshed Script.driver, s.answers ++ [a]⟩

mutual
/-- Runs a step; answers whether it failed. -/
def runStep : ProgramStep → Run State Bool
  | .action reply a => fun s =>
    let (o, c) := act a (withReply reply s.store.connection)
    (.ok o.isFailure, { s with store := answer o { s.store with connection := c } })
  | .block reply isStrict isFailing steps => fun s =>
    let start : State := ⟨withReply reply s.store.connection, []⟩
    let body : Run State Unit := fun s =>
      match runSteps isStrict steps s with
      | (.ok (), s) => if isFailing then (.error (.injected "fail"), s) else (.ok (), s)
      | (.error e, s) => (.error e, s)
    let (r, inner) := executor.transaction body { s with store := start }
    let problem := match r with
      | .ok () => none
      | .error e => some e
    let o := StepOutcome.block inner.store.answers problem
    (.ok false, { inner with store := answer o ⟨inner.store.connection, s.store.answers⟩ })
/-- Runs steps, in a strict block up to the first one that fails. -/
def runSteps (isStrict : Bool) : List ProgramStep → Run State Unit
  | [] => fun s => (.ok (), s)
  | step :: steps => fun s =>
    match runStep step s with
    | (.ok true, s) =>
      if isStrict then (.error (.injected "strict"), s) else runSteps isStrict steps s
    | (.ok false, s) => runSteps isStrict steps s
    | (.error e, s) => (.error e, s)
end

/-- The answers of a program. -/
def run (steps : List ProgramStep) (c : Connection Script) : List StepAnswer :=
  (runSteps false steps ⟨⟨c, []⟩, []⟩).2.store.answers

end Program

end DocumentSql

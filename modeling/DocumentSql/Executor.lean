/-
Running statements against a store.

An executor runs a statement on the state of a store and gives its rows or an error together with
the new state; it also opens and closes transactions. What is built on it is a run: a computation
on the state of the store and the log.
-/
import DocumentSql.Error
import DocumentSql.Log
import DocumentSql.Value.Equal

namespace DocumentSql

/-- The state of a store and the log written so far. -/
structure Session (σ : Type) where
  /-- The state of the store. -/
  store : σ
  /-- The log, the earliest line first. -/
  log : List LogLine

/-- A computation on a store. -/
abbrev Run (σ α : Type) := Session σ → Result α × Session σ

namespace Run

variable {σ α β : Type}

/-- The run that answers a value and does nothing. -/
def pure (a : α) : Run σ α := fun s => (.ok a, s)

/-- The run that fails and does nothing. -/
def fail (e : Error) : Run σ α := fun s => (.error e, s)

/-- One run after another; the second is left out when the first fails. -/
def bind (x : Run σ α) (f : α → Run σ β) : Run σ β := fun s =>
  match x s with
  | (.ok a, s) => f a s
  | (.error e, s) => (.error e, s)

instance : Monad (Run σ) where
  pure := pure
  bind := bind

/-- An answer without a run. -/
def ofResult (r : Result α) : Run σ α := fun s => (r, s)

/-- Writes a line of the log. -/
def log (l : LogLine) : Run σ Unit := fun s => (.ok (), { s with log := s.log ++ [l] })

end Run

/-- How statements are run on a store. -/
structure Executor (σ : Type) where
  /-- Runs a statement with parameters and gives its rows. -/
  execute : String → List Value → σ → Result (List Members) × σ
  /-- Opens a transaction. -/
  start : σ → Result Unit × σ
  /-- Closes a transaction and keeps its changes. -/
  commit : σ → Result Unit × σ
  /-- Closes a transaction and drops its changes. -/
  rollback : σ → Result Unit × σ

namespace Executor

variable {σ α : Type}

/-- An operation on the store as a run. -/
def lift (f : σ → Result α × σ) : Run σ α := fun s =>
  let (r, store) := f s.store
  (r, { s with store })

/-- Runs a statement with parameters. -/
def run (x : Executor σ) (text : String) (params : List Value) : Run σ (List Members) :=
  lift (x.execute text params)

/-- Runs a body inside a transaction: it is committed when the body succeeds, and rolled back when
the body fails, with the failure of the body unless the rollback itself fails. -/
def transaction (x : Executor σ) (body : Run σ α) : Run σ α := fun s =>
  match lift x.start s with
  | (.error e, s) => (.error e, s)
  | (.ok (), s) =>
    match body s with
    | (.ok a, s) =>
      match lift x.commit s with
      | (.ok (), s) => (.ok a, s)
      | (.error e, s) => (.error e, s)
    | (.error e, s) =>
      match lift x.rollback s with
      | (.ok (), s) => (.error e, s)
      | (.error e', s) => (.error e', s)

end Executor

end DocumentSql

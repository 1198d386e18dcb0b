/-
Clients of an executor.

A client sends queries, fails, recovers from failures, and runs parts of itself as the bodies of
transactions; what it does next may depend on what it was answered.  `Client.run` gives such a
client its meaning on an executor, with the transactions of `Executor.transaction`.

Two results reason about all clients at once, so that nothing below needs another induction:

* `Client.run_keeps`: a relation between the states of an executor that its operations keep is
  kept by every run;
* `Client.run_maps`: executors whose operations correspond have corresponding runs.
-/
import DocumentSql.Executor
import Mathlib

namespace DocumentSql

variable {σ τ α β : Type}

namespace Run

/-- A run whose failure is handed to a handler. -/
def recover (x : Run σ α) (handler : Error → Run σ α) : Run σ α := fun s =>
  match x s with
  | (.ok a, s) => (.ok a, s)
  | (.error e, s) => handler e s

end Run

/-- A client that answers a value. -/
inductive Client : Type → Type 1 where
  /-- Nothing is left to do. -/
  | pure {α : Type} (a : α) : Client α
  /-- Fails. -/
  | fail {α : Type} (e : Error) : Client α
  /-- Sends a query with parameters, and answers its rows. -/
  | query (text : String) (params : List Value) : Client (List Members)
  /-- One client, and behind it another that has the answer of the first. -/
  | bind {α β : Type} (p : Client α) (next : α → Client β) : Client β
  /-- A client, and what is done when it fails. -/
  | recover {α : Type} (p : Client α) (handler : Error → Client α) : Client α
  /-- A client inside a transaction. -/
  | block {α : Type} (body : Client α) : Client α

namespace Client

/-- Runs a client on an executor. -/
def run (x : Executor σ) {α : Type} : Client α → Run σ α
  | .pure a => Run.pure a
  | .fail e => Run.fail e
  | .query text params => x.run text params
  | .bind p next => (p.run x).bind fun a => (next a).run x
  | .recover p handler => (p.run x).recover fun e => (handler e).run x
  | .block body => x.transaction (body.run x)

end Client

namespace Executor

/-! ### The course of a transaction -/

/-- Closes a transaction behind a body: its changes are kept when the body succeeded, and dropped
when it failed. -/
def finish (x : Executor σ) : Result α → σ → Result Unit × σ
  | .ok _ => x.commit
  | .error _ => x.rollback

/-- The answer of a transaction, by the answer of its body and that of closing it. -/
def closed (r : Result α) : Result Unit → Result α
  | .ok () => r
  | .error e => .error e

lemma transaction_of_start_error {x : Executor σ} {body : Run σ α} {s s₁ : Session σ} {e : Error}
    (h : lift x.start s = (.error e, s₁)) : x.transaction body s = (.error e, s₁) := by
  rw [transaction, h]

lemma transaction_of_start_ok {x : Executor σ} {body : Run σ α} {s s₁ : Session σ}
    (h : lift x.start s = (.ok (), s₁)) :
    x.transaction body s = (closed (body s₁).1 (lift (x.finish (body s₁).1) (body s₁).2).1,
      (lift (x.finish (body s₁).1) (body s₁).2).2) := by
  rw [transaction, h]
  rcases hbody : body s₁ with ⟨_ | _, s₂⟩
  · rcases hrollback : lift x.rollback s₂ with ⟨_ | _, s₃⟩ <;>
      simp [hbody, finish, closed, hrollback]
  · rcases hcommit : lift x.commit s₂ with ⟨_ | _, s₃⟩ <;>
      simp [hbody, finish, closed, hcommit]

/-! ### What every run keeps -/

/-- A relation between the states of an executor that its operations keep. -/
structure Keeps (x : Executor σ) (R : σ → σ → Prop) : Prop where
  refl : ∀ c, R c c
  trans : ∀ {a b c}, R a b → R b c → R a c
  execute : ∀ text params c, R c (x.execute text params c).2
  /-- A transaction keeps what its body keeps. -/
  transaction : ∀ {α : Type} (body : Run σ α), (∀ s, R s.store (body s).2.store) →
    ∀ s, R s.store (x.transaction body s).2.store

/-- Operations of two executors that correspond along a map of their states. -/
structure Maps (f : σ → τ) (x : Executor σ) (y : Executor τ) : Prop where
  execute : ∀ text params c, y.execute text params (f c) = (x.execute text params c).map id f
  start : ∀ c, y.start (f c) = (x.start c).map id f
  commit : ∀ c, y.commit (f c) = (x.commit c).map id f
  rollback : ∀ c, y.rollback (f c) = (x.rollback c).map id f

end Executor

/-- The session over mapped states. -/
def Session.map (f : σ → τ) (s : Session σ) : Session τ := ⟨f s.store, s.log⟩

namespace Executor

variable {f : σ → τ} {x : Executor σ} {y : Executor τ}

lemma lift_map {g : σ → Result α × σ} {h : τ → Result α × τ}
    (hgh : ∀ c, h (f c) = (g c).map id f) (s : Session σ) :
    lift h (s.map f) = (lift g s).map id (Session.map f) := by
  simp [lift, Session.map, hgh]

lemma Maps.finish (h : Maps f x y) (r : Result α) (c : σ) :
    y.finish r (f c) = (x.finish r c).map id f := by
  cases r with
  | ok a => exact h.commit c
  | error e => exact h.rollback c

lemma Maps.transaction (h : Maps f x y) {body : Run σ α} {body' : Run τ α}
    (hbody : ∀ s, body' (s.map f) = (body s).map id (Session.map f)) (s : Session σ) :
    y.transaction body' (s.map f) = (x.transaction body s).map id (Session.map f) := by
  have hstart := lift_map h.start s
  rcases hx : lift x.start s with ⟨_ | _, s₁⟩ <;> rw [hx] at hstart
  · rw [transaction_of_start_error hx, transaction_of_start_error hstart]
    rfl
  · rw [transaction_of_start_ok hx, transaction_of_start_ok hstart, hbody]
    simp only [Prod.map_fst, Prod.map_snd, id_eq]
    rw [lift_map (h.finish (body s₁).1)]
    rfl

end Executor

namespace Client

/-- What the operations of an executor keep, every run keeps. -/
theorem run_keeps {x : Executor σ} {R : σ → σ → Prop} (hR : x.Keeps R) (p : Client α)
    (s : Session σ) : R s.store (p.run x s).2.store := by
  induction p generalizing s with
  | pure a => exact hR.refl _
  | fail e => exact hR.refl _
  | query text params => exact hR.execute text params s.store
  | bind p next ihp ihnext =>
    have hp := ihp s
    rw [run, Run.bind]
    rcases hrun : p.run x s with ⟨_ | a, s₁⟩ <;> rw [hrun] at hp
    · exact hp
    · exact hR.trans hp (ihnext a s₁)
  | recover p handler ihp ihhandler =>
    have hp := ihp s
    rw [run, Run.recover]
    rcases hrun : p.run x s with ⟨e | a, s₁⟩ <;> rw [hrun] at hp
    · exact hR.trans hp (ihhandler e s₁)
    · exact hp
  | block body ih => exact hR.transaction (body.run x) ih s

/-- Executors whose operations correspond have corresponding runs. -/
theorem run_maps {f : σ → τ} {x : Executor σ} {y : Executor τ} (h : Executor.Maps f x y)
    (p : Client α) (s : Session σ) :
    p.run y (s.map f) = (p.run x s).map id (Session.map f) := by
  induction p generalizing s with
  | pure a => rfl
  | fail e => rfl
  | query text params => exact Executor.lift_map (h.execute text params) s
  | bind p next ihp ihnext =>
    rw [run, run, Run.bind, Run.bind, ihp s]
    rcases p.run x s with ⟨_ | a, s₁⟩
    · rfl
    · exact ihnext a s₁
  | recover p handler ihp ihhandler =>
    rw [run, run, Run.recover, Run.recover, ihp s]
    rcases p.run x s with ⟨e | a, s₁⟩
    · exact ihhandler e s₁
    · rfl
  | block body ih => exact h.transaction ih s

end Client

end DocumentSql

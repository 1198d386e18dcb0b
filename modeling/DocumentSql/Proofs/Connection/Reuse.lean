/-
Connections behind a transaction.

Behind a block that is no part of a transaction, the connection is outside a transaction again,
with one exception: the driver fails the statement that closes the block.  The connection then
takes the transaction for open (`Strands`), refuses every further one, and nothing that clients
do afterwards changes that (`reusable_iff`).
-/
import DocumentSql.Proofs.Connection.Recorded

namespace DocumentSql

variable {σ α : Type}

/-- The driver is never the one who refuses a transaction as nested. -/
lemma ServerError.toError_ne_nestedTransaction (e : ServerError) (text : String) :
    e.toError text ≠ .nestedTransaction := by
  rw [toError]
  split
  · split <;> simp
  · simp

namespace Connection

variable {d : Driver σ} {c : Connection σ}

/-! ### What the operations do to the pending flag -/

lemma query_isPending (d : Driver σ) (text : String) (params : Value) (c : Connection σ) :
    (c.query d text params).2.isPending = c.isPending := by
  rw [query]
  cases DriverQuery.make text params with
  | error e => rfl
  | ok q => rcases hsend : d.send q c.server with ⟨_ | _, server⟩ <;> simp [hsend]

lemma isConnected_bracket (hd : d.StaysOpen) (hc : c.isConnected d = true) (text : String)
    (isPending : Bool) : (c.bracket d text isPending).2.isConnected d = true := by
  have hopen := isConnected_query hd hc text (.list [])
  rw [bracket]
  rcases hquery : c.query d text (.list []) with ⟨_ | _, c'⟩ <;> rw [hquery] at hopen <;>
    exact hopen

/-- A bracket answers as the driver does, and sets the flag when the driver takes it. -/
lemma bracket_eq {text : String} (htext : DriverQuery.make text (.list []) = .ok ⟨text, none⟩)
    (isPending : Bool) (c : Connection σ) :
    c.bracket d text isPending =
      match d.send ⟨text, none⟩ c.server with
      | (.ok _, server) => (.ok (), { c with server, isPending })
      | (.error e, server) => (.error (e.toError text), { c with server }) := by
  rw [bracket, query, htext]
  rcases hsend : d.send ⟨text, none⟩ c.server with ⟨_ | _, server⟩ <;> simp only [hsend]

lemma start_of_isPending (hc : c.isConnected d = true) (hpending : c.isPending = true) :
    c.start d = (.error .nestedTransaction, c) := by
  simp only [start, refreshed_of_isConnected hc]
  exact if_pos hpending

lemma start_of_not_isPending (hc : c.isConnected d = true) (hpending : c.isPending = false) :
    c.start d =
      match d.send ⟨"BEGIN", none⟩ c.server with
      | (.ok _, server) => (.ok (), { c with server, isPending := true })
      | (.error e, server) => (.error (e.toError "BEGIN"), { c with server }) := by
  rw [← bracket_eq rfl]
  simp only [start, refreshed_of_isConnected hc]
  exact if_neg (by simp [hpending])

/-- Outside a transaction, and only there, a transaction is not refused as nested. -/
lemma start_eq_nestedTransaction_iff (hc : c.isConnected d = true) :
    (c.start d).1 = .error .nestedTransaction ↔ c.isPending = true := by
  cases hpending : c.isPending with
  | true => simp [start_of_isPending hc hpending]
  | false =>
    rw [start_of_not_isPending hc hpending]
    rcases d.send ⟨"BEGIN", none⟩ c.server with ⟨e | _, server⟩
    · simpa using e.toError_ne_nestedTransaction "BEGIN"
    · simp

lemma isConnected_start (hd : d.StaysOpen) (hc : c.isConnected d = true) :
    (c.start d).2.isConnected d = true := by
  cases hpending : c.isPending with
  | true => rwa [start_of_isPending hc hpending]
  | false =>
    have hstart : c.start d = c.bracket d "BEGIN" true := by
      rw [start_of_not_isPending hc hpending, bracket_eq rfl]
    rw [hstart]
    exact isConnected_bracket hd hc "BEGIN" true

/-- The closing statement ends the transaction unless the driver fails it. -/
lemma finish_eq (r : Result α) (c : Connection σ) :
    (executor d).finish r c = c.bracket d (closingText r) false := by
  cases r <;> rfl

lemma finish_isPending (r : Result α) (c : Connection σ) :
    ((executor d).finish r c).2.isPending =
      (c.isPending && !(d.send ⟨closingText r, none⟩ c.server).1.isOk) := by
  have htext : DriverQuery.make (closingText r) (.list []) = .ok ⟨closingText r, none⟩ := by
    cases r with
    | ok a => exact (rfl : DriverQuery.make "COMMIT" (.list []) = .ok ⟨"COMMIT", none⟩)
    | error e => exact (rfl : DriverQuery.make "ROLLBACK" (.list []) = .ok ⟨"ROLLBACK", none⟩)
  rw [finish_eq, bracket_eq htext]
  rcases d.send ⟨closingText r, none⟩ c.server with ⟨_ | _, server⟩
  · exact (Bool.and_true _).symm
  · exact (Bool.and_false _).symm

/-! ### Blocks -/

/-- The body leaves an open connection open. -/
def LeavesOpen (d : Driver σ) (body : Run (Connection σ) α) : Prop :=
  ∀ s, s.store.isConnected d = true → (body s).2.store.isConnected d = true

/-- The state behind a BEGIN that the driver took. -/
def opened (s : Session (Connection σ)) (server : σ) : Session (Connection σ) :=
  { s with store := { s.store with server, isPending := true } }

/-- The driver takes the BEGIN of a block and fails the statement that closes it, and the body did
not close the transaction by itself. -/
def Strands (d : Driver σ) (body : Run (Connection σ) α) (s : Session (Connection σ)) : Prop :=
  ∃ rows server, d.send ⟨"BEGIN", none⟩ s.store.server = (.ok rows, server) ∧
    let ended := body (opened s server)
    ended.2.store.isPending = true ∧
      (d.send ⟨closingText ended.1, none⟩ ended.2.store.server).1.isOk = false

lemma isConnected_transaction (hd : d.StaysOpen) {body : Run (Connection σ) α}
    (hbody : LeavesOpen d body) {s : Session (Connection σ)}
    (hc : s.store.isConnected d = true) :
    ((executor d).transaction body s).2.store.isConnected d = true := by
  have hconnected := isConnected_start hd hc
  rcases hstart : Executor.lift (executor d).start s with ⟨e | _, s₁⟩
  all_goals
    have hs₁ : s₁.store = (s.store.start d).2 := congrArg (fun a => a.2.store) hstart.symm
    rw [← hs₁] at hconnected
  · rwa [Executor.transaction_of_start_error hstart]
  · rw [Executor.transaction_of_start_ok hstart]
    simp only [Executor.lift, finish_eq]
    exact isConnected_bracket hd (hbody s₁ hconnected) _ _

/-- Where a transaction is pending, a block is refused. -/
lemma transaction_of_isPending (body : Run (Connection σ) α) {s : Session (Connection σ)}
    (hc : s.store.isConnected d = true) (hpending : s.store.isPending = true) :
    (executor d).transaction body s = (.error .nestedTransaction, s) := by
  apply Executor.transaction_of_start_error
  simp only [Executor.lift, executor, start_of_isPending hc hpending]

/-- Where none is pending, one is pending behind the block if the block stranded it. -/
lemma transaction_isPending_iff (body : Run (Connection σ) α) {s : Session (Connection σ)}
    (hc : s.store.isConnected d = true) (hidle : s.store.isPending = false) :
    ((executor d).transaction body s).2.store.isPending = true ↔ Strands d body s := by
  have hbegin := start_of_not_isPending hc hidle
  rcases hsend : d.send ⟨"BEGIN", none⟩ s.store.server with ⟨e | rows, server⟩ <;>
    rw [hsend] at hbegin
  · have hstart : Executor.lift (executor d).start s =
        (.error (e.toError "BEGIN"), { s with store := { s.store with server } }) := by
      simp only [Executor.lift, executor, hbegin]
    rw [Executor.transaction_of_start_error hstart]
    simp [Strands, hsend, hidle]
  · have hstart : Executor.lift (executor d).start s = (.ok (), opened s server) := by
      simp only [Executor.lift, executor, hbegin, opened]
    rw [Executor.transaction_of_start_ok hstart]
    simp only [Executor.lift, finish_isPending]
    simp [Strands, hsend]

/-! ### Clients behind a block -/

/-- The connection stays open, and a pending transaction stays pending. -/
def Holds (d : Driver σ) (c c' : Connection σ) : Prop :=
  c.isConnected d = true → c'.isConnected d = true ∧ (c.isPending = true → c'.isPending = true)

/-- Queries touch no transaction, and a block is refused where one is pending. -/
lemma executor_keeps (hd : d.StaysOpen) : (executor d).Keeps (Holds d) where
  refl c hc := ⟨hc, id⟩
  trans h h' hc := ⟨(h' (h hc).1).1, fun hp => (h' (h hc).1).2 ((h hc).2 hp)⟩
  execute text params c hc := by
    have hopen := isConnected_query hd hc text (.list params)
    have hpending := query_isPending d text (.list params) c
    simp only [executor, execute]
    rcases hquery : c.query d text (.list params) with ⟨_ | _, c'⟩ <;>
      rw [hquery] at hopen hpending <;> exact ⟨hopen, fun hp => hpending.trans hp⟩
  transaction body hbody s hc := by
    refine ⟨isConnected_transaction hd (fun t ht => (hbody t ht).1) hc, fun hp => ?_⟩
    rwa [transaction_of_isPending body hc hp]

/-- A client is a body like any other, and never closes the transaction of its block by itself. -/
theorem strands_run_iff (hd : d.StaysOpen) (p : Client α) {s : Session (Connection σ)}
    (hc : s.store.isConnected d = true) :
    LeavesOpen d (p.run (executor d)) ∧
      (Strands d (p.run (executor d)) s ↔
        ∃ rows server, d.send ⟨"BEGIN", none⟩ s.store.server = (.ok rows, server) ∧
          let ended := p.run (executor d) (opened s server)
          (d.send ⟨closingText ended.1, none⟩ ended.2.store.server).1.isOk = false) := by
  refine ⟨fun t ht => (p.run_keeps (executor_keeps hd) t ht).1, ?_⟩
  constructor
  · rintro ⟨rows, server, hsend, -, hfailed⟩
    exact ⟨rows, server, hsend, hfailed⟩
  · rintro ⟨rows, server, hsend, hfailed⟩
    have hopen : (opened s server).store.isConnected d = true := by
      have hafter := hd ⟨"BEGIN", none⟩ s.store.server hc
      rw [hsend] at hafter
      exact hafter
    exact ⟨rows, server, hsend, (p.run_keeps (executor_keeps hd) _ hopen).2 rfl, hfailed⟩

/-- Behind a block outside a transaction, whatever its body is and whatever the driver fails, the
connection is outside a transaction, and the next transaction is not refused as nested, unless the
driver took the BEGIN and failed the closing statement of a transaction that was still pending. In
that case whatever clients do next leaves the connection inside a transaction, and every further
block is refused. -/
theorem reusable_iff {d : Driver σ} (hd : d.StaysOpen) {body : Run (Connection σ) α}
    (hbody : LeavesOpen d body) (s : Session (Connection σ))
    (hc : s.store.isConnected d = true) (hidle : s.store.inTransaction d = false) :
    let behind := ((executor d).transaction body s).2
    (behind.store.inTransaction d = false ↔ ¬ Strands d body s) ∧
      ((behind.store.start d).1 = .error .nestedTransaction ↔ Strands d body s) ∧
      (Strands d body s → ∀ {β γ : Type} (p : Client β) (next : Client γ),
        let later := (p.run (executor d) behind).2
        later.store.inTransaction d = true ∧
          (next.block.run (executor d) later).1 = .error .nestedTransaction) := by
  intro behind
  have hpending : s.store.isPending = false := by rwa [inTransaction_of_isConnected hc] at hidle
  have hopen : behind.store.isConnected d = true := isConnected_transaction hd hbody hc
  have hiff : behind.store.isPending = true ↔ Strands d body s :=
    transaction_isPending_iff body hc hpending
  refine ⟨?_, (start_eq_nestedTransaction_iff hopen).trans hiff, fun hstrands β γ p next => ?_⟩
  · rw [inTransaction_of_isConnected hopen, ← hiff, Bool.not_eq_true]
  · intro later
    obtain ⟨hlater, hstill⟩ : later.store.isConnected d = true ∧
        (behind.store.isPending = true → later.store.isPending = true) :=
      p.run_keeps (executor_keeps hd) behind hopen
    have hp : later.store.isPending = true := hstill (hiff.2 hstrands)
    rw [Client.run, transaction_of_isPending _ hlater hp]
    exact ⟨by rw [inTransaction_of_isConnected hlater, hp], rfl⟩

/-- A connection outside a transaction. -/
def idle : Session (Connection Unit) := ⟨⟨default, (), false⟩, []⟩

/-- A driver that fails every COMMIT leaves the connection reusable behind a block whose body fails:
the ROLLBACK is taken. -/
theorem failingBody_reusable :
    let d := Driver.refusing "COMMIT"
    let body : Run (Connection Unit) Unit := Run.fail (.injected "body")
    d.StaysOpen ∧ LeavesOpen d body ∧ idle.store.isConnected d = true ∧
      idle.store.inTransaction d = false ∧
      ((executor d).transaction body idle).2.store.inTransaction d = false := by
  have hd := Driver.refusing_staysOpen "COMMIT"
  have hbody : LeavesOpen (Driver.refusing "COMMIT")
      (Run.fail (.injected "body") : Run (Connection Unit) Unit) := fun _ h => h
  refine ⟨hd, hbody, rfl, rfl, (reusable_iff hd hbody idle rfl rfl).1.2 ?_⟩
  rintro ⟨rows, ⟨⟩, -, -, hfailed⟩
  exact absurd hfailed (by decide)

/-- When the driver fails the COMMIT of an empty block, or the ROLLBACK of a block whose body
fails, the connection stays inside a transaction behind the block, and the next transaction is
refused as nested, although the connection is open and was outside a transaction. -/
theorem refusedClosing_strands :
    (∀ text, (Driver.refusing text).StaysOpen ∧
      idle.store.isConnected (Driver.refusing text) = true ∧
      idle.store.inTransaction (Driver.refusing text) = false) ∧
    (let d := Driver.refusing "COMMIT"
      let behind := ((Client.pure ()).block.run (executor d) idle).2
      behind.store.inTransaction d = true ∧
        (behind.store.start d).1 = .error .nestedTransaction) ∧
    (let d := Driver.refusing "ROLLBACK"
      let behind := ((Client.fail (.injected "body") : Client Unit).block.run (executor d) idle).2
      behind.store.inTransaction d = true ∧
        (behind.store.start d).1 = .error .nestedTransaction) :=
  ⟨fun text => ⟨Driver.refusing_staysOpen text, rfl, rfl⟩, ⟨rfl, rfl⟩, ⟨rfl, rfl⟩⟩

end Connection

end DocumentSql

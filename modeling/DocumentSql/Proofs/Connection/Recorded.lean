/-
Connections that keep a record of what they send.

`Driver.recorded` puts a record beside a driver: every statement that it is sent, whether the
statement succeeded, and what it was sent for, a query or the bracket of a transaction.
`Connection.recorder` runs statements on a connection over such a driver.  The record changes
nothing: without it, every run is the run on the connection itself (`Client.run_recorder`).

What the operations of a connection add to the record is said once, here (`execute_recorder`,
`start_recorder`, `finish_recorder`), for drivers that fail any statement they like but stay open.
-/
import DocumentSql.Connection.Basic
import DocumentSql.Proofs.Connection.Client

namespace DocumentSql

variable {σ α : Type}

/-! ### The record -/

/-- What a statement is sent for. -/
inductive Purpose where
  /-- A query of a client, whatever its text. -/
  | data
  /-- The opening or closing of a transaction. -/
  | bracket
deriving DecidableEq

/-- A statement that was sent. -/
structure Sent where
  /-- What it was sent for. -/
  purpose : Purpose
  /-- The statement. -/
  query : DriverQuery
  /-- The driver did not fail it. -/
  succeeded : Bool

/-- The state of a driver with a record. -/
structure Recorder (σ : Type) where
  /-- The state of the driver. -/
  server : σ
  /-- What the next statement is sent for. -/
  purpose : Purpose
  /-- The statements that were sent, in order. -/
  sent : List Sent

/-- The driver with a record of what it is sent. -/
def Driver.recorded (d : Driver σ) : Driver (Recorder σ) where
  send q r :=
    ((d.send q r.server).1, ⟨(d.send q r.server).2, r.purpose,
      r.sent ++ [⟨r.purpose, q, (d.send q r.server).1.isOk⟩]⟩)
  close r := { r with server := d.close r.server }
  isOpen r := d.isOpen r.server

/-- No statement closes the connection, whether it succeeds or fails. -/
def Driver.StaysOpen (d : Driver σ) : Prop :=
  ∀ q s, d.isOpen s = true → d.isOpen (d.send q s).2 = true

lemma Driver.StaysOpen.recorded {d : Driver σ} (hd : d.StaysOpen) : d.recorded.StaysOpen :=
  fun q r hr => hd q r.server hr

/-- A driver that fails one statement, takes all others, and always stays open. -/
def Driver.refusing (text : String) : Driver Unit where
  send q _ :=
    if q.text = text then
      (.error ⟨"IntegrityError", "violates a deferred constraint", some "23503"⟩, ())
    else (.ok none, ())
  close := id
  isOpen _ := true

lemma Driver.refusing_staysOpen (text : String) : (Driver.refusing text).StaysOpen :=
  fun _ _ h => h

namespace Connection

variable {d : Driver σ}

/-- The connection without its record. -/
def bare (c : Connection (Recorder σ)) : Connection σ := ⟨c.info, c.server.server, c.isPending⟩

/-- The statements that were sent on the connection, in order. -/
def sent (c : Connection (Recorder σ)) : List Sent := c.server.sent

/-- The connection, about to send a statement for a purpose. -/
def announce (p : Purpose) (c : Connection (Recorder σ)) : Connection (Recorder σ) :=
  { c with server := { c.server with purpose := p } }

/-- Runs statements on a connection with a record. -/
def recorder (d : Driver σ) : Executor (Connection (Recorder σ)) where
  execute text params c := (executor d.recorded).execute text params (c.announce .data)
  start c := (executor d.recorded).start (c.announce .bracket)
  commit c := (executor d.recorded).commit (c.announce .bracket)
  rollback c := (executor d.recorded).rollback (c.announce .bracket)

@[simp] lemma sent_announce (p : Purpose) (c : Connection (Recorder σ)) :
    (c.announce p).sent = c.sent := rfl

lemma inTransaction_of_isConnected {c : Connection σ} (h : c.isConnected d = true) :
    c.inTransaction d = c.isPending := by
  rw [inTransaction, h, Bool.and_true]

lemma refreshed_of_isConnected {c : Connection σ} (h : c.isConnected d = true) :
    c.refreshed d = c := by
  rw [refreshed, inTransaction_of_isConnected h]

/-! ### The record changes nothing -/

lemma query_bare (text : String) (params : Value) (c : Connection (Recorder σ)) :
    c.bare.query d text params = (c.query d.recorded text params).map id bare := by
  rw [query, query]
  cases DriverQuery.make text params with
  | error e => rfl
  | ok q =>
    simp only [bare, Driver.recorded]
    rcases d.send q c.server.server with ⟨_ | _, server⟩ <;> rfl

lemma bracket_bare (text : String) (isPending : Bool) (c : Connection (Recorder σ)) :
    c.bare.bracket d text isPending = (c.bracket d.recorded text isPending).map id bare := by
  rw [bracket, bracket, query_bare]
  rcases c.query d.recorded text (.list []) with ⟨_ | _, c'⟩ <;> rfl

lemma start_bare (c : Connection (Recorder σ)) :
    c.bare.start d = (c.start d.recorded).map id bare := by
  have hrefreshed : c.bare.refreshed d = (c.refreshed d.recorded).bare := rfl
  simp only [start, hrefreshed, bracket_bare]
  cases h : (c.refreshed d.recorded).isPending <;> simp [bare, h]

lemma execute_bare (text : String) (params : Value) (c : Connection (Recorder σ)) :
    c.bare.execute d text params = (c.execute d.recorded text params).map id bare := by
  rw [execute, execute, query_bare]
  rcases c.query d.recorded text params with ⟨_ | _, c'⟩ <;> rfl

/-- What runs with a record is what runs without one. -/
theorem recorder_maps (d : Driver σ) : Executor.Maps bare (recorder d) (executor d) where
  execute text params c := execute_bare text (.list params) (c.announce .data)
  start c := start_bare (c.announce .bracket)
  commit c := bracket_bare "COMMIT" false (c.announce .bracket)
  rollback c := bracket_bare "ROLLBACK" false (c.announce .bracket)

end Connection

/-- A run with a record is the run without one, and the record beside it. -/
theorem Client.run_recorder (d : Driver σ) (p : Client α) (s : Session (Connection (Recorder σ))) :
    p.run (Connection.executor d) (s.map Connection.bare) =
      (p.run (Connection.recorder d) s).map id (Session.map Connection.bare) :=
  p.run_maps (Connection.recorder_maps d) s

/-! ### What the operations send -/

/-- A statement that opens or closes a transaction. -/
def Sent.ofBracket (text : String) (succeeded : Bool) : Sent :=
  ⟨.bracket, ⟨text, none⟩, succeeded⟩

namespace Connection

variable {d : Driver σ} {c : Connection (Recorder σ)}

/-- A statement that was made is sent, and its answer says whether the driver failed it. -/
lemma query_recorded {text : String} {params : Value} {q : DriverQuery}
    (h : DriverQuery.make text params = .ok q) (c : Connection (Recorder σ)) :
    (c.query d.recorded text params).2.sent =
        c.sent ++ [⟨c.server.purpose, q, (c.query d.recorded text params).1.isOk⟩] ∧
      (c.query d.recorded text params).2.isPending = c.isPending := by
  rw [query, h]
  simp only [Driver.recorded]
  rcases d.send q c.server.server with ⟨_ | _, server⟩ <;> exact ⟨rfl, rfl⟩

lemma query_refused {text : String} {params : Value} {e : Error}
    (h : DriverQuery.make text params = .error e) (c : Connection (Recorder σ)) :
    c.query d.recorded text params = (.error e, c) := by
  rw [query, h]

/-- A driver that stays open keeps the connection. -/
lemma isConnected_query (hd : d.StaysOpen) {c : Connection σ} (hc : c.isConnected d = true)
    (text : String) (params : Value) : (c.query d text params).2.isConnected d = true := by
  rw [query]
  cases DriverQuery.make text params with
  | error e => exact hc
  | ok q =>
    have hopen : d.isOpen (d.send q c.server).2 = true := hd q c.server hc
    rcases hsend : d.send q c.server with ⟨_ | _, server⟩ <;>
      simpa [isConnected, hsend] using hopen

/-- A query adds at most one statement to the record, for no bracket. -/
lemma execute_recorder (hd : d.StaysOpen) (hc : c.isConnected d.recorded = true) (text : String)
    (params : List Value) :
    ∃ new, ((recorder d).execute text params c).2.sent = c.sent ++ new ∧
      (∀ e ∈ new, e.purpose = .data) ∧
      ((recorder d).execute text params c).2.isPending = c.isPending ∧
      ((recorder d).execute text params c).2.isConnected d.recorded = true := by
  have hstate : ((recorder d).execute text params c).2 =
      ((c.announce .data).query d.recorded text (.list params)).2 := by
    simp only [recorder, executor, execute]
    rcases (c.announce .data).query d.recorded text (.list params) with ⟨_ | _, c'⟩ <;> rfl
  have hopen := isConnected_query hd.recorded (c := c.announce .data) hc text
    (.list params)
  rw [hstate]
  cases hmake : DriverQuery.make text (.list params) with
  | error e =>
    rw [query_refused hmake] at hopen ⊢
    exact ⟨[], by simp, by simp, rfl, hopen⟩
  | ok q =>
    obtain ⟨hsent, hpending⟩ := query_recorded (d := d) hmake (c.announce .data)
    exact ⟨_, hsent, by simp [announce], hpending, hopen⟩

/-- The bracket of a transaction adds itself to the record, and sets whether a transaction is
pending when it succeeds. -/
lemma bracket_recorder (hd : d.StaysOpen) (hc : c.isConnected d.recorded = true) {text : String}
    (htext : DriverQuery.make text (.list []) = .ok ⟨text, none⟩) (isPending : Bool) :
    let answer := (c.announce .bracket).bracket d.recorded text isPending
    answer.2.sent = c.sent ++ [Sent.ofBracket text answer.1.isOk] ∧
      answer.2.isPending = (if answer.1.isOk then isPending else c.isPending) ∧
      answer.2.isConnected d.recorded = true := by
  have hopen := isConnected_query hd.recorded (c := c.announce .bracket) hc text
    (.list [])
  obtain ⟨hsent, hpending⟩ := query_recorded (d := d) htext (c.announce .bracket)
  rw [bracket]
  rcases hquery : (c.announce .bracket).query d.recorded text (.list []) with ⟨_ | _, c'⟩ <;>
    rw [hquery] at hopen hsent hpending
  · exact ⟨hsent, hpending, hopen⟩
  · exact ⟨hsent, rfl, hopen⟩

/-- The statement that closes a transaction, by the answer of its body. -/
def closingText : Result α → String
  | .ok _ => "COMMIT"
  | .error _ => "ROLLBACK"

/-- A transaction that is opened inside another one is refused, and nothing is sent. -/
lemma start_recorder_of_isPending (hc : c.isConnected d.recorded = true)
    (hpending : c.isPending = true) :
    (recorder d).start c = (.error .nestedTransaction, c.announce .bracket) := by
  have hrefreshed : (c.announce .bracket).refreshed d.recorded = c.announce .bracket :=
    refreshed_of_isConnected hc
  simp only [recorder, executor, start, hrefreshed]
  exact if_pos hpending

/-- A transaction is opened by one statement, and is pending when that succeeds. -/
lemma start_recorder (hd : d.StaysOpen) (hc : c.isConnected d.recorded = true)
    (hpending : c.isPending = false) :
    let answer := (recorder d).start c
    answer.2.sent = c.sent ++ [Sent.ofBracket "BEGIN" answer.1.isOk] ∧
      answer.2.isPending = answer.1.isOk ∧ answer.2.isConnected d.recorded = true := by
  have hstart : (recorder d).start c = (c.announce .bracket).bracket d.recorded "BEGIN" true := by
    have hrefreshed : (c.announce .bracket).refreshed d.recorded = c.announce .bracket :=
      refreshed_of_isConnected hc
    simp only [recorder, executor, start, hrefreshed]
    exact if_neg (by simp [announce, hpending])
  have htext : DriverQuery.make "BEGIN" (.list []) = .ok ⟨"BEGIN", none⟩ := rfl
  obtain ⟨hsent, hafter, hopen⟩ := bracket_recorder hd hc htext true
  rw [hstart]
  refine ⟨hsent, ?_, hopen⟩
  rw [hafter, hpending]
  cases Except.isOk _ <;> rfl

/-- A transaction is closed by one statement, and is no longer pending when that succeeds. -/
lemma finish_recorder (hd : d.StaysOpen) (hc : c.isConnected d.recorded = true) (r : Result α) :
    let answer := (recorder d).finish r c
    answer.2.sent = c.sent ++ [Sent.ofBracket (closingText r) answer.1.isOk] ∧
      answer.2.isPending = (!answer.1.isOk && c.isPending) ∧
      answer.2.isConnected d.recorded = true := by
  have hclose : ∀ text, DriverQuery.make text (.list []) = .ok ⟨text, none⟩ →
      let answer := (c.announce .bracket).bracket d.recorded text false
      answer.2.sent = c.sent ++ [Sent.ofBracket text answer.1.isOk] ∧
        answer.2.isPending = (!answer.1.isOk && c.isPending) ∧
        answer.2.isConnected d.recorded = true := by
    intro text htext
    obtain ⟨hsent, hafter, hopen⟩ := bracket_recorder hd hc htext false
    refine ⟨hsent, ?_, hopen⟩
    rw [hafter]
    cases Except.isOk _ <;> rfl
  cases r with
  | ok a => exact hclose "COMMIT" rfl
  | error e => exact hclose "ROLLBACK" rfl

end Connection

end DocumentSql

/-
Well-bracketed transactions.

A client of queries and blocks, whatever it sends and however it fails, never opens a transaction
while one is pending, as long as the connection stays open.  What carries this is the relation
`Extends` between two states of a connection with a record: the second record goes on from the
first one, and reading what is new (`pendingAfter`) leads from the one pending flag to the other.
The operations of a connection keep it (`recorder_keeps`), so every run does.

The course of a single block is `Bracketed`: refused inside a transaction, ended by a BEGIN that
fails, or closed by exactly one statement behind its body.
-/
import DocumentSql.Proofs.Connection.Recorded

namespace DocumentSql

variable {σ α : Type}

/-! ### Reading a record -/

namespace Sent

/-- The statement opened a transaction. What a query says is not looked at: it is data. -/
def Opens (e : Sent) : Prop :=
  e.purpose = .bracket ∧ e.query.text = "BEGIN" ∧ e.succeeded = true

/-- The statement closed a transaction. -/
def Closes (e : Sent) : Prop :=
  e.purpose = .bracket ∧ (e.query.text = "COMMIT" ∨ e.query.text = "ROLLBACK") ∧
    e.succeeded = true

instance (e : Sent) : Decidable e.Opens := inferInstanceAs (Decidable (_ ∧ _))

instance (e : Sent) : Decidable e.Closes := inferInstanceAs (Decidable (_ ∧ _))

/-- Between two statements that opened transactions stands one that closed a transaction. -/
def WellBracketed (es : List Sent) : Prop :=
  ∀ before first between second after, es = before ++ first :: between ++ second :: after →
    first.Opens → second.Opens → ∃ e ∈ between, e.Closes

/-- Whether a transaction is pending behind statements; nothing, if one of them opened a
transaction while one was pending. -/
def pendingAfter (isPending : Bool) : List Sent → Option Bool
  | [] => some isPending
  | e :: es =>
    if e.Opens then if isPending then none else pendingAfter true es
    else if e.Closes then pendingAfter false es
    else pendingAfter isPending es

lemma pendingAfter_append (isPending : Bool) (es fs : List Sent) :
    pendingAfter isPending (es ++ fs) =
      (pendingAfter isPending es).bind fun b => pendingAfter b fs := by
  induction es generalizing isPending with
  | nil => rfl
  | cons e es ih =>
    simp only [List.cons_append, pendingAfter, ih]
    split
    · split <;> rfl
    · split <;> rfl

lemma pendingAfter_of_not_closes {es : List Sent} (h : ∀ e ∈ es, ¬ e.Closes) {b : Bool}
    (hb : pendingAfter true es = some b) : b = true := by
  induction es with
  | nil => simpa [pendingAfter, eq_comm] using hb
  | cons e es ih =>
    rw [pendingAfter, if_neg (h e (by simp))] at hb
    split at hb
    · simp at hb
    · exact ih (fun f hf => h f (by simp [hf])) hb

/-- Queries open and close nothing. -/
lemma pendingAfter_of_data {es : List Sent} (h : ∀ e ∈ es, e.purpose = .data)
    (isPending : Bool) : pendingAfter isPending es = some isPending := by
  induction es with
  | nil => rfl
  | cons e es ih =>
    have he := h e (by simp)
    rw [pendingAfter, if_neg (by simp [Opens, he]), if_neg (by simp [Closes, he]),
      ih fun f hf => h f (by simp [hf])]

/-- A record that can be read to its end is well bracketed. -/
lemma wellBracketed_of_pendingAfter {es : List Sent} {isPending b : Bool}
    (h : pendingAfter isPending es = some b) : WellBracketed es := by
  rintro before first between second after rfl hfirst hsecond
  by_contra hnone
  have hnot : ∀ e ∈ between, ¬ e.Closes := fun e he hcloses => hnone ⟨e, he, hcloses⟩
  rw [pendingAfter_append, pendingAfter_append] at h
  obtain ⟨b₂, h₂, hrest⟩ := Option.bind_eq_some_iff.1 h
  obtain ⟨b₁, -, h₁⟩ := Option.bind_eq_some_iff.1 h₂
  rw [pendingAfter, if_pos hfirst] at h₁
  split at h₁
  · simp at h₁
  · -- the first transaction is still pending when the second one is opened
    rw [pendingAfter_of_not_closes hnot h₁, pendingAfter, if_pos hsecond] at hrest
    simp at hrest

@[simp] lemma pendingAfter_begin (ok : Bool) :
    pendingAfter false [ofBracket "BEGIN" ok] = some ok := by
  cases ok <;> simp [pendingAfter, ofBracket, Opens, Closes]

@[simp] lemma pendingAfter_closing (r : Result α) (ok : Bool) :
    pendingAfter true [ofBracket (Connection.closingText r) ok] = some (!ok) := by
  cases r <;> cases ok <;>
    simp [pendingAfter, ofBracket, Opens, Closes, Connection.closingText]

end Sent

namespace Connection

open Sent

variable {d : Driver σ}

/-! ### What every run adds to the record -/

/-- The connection went on from one state to another: its record goes on, the pending flag follows
what was sent, and inside a transaction nothing but queries was sent. -/
def Extends (d : Driver σ) (c c' : Connection (Recorder σ)) : Prop :=
  c.isConnected d.recorded = true → ∃ new, c'.sent = c.sent ++ new ∧
    c'.isConnected d.recorded = true ∧ pendingAfter c.isPending new = some c'.isPending ∧
    (c.isPending = true → ∀ e ∈ new, e.purpose = .data)

namespace Extends

lemma refl (c : Connection (Recorder σ)) : Extends d c c :=
  fun hc => ⟨[], by simp, hc, rfl, by simp⟩

lemma trans {a b c : Connection (Recorder σ)} (h : Extends d a b) (h' : Extends d b c) :
    Extends d a c := by
  intro ha
  obtain ⟨new, hsent, hb, hafter, hdata⟩ := h ha
  obtain ⟨new', hsent', hc, hafter', hdata'⟩ := h' hb
  refine ⟨new ++ new', by rw [hsent', hsent, List.append_assoc], hc, ?_, ?_⟩
  · rw [pendingAfter_append, hafter]
    exact hafter'
  · intro hpending e he
    have hstill : b.isPending = true := by
      rw [hpending, pendingAfter_of_data (hdata hpending)] at hafter
      exact (Option.some.inj hafter).symm
    rcases List.mem_append.1 he with he | he
    · exact hdata hpending e he
    · exact hdata' hstill e he

end Extends

/-- A body behind a BEGIN that succeeded sends queries only, and one statement closes its
transaction behind it. -/
lemma transaction_recorder (hd : d.StaysOpen) {body : Run (Connection (Recorder σ)) α}
    (hbody : ∀ s, Extends d s.store (body s).2.store) {s s₁ : Session (Connection (Recorder σ))}
    (hc : s.store.isConnected d.recorded = true)
    (hstart : Executor.lift (recorder d).start s = (.ok (), s₁)) :
    let closing := (recorder d).finish (body s₁).1 (body s₁).2.store
    let answer := (recorder d).transaction body s
    s.store.isPending = false ∧ answer.1 = Executor.closed (body s₁).1 closing.1 ∧
      answer.2.store.isPending = (!closing.1.isOk) ∧
      answer.2.store.isConnected d.recorded = true ∧
      ∃ inner, (∀ e ∈ inner, e.purpose = .data) ∧ answer.2.store.sent = s.store.sent ++
        (ofBracket "BEGIN" true :: inner ++ [ofBracket (closingText (body s₁).1) closing.1.isOk]) := by
  dsimp only
  have hok : ((recorder d).start s.store).1 = .ok () := congrArg Prod.fst hstart
  have hs₁ : ((recorder d).start s.store).2 = s₁.store := congrArg (fun a => a.2.store) hstart
  have hpending : s.store.isPending = false := by
    by_contra hp
    rw [start_recorder_of_isPending hc (by simpa using hp)] at hok
    simp at hok
  obtain ⟨hsent₁, hpending₁, hconnected₁⟩ := start_recorder hd hc hpending
  rw [hok, hs₁] at hsent₁ hpending₁
  rw [hs₁] at hconnected₁
  obtain ⟨inner, hsent₂, hconnected₂, hafter, hdata⟩ := hbody s₁ hconnected₁
  have hinner := hdata hpending₁
  have hpending₂ : (body s₁).2.store.isPending = true := by
    rw [pendingAfter_of_data hinner] at hafter
    rw [← Option.some.inj hafter, hpending₁]
    rfl
  obtain ⟨hsent₃, hpending₃, hconnected₃⟩ := finish_recorder hd hconnected₂ (body s₁).1
  rw [Executor.transaction_of_start_ok hstart]
  refine ⟨hpending, rfl, ?_, hconnected₃, inner, hinner, ?_⟩
  · exact hpending₃.trans (by rw [hpending₂, Bool.and_true])
  · refine hsent₃.trans ?_
    rw [hsent₂, hsent₁]
    simp [Except.isOk, Except.toBool]

/-- What the operations of a connection add to its record. -/
lemma recorder_keeps (hd : d.StaysOpen) : (recorder d).Keeps (Extends d) where
  refl := Extends.refl
  trans := Extends.trans
  execute text params c := by
    intro hc
    obtain ⟨new, hsent, hdata, hpending, hconnected⟩ := execute_recorder hd hc text params
    exact ⟨new, hsent, hconnected, by rw [pendingAfter_of_data hdata, hpending], fun _ => hdata⟩
  transaction body hbody s := by
    intro hc
    rcases hstart : Executor.lift (recorder d).start s with ⟨e | _, s₁⟩
    · have hs₁ : ((recorder d).start s.store).2 = s₁.store :=
        congrArg (fun a => a.2.store) hstart
      rw [Executor.transaction_of_start_error hstart, ← hs₁]
      cases hpending : s.store.isPending with
      | true =>
        -- refused inside a transaction
        rw [start_recorder_of_isPending hc hpending]
        exact ⟨[], by simp, hc, by simp [pendingAfter, announce, hpending], by simp⟩
      | false =>
        obtain ⟨hsent, hafter, hconnected⟩ := start_recorder hd hc hpending
        exact ⟨_, hsent, hconnected, by rw [pendingAfter_begin, hafter], by simp⟩
    · obtain ⟨hpending, -, hafter, hconnected, inner, hinner, hsent⟩ :=
        transaction_recorder hd hbody hc hstart
      refine ⟨_, hsent, hconnected, ?_, by simp [hpending]⟩
      rw [hpending, List.cons_append, ← List.singleton_append, pendingAfter_append,
        pendingAfter_begin, Option.bind_some, pendingAfter_append, pendingAfter_of_data hinner,
        Option.bind_some, pendingAfter_closing, hafter]

/-- The record of a run goes on from what was sent before. -/
theorem extends_run (hd : d.StaysOpen) (p : Client α) (s : Session (Connection (Recorder σ))) :
    Extends d s.store (p.run (recorder d) s).2.store :=
  p.run_keeps (recorder_keeps hd) s

/-! ### The course of a block -/

/-- How a client inside a transaction goes. -/
structure Bracketed (d : Driver σ) (body : Client α) (s : Session (Connection (Recorder σ))) :
    Prop where
  /-- Inside a transaction the block is refused, and nothing is sent. -/
  refused : s.store.inTransaction d.recorded = true →
    (body.block.run (recorder d) s).1 = .error .nestedTransaction ∧
      Error.nestedTransaction.kind? = some .store ∧
      (body.block.run (recorder d) s).2.store.sent = s.store.sent
  /-- When BEGIN fails, the block fails the same way, and nothing else is sent. -/
  unopened : s.store.inTransaction d.recorded = false →
    ∀ e s₁, Executor.lift (recorder d).start s = (.error e, s₁) →
      (body.block.run (recorder d) s).1 = .error e ∧
        (body.block.run (recorder d) s).2.store.sent =
          s.store.sent ++ [ofBracket "BEGIN" false]
  /-- When BEGIN succeeds, the body sends queries only, and behind it exactly one closing statement
  is sent: COMMIT when the body succeeded, ROLLBACK when it failed. The block answers as its body
  does, unless the closing statement fails. -/
  closed : ∀ s₁, Executor.lift (recorder d).start s = (.ok (), s₁) →
    let ended := body.run (recorder d) s₁
    let closing := (recorder d).finish ended.1 ended.2.store
    (∃ inner, (∀ e ∈ inner, e.purpose = .data) ∧
      (body.block.run (recorder d) s).2.store.sent = s.store.sent ++
        (ofBracket "BEGIN" true :: inner ++
          [ofBracket (closingText ended.1) closing.1.isOk])) ∧
      (closing.1 = .ok () → (body.block.run (recorder d) s).1 = ended.1) ∧
      ∀ e, closing.1 = .error e → (body.block.run (recorder d) s).1 = .error e

lemma bracketed_block (hd : d.StaysOpen) (body : Client α)
    {s : Session (Connection (Recorder σ))} (hc : s.store.isConnected d.recorded = true) :
    Bracketed d body s where
  refused hin := by
    have hpending : s.store.isPending = true := by
      rwa [inTransaction_of_isConnected hc] at hin
    have hstart : Executor.lift (recorder d).start s =
        (.error .nestedTransaction, { s with store := s.store.announce .bracket }) := by
      rw [Executor.lift, start_recorder_of_isPending hc hpending]
    rw [Client.run, Executor.transaction_of_start_error hstart]
    exact ⟨rfl, rfl, rfl⟩
  unopened hin e s₁ hstart := by
    have hpending : s.store.isPending = false := by
      rwa [inTransaction_of_isConnected hc] at hin
    have hfailed : ((recorder d).start s.store).1 = .error e := congrArg Prod.fst hstart
    have hs₁ : ((recorder d).start s.store).2 = s₁.store :=
      congrArg (fun a => a.2.store) hstart
    obtain ⟨hsent, -, -⟩ := start_recorder hd hc hpending
    rw [hs₁, hfailed] at hsent
    rw [Client.run, Executor.transaction_of_start_error hstart]
    exact ⟨rfl, hsent⟩
  closed s₁ hstart := by
    obtain ⟨-, hanswer, -, -, hsent⟩ :=
      transaction_recorder hd (extends_run hd body) hc hstart
    refine ⟨hsent, fun hok => ?_, fun e he => ?_⟩
    · rw [Client.run, hanswer, hok]
      rfl
    · rw [Client.run, hanswer, he]
      rfl

/-- Transactions are well bracketed: whatever a client sends and however it fails, between two
transactions that it opens one is closed, and each of its blocks goes its course wherever it
stands. -/
theorem run_bracketed {d : Driver σ} (hd : d.StaysOpen) (p : Client α)
    (s : Session (Connection (Recorder σ))) (hc : s.store.isConnected d.recorded = true)
    (hfresh : s.store.sent = []) :
    WellBracketed (p.run (recorder d) s).2.store.sent ∧
      ∀ {β : Type} (body : Client β) (t : Session (Connection (Recorder σ))),
        t.store.isConnected d.recorded = true → Bracketed d body t := by
  obtain ⟨new, hsent, -, hafter, -⟩ := extends_run hd p s hc
  refine ⟨?_, fun body t ht => bracketed_block hd body ht⟩
  rw [hsent, hfresh, List.nil_append]
  exact wellBracketed_of_pendingAfter hafter

/-- Two blocks one after the other. The first one sends a statement; the second one recovers from
one that fails, and opens a block of its own. -/
def twoBlocks : Client Unit :=
  .bind (.block (.query "SELECT 1" [])) fun _ =>
    .recover (.block (.bind (.recover (.query "SELECT 2" []) fun _ => .pure []) fun _ =>
      .block (.pure ()))) fun _ => .pure ()

/-- A connection that has sent nothing yet. -/
def unsent : Session (Connection (Recorder Unit)) := ⟨⟨default, ⟨(), .data, []⟩, false⟩, []⟩

/-- The inner block is refused, so the second block is rolled back. -/
theorem twoBlocks_bracketed :
    let sent := (twoBlocks.run (recorder (Driver.refusing "SELECT 2")) unsent).2.store.sent
    sent.map (fun e => (e.query.text, e.succeeded)) =
        [("BEGIN", true), ("SELECT 1", true), ("COMMIT", true), ("BEGIN", true),
          ("SELECT 2", false), ("ROLLBACK", true)] ∧
      WellBracketed sent ∧
      Bracketed (Driver.refusing "SELECT 2") twoBlocks unsent := by
  have h := run_bracketed (Driver.refusing_staysOpen "SELECT 2") twoBlocks unsent rfl rfl
  exact ⟨by decide +kernel, h.1, h.2 twoBlocks unsent rfl⟩

end Connection

end DocumentSql

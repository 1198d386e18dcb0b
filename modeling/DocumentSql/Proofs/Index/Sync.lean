/-
Declaring and dropping indexes over whole runs.

A catalog in memory that reports what was issued, or the same with the table qualified by the
schema, stands for the store.  What one call does to it is a relation between the definitions held
before and after, the changes sent and the answer (`IndexStep.Does`): an index that is absent is
created, one that is held as declared is left alone, any other is dropped and created, and no other
name is touched.  Every call of a run is in that relation, whatever the catalog held at its start
(`IndexStep.runAll_synchronizes`).
-/
import DocumentSql.Proofs.Catalog.Memory
import DocumentSql.Index.Program

namespace DocumentSql

open MemoryCatalog

/-! ### Single statements -/

namespace Run

variable {σ α β : Type}

/-- A run whose first part succeeds goes on with the second. -/
lemma bind_of_ok {x : Run σ α} {f : α → Run σ β} {s s' : Session σ} {a : α}
    (h : x s = (.ok a, s')) : (x >>= f) s = f a s' := by
  simp [Bind.bind, bind, h]

end Run

namespace Catalog

variable {c : Catalog} {s : Session MemoryCatalog} {name : String}

lemma indexExists_eq : c.indexExists executor (.text name) s =
    (.ok (s.store.held name).isSome,
      { s with store := s.store.record existsText [c.schemaName, .text name] }) := by
  have hrun : executor.run existsText [c.schemaName, .text name] s = (_, _) :=
    congrArg (fun r => (r.1, { s with store := r.2 })) (execute_exists c.schemaName)
  rw [indexExists, Run.bind_of_ok hrun]
  cases s.store.held name <;> rfl

lemma indexDefinition_eq : c.indexDefinition executor (.text name) s =
    (.ok ((s.store.held name).getD .null),
      { s with store := s.store.record definitionText [c.schemaName, .text name] }) := by
  have hrun : executor.run definitionText [c.schemaName, .text name] s = (_, _) :=
    congrArg (fun r => (r.1, { s with store := r.2 })) (execute_definition c.schemaName)
  rw [indexDefinition, Run.bind_of_ok hrun]
  cases s.store.held name <;> rfl

end Catalog

/-! ### What a catalog becomes -/

/-- A definition is reported in a form that the catalog's view accepts: as it was issued, or
qualified by a schema that has a name. -/
def ReportForm.IsFaithful (c : Catalog) : ReportForm → Prop
  | .plain => True
  | .qualify => c.schemaName.truth = true
  | .mangle => False
  | .forget => False

namespace MemoryCatalog

variable {c : Catalog} {m n o : MemoryCatalog} {held held' : Holdings}
  {sent sent' : List (String × List Value)}

/-- The catalog reports definitions as they were issued, or with the table qualified by the schema
of the view. -/
structure IsFaithful (c : Catalog) (m : MemoryCatalog) : Prop where
  schemaName_eq : m.schemaName = c.schemaName.plainText
  form : m.form.IsFaithful c

/-- The statements that are no questions about an index. -/
def changesOf (sent : List (String × List Value)) : List (String × List Value) :=
  sent.filter fun t => t.1 != Catalog.existsText && t.1 != Catalog.definitionText

lemma changesOf_append : changesOf (sent ++ sent') = changesOf sent ++ changesOf sent' :=
  List.filter_append sent sent'

lemma changesOf_singleton {text : String}
    (h : begins "CREATE" text = true ∨ begins "DROP INDEX" text = true) :
    changesOf [(text, [])] = [(text, [])] := by
  have hexists : text ≠ Catalog.existsText := by
    rintro rfl
    simp [begins, Catalog.existsText, List.isPrefixOf] at h
  have hdefinition : text ≠ Catalog.definitionText := by
    rintro rfl
    simp [begins, Catalog.definitionText, List.isPrefixOf] at h
  simp [changesOf, hexists, hdefinition]

/-- One catalog becomes another, which holds the given definitions, by the given changes. -/
structure Becomes (m n : MemoryCatalog) (held : Holdings) (changes : List (String × List Value)) :
    Prop where
  form_eq : n.form = m.form
  schemaName_eq : n.schemaName = m.schemaName
  held_eq : n.held = held
  changes_eq : changesOf n.sent = changesOf m.sent ++ changes

namespace Becomes

lemma faithful (h : m.Becomes n held sent) (hm : m.IsFaithful c) : n.IsFaithful c where
  schemaName_eq := h.schemaName_eq.trans hm.schemaName_eq
  form := h.form_eq ▸ hm.form

lemma trans (h : m.Becomes n held sent) (h' : n.Becomes o held' sent') :
    m.Becomes o held' (sent ++ sent') where
  form_eq := h'.form_eq.trans h.form_eq
  schemaName_eq := h'.schemaName_eq.trans h.schemaName_eq
  held_eq := h'.held_eq
  changes_eq := by rw [h'.changes_eq, h.changes_eq, List.append_assoc]

lemma refl (m : MemoryCatalog) : m.Becomes m m.held [] where
  form_eq := rfl
  schemaName_eq := rfl
  held_eq := rfl
  changes_eq := (List.append_nil _).symm

/-- A question changes nothing. -/
lemma asked (h : m.Becomes n held sent) {text : String}
    (htext : text = Catalog.existsText ∨ text = Catalog.definitionText) (params : List Value) :
    m.Becomes (n.record text params) held sent where
  form_eq := h.form_eq
  schemaName_eq := h.schemaName_eq
  held_eq := h.held_eq
  changes_eq := by
    have hnone : changesOf [(text, params)] = [] := by
      rcases htext with rfl | rfl <;> simp [changesOf]
    simp only [record, changesOf_append, hnone, List.append_nil, h.changes_eq]

lemma created {text : String} (htext : begins "CREATE" text = true) (name definition : String) :
    m.Becomes (m.created text name definition)
      (Function.update m.held name (some (.text definition))) [(text, [])] where
  form_eq := rfl
  schemaName_eq := rfl
  held_eq := by
    funext key
    simp [Function.update_apply]
  changes_eq := by
    have hchange := changesOf_singleton (Or.inl htext)
    simp only [MemoryCatalog.created, record, changesOf_append, hchange]

lemma dropped {text : String} (htext : begins "DROP INDEX" text = true) (name : String) :
    m.Becomes (m.dropped text name) (Function.update m.held name none) [(text, [])] where
  form_eq := rfl
  schemaName_eq := rfl
  held_eq := by
    funext key
    simp [Function.update_apply]
  changes_eq := by
    have hchange := changesOf_singleton (Or.inr htext)
    simp only [MemoryCatalog.dropped, record, changesOf_append, hchange]

end Becomes

end MemoryCatalog

/-! ### Runs that answer -/

namespace Run

variable {α β : Type} {x : Run MemoryCatalog α} {f : α → Run MemoryCatalog β}
  {s : Session MemoryCatalog} {a : α} {b : β} {held held' : Holdings}
  {changes changes' : List (String × List Value)}

/-- The run answers a value, and leaves a catalog that holds the given definitions and received the
given changes. -/
def Does (x : Run MemoryCatalog α) (s : Session MemoryCatalog) (a : α) (held : Holdings)
    (changes : List (String × List Value)) : Prop :=
  ∃ s', x s = (.ok a, s') ∧ s.store.Becomes s'.store held changes

lemma does_pure (a : α) (s : Session MemoryCatalog) :
    Does (Pure.pure a) s a s.store.held [] :=
  ⟨s, rfl, .refl s.store⟩

/-- One run after another: what the two send is what the first sends and what the second sends. -/
lemma Does.next {s' : Session MemoryCatalog} (hx : x s = (.ok a, s'))
    (hbecomes : s.store.Becomes s'.store held changes) (hf : Does (f a) s' b held' changes') :
    Does (x >>= f) s b held' (changes ++ changes') := by
  obtain ⟨s'', hrun, hbecomes'⟩ := hf
  exact ⟨s'', (bind_of_ok hx).trans hrun, hbecomes.trans hbecomes'⟩

/-- Before a run, an answer without a run. -/
lemma Does.ofResult {r : Result α} (h : r = .ok a) (hf : Does (f a) s b held changes) :
    Does (Run.ofResult r >>= f) s b held changes := by
  subst h
  exact hf

/-- Before a run, something that changes nothing. -/
lemma Does.after {s' : Session MemoryCatalog} (hx : x s = (.ok a, s'))
    (hbecomes : s.store.Becomes s'.store s.store.held []) (hf : Does (f a) s' b held changes) :
    Does (x >>= f) s b held changes :=
  .next hx hbecomes hf

/-- After a run, something that changes nothing. -/
lemma Does.before (hx : Does x s a held changes)
    (hf : ∀ s', s.store.Becomes s'.store held changes → Does (f a) s' b held []) :
    Does (x >>= f) s b held changes := by
  obtain ⟨s', hrun, hbecomes⟩ := hx
  have hboth := Does.next hrun hbecomes (hf s' hbecomes)
  rwa [List.append_nil] at hboth

end Run

namespace Catalog

variable {c : Catalog} {s : Session MemoryCatalog} {name : String}

lemma indexExists_does (c : Catalog) (name : String) (s : Session MemoryCatalog) :
    Run.Does (c.indexExists executor (.text name)) s (s.store.held name).isSome s.store.held [] :=
  ⟨_, indexExists_eq, (Becomes.refl s.store).asked (Or.inl rfl) _⟩

lemma indexDefinition_does (c : Catalog) (name : String) (s : Session MemoryCatalog) :
    Run.Does (c.indexDefinition executor (.text name)) s ((s.store.held name).getD .null)
      s.store.held [] :=
  ⟨_, indexDefinition_eq, (Becomes.refl s.store).asked (Or.inr rfl) _⟩

end Catalog

/-! ### Single calls -/

/-- The name of an index, the definition that is issued for it, and its accepted forms. -/
structure IndexSpec.Forms (procedures : Procedures) (c : Catalog) (spec : IndexSpec)
    (name plain : String) (accepted : List String) : Prop where
  name_eq : spec.name procedures = .ok name
  plain_eq : spec.definition procedures .null = .ok plain
  accepted_eq : spec.definitions procedures c.schemaName = .ok accepted

namespace IndexSpec

variable {c : Catalog} {procedures : Procedures} {spec : IndexSpec} {name plain : String}
  {accepted : List String}

lemma IsIndexable.exists_forms (h : spec.IsIndexable) (procedures : Procedures) (c : Catalog) :
    ∃ name plain accepted, spec.Forms procedures c name plain accepted := by
  obtain ⟨name, expr, hname, hexpr⟩ := h.exists_name procedures
  exact ⟨name, _, _, hname, definition_eq hname hexpr .null,
    definitions_eq hname hexpr c.schemaName⟩

lemma Forms.exists_createText (h : spec.Forms procedures c name plain accepted) :
    ∃ expr, spec.expression procedures = .ok expr ∧
      plain = createText spec.unique name spec.entity.table expr ∧
      accepted = [plain, createText spec.unique name (spec.qualifiedTable c.schemaName) expr] := by
  have hplain := h.plain_eq
  obtain ⟨_, -, hrest⟩ := Result.bind_eq_ok_iff.1 hplain
  obtain ⟨expr, hexpr, -⟩ := Result.bind_eq_ok_iff.1 hrest
  rw [definition_eq h.name_eq hexpr] at hplain
  have haccepted := h.accepted_eq
  rw [definitions_eq h.name_eq hexpr] at haccepted
  obtain rfl := Except.ok.inj hplain
  exact ⟨expr, hexpr, rfl, (Except.ok.inj haccepted).symm⟩

lemma Forms.name_unique {name' plain' : String} {accepted' : List String}
    (h : spec.Forms procedures c name plain accepted)
    (h' : spec.Forms procedures c name' plain' accepted') : name = name' :=
  Except.ok.inj (h.name_eq.symm.trans h'.name_eq)

lemma Forms.accepted_unique {name' plain' : String} {accepted' : List String}
    (h : spec.Forms procedures c name plain accepted)
    (h' : spec.Forms procedures c name' plain' accepted') : accepted = accepted' :=
  Except.ok.inj (h.accepted_eq.symm.trans h'.accepted_eq)

/-- A faithful catalog reports the definition that was issued in one of its accepted forms. -/
lemma Forms.exists_reported {m : MemoryCatalog} (h : spec.Forms procedures c name plain accepted)
    (hm : m.IsFaithful c) :
    ∃ d ∈ accepted, execute plain [] m = (.ok [], m.created plain name d) ∧
      begins "CREATE" plain = true := by
  obtain ⟨hne, hchars⟩ := isIndexChar_of_name h.name_eq
  obtain ⟨expr, -, rfl, rfl⟩ := h.exists_createText
  have hform : m.form = .plain ∨ m.form = .qualify := by
    have hform := hm.form
    cases hf : m.form <;> simp_all [ReportForm.IsFaithful]
  refine ⟨_, ?_, execute_create hform hchars hne spec.unique spec.entity.table expr, ?_⟩
  · rcases hform with hf | hf
    · simp [reportedTable, hf]
    · have htruth : c.schemaName.truth = true := by
        have hform := hm.form
        rwa [hf] at hform
      simp [reportedTable, hf, qualifiedTable, htruth, hm.schemaName_eq]
  · cases spec.unique <;> simp [createText, begins, List.isPrefixOf]

end IndexSpec

namespace Index

open Run

variable {c : Catalog} {procedures : Procedures} {spec : IndexSpec} {s : Session MemoryCatalog}
  {name plain : String} {accepted : List String}

lemma isAccepted_text {d : String} (h : d ∈ accepted) : isAccepted accepted (.text d) = true := by
  simpa [isAccepted, Value.asText?] using h

/-- The statement that drops an index. -/
lemma drop_statement_does {words : String}
    (hwords : words = "DROP INDEX " ∨ words = "DROP INDEX IF EXISTS ")
    (h : spec.name procedures = .ok name) (s : Session MemoryCatalog) :
    Does (executor.run (words ++ name) []) s [] (Function.update s.store.held name none)
      [(words ++ name, [])] := by
  obtain ⟨hne, hchars⟩ := IndexSpec.isIndexChar_of_name h
  have hblank : ' ' ∉ name.toList := fun hc => (hchars _ hc).ne (by decide) (by decide) rfl
  have hbegins : begins "DROP INDEX" (words ++ name) = true := by
    rcases hwords with rfl | rfl <;> simp [begins, List.isPrefixOf]
  exact ⟨{ s with store := _ }, congrArg (fun r => (r.1, { s with store := r.2 }))
    (execute_drop hwords hne hblank), .dropped hbegins name⟩

/-- The statement that creates an index leaves an accepted definition under its name. -/
lemma create_statement_does (h : spec.Forms procedures c name plain accepted)
    (hs : s.store.IsFaithful c) :
    ∃ d ∈ accepted, Does (executor.run plain []) s []
      (Function.update s.store.held name (some (.text d))) [(plain, [])] := by
  obtain ⟨d, hd, hexecute, hbegins⟩ := h.exists_reported hs
  exact ⟨d, hd, { s with store := _ },
    congrArg (fun r => (r.1, { s with store := r.2 })) hexecute, .created hbegins name d⟩

lemma create_does (h : spec.Forms procedures c name plain accepted) (hs : s.store.IsFaithful c) :
    ∃ d ∈ accepted, Does (create executor procedures c spec) s ()
      (Function.update s.store.held name (some (.text d))) [(plain, [])] := by
  obtain ⟨d, hd, hcreate⟩ := create_statement_does h hs
  -- the definition is read back, and what a faithful catalog reports is accepted
  refine ⟨d, hd, .ofResult h.plain_eq (hcreate.before fun s₁ h₁ => .ofResult h.name_eq ?_)⟩
  have hheld : s₁.store.held name = some (.text d) := by simp [h₁.held_eq]
  obtain ⟨s₂, hrun, h₂⟩ := Catalog.indexDefinition_does c name s₁
  refine .after hrun h₂ (.ofResult h.accepted_eq ?_)
  rw [hheld, Option.getD_some, isAccepted_text hd, if_pos rfl, ← h₁.held_eq, ← h₂.held_eq]
  exact does_pure () s₂

/-- An index that is absent is created. -/
lemma declare_of_absent (hspec : spec.IsIndexable) (h : spec.Forms procedures c name plain accepted)
    (hs : s.store.IsFaithful c) (hheld : s.store.held name = none) :
    ∃ d ∈ accepted, Does (declare executor procedures c spec) s .created
      (Function.update s.store.held name (some (.text d))) [(plain, [])] := by
  obtain ⟨s₁, hexists, h₁⟩ := Catalog.indexExists_does c name s
  rw [hheld] at hexists
  obtain ⟨d, hd, hcreate⟩ := create_does h (h₁.faithful hs)
  rw [h₁.held_eq] at hcreate
  refine ⟨d, hd, .ofResult hspec.check_eq (.ofResult h.name_eq (.after hexists h₁ ?_))⟩
  exact hcreate.before fun s₂ h₂ => .after rfl (.refl s₂.store) (h₂.held_eq ▸ does_pure _ _)

/-- An index that is held as it is declared is left alone. -/
lemma declare_of_accepted {v : Value} (hspec : spec.IsIndexable)
    (h : spec.Forms procedures c name plain accepted) (hheld : s.store.held name = some v)
    (hv : isAccepted accepted v = true) :
    Does (declare executor procedures c spec) s .unchanged s.store.held [] := by
  obtain ⟨s₁, hexists, h₁⟩ := Catalog.indexExists_does c name s
  obtain ⟨s₂, hdefinition, h₂⟩ := Catalog.indexDefinition_does c name s₁
  rw [h₁.held_eq, hheld] at hdefinition
  rw [hheld] at hexists
  refine .ofResult hspec.check_eq (.ofResult h.name_eq (.after hexists h₁ ?_))
  refine .after hdefinition h₂ (.ofResult h.accepted_eq ?_)
  rw [Option.getD_some, if_pos hv, ← h₁.held_eq, ← h₂.held_eq]
  exact does_pure _ s₂

/-- An index that is held otherwise is dropped and created. -/
lemma declare_of_other {v : Value} (hspec : spec.IsIndexable)
    (h : spec.Forms procedures c name plain accepted) (hs : s.store.IsFaithful c)
    (hheld : s.store.held name = some v) (hv : isAccepted accepted v = false) :
    ∃ d ∈ accepted, Does (declare executor procedures c spec) s .rebuilt
      (Function.update s.store.held name (some (.text d)))
      [("DROP INDEX IF EXISTS " ++ name, []), (plain, [])] := by
  obtain ⟨s₁, hexists, h₁⟩ := Catalog.indexExists_does c name s
  obtain ⟨s₂, hdefinition, h₂⟩ := Catalog.indexDefinition_does c name s₁
  rw [h₁.held_eq, hheld] at hdefinition
  rw [hheld] at hexists
  -- that the index is rebuilt is logged before it is dropped
  obtain ⟨s₃, hdrop, h₃⟩ := drop_statement_does (Or.inr rfl) h.name_eq
    { s₂ with log := s₂.log ++
      [.info ("Index " ++ name ++ " differs from its declaration, rebuilding")] }
  obtain ⟨d, hd, hcreate⟩ := create_does h (h₃.faithful (h₂.faithful (h₁.faithful hs)))
  refine ⟨d, hd, .ofResult hspec.check_eq (.ofResult h.name_eq (.after hexists h₁ ?_))⟩
  refine .after hdefinition h₂ (.ofResult h.accepted_eq ?_)
  rw [Option.getD_some, if_neg (by simp [hv])]
  refine .after rfl (.refl s₂.store) ?_
  rw [h₃.held_eq, Function.update_idem, h₂.held_eq, h₁.held_eq] at hcreate
  refine .next hdrop h₃ (hcreate.before fun s₄ h₄ => ?_)
  exact h₄.held_eq ▸ does_pure _ s₄

end Index

/-! ### Whole runs -/

namespace IndexStep

open Run

variable {c : Catalog} {procedures : Procedures} {steps : List IndexStep} {step : IndexStep}
  {s : Session MemoryCatalog} {held held' : Holdings} {answer : Value}
  {changes : List (String × List Value)} {answers : List Answer}

/-- What a step does to a catalog that holds definitions: its answer, the changes that it sends,
and the definitions held afterwards.  The answer tells what was held under the name of the index:
nothing, an accepted definition, or another one.  Under every other name nothing changes. -/
inductive Does (procedures : Procedures) (c : Catalog) (held : Holdings) :
    IndexStep → Value → List (String × List Value) → Holdings → Prop
  | created {spec : IndexSpec} {name plain d : String} {accepted : List String}
    (h : spec.Forms procedures c name plain accepted) (hheld : held name = none)
    (hd : d ∈ accepted) :
    Does procedures c held (declare spec) (.text "created") [(plain, [])]
      (Function.update held name (some (.text d)))
  | unchanged {spec : IndexSpec} {name plain : String} {accepted : List String} {v : Value}
    (h : spec.Forms procedures c name plain accepted) (hheld : held name = some v)
    (hv : Index.isAccepted accepted v = true) :
    Does procedures c held (declare spec) (.text "unchanged") [] held
  | rebuilt {spec : IndexSpec} {name plain d : String} {accepted : List String} {v : Value}
    (h : spec.Forms procedures c name plain accepted) (hheld : held name = some v)
    (hv : Index.isAccepted accepted v = false) (hd : d ∈ accepted) :
    Does procedures c held (declare spec) (.text "rebuilt")
      [("DROP INDEX IF EXISTS " ++ name, []), (plain, [])]
      (Function.update held name (some (.text d)))
  | absent {spec : IndexSpec} {name : String} (h : spec.name procedures = .ok name)
    (hheld : held name = none) :
    Does procedures c held (drop spec) (.bool false) [] held
  | dropped {spec : IndexSpec} {name : String} {v : Value} (h : spec.name procedures = .ok name)
    (hheld : held name = some v) :
    Does procedures c held (drop spec) (.bool true) [("DROP INDEX " ++ name, [])]
      (Function.update held name none)
  | reported (form : Option ReportForm) : Does procedures c held (report form) .null [] held

/-- After a step that declares an index, an accepted definition is held under its name. -/
lemma Does.exists_accepted {spec : IndexSpec}
    (h : Does procedures c held (declare spec) answer changes held') :
    ∃ name plain accepted v, spec.Forms procedures c name plain accepted ∧
      held' name = some v ∧ Index.isAccepted accepted v = true := by
  cases h with
  | created hforms hheld hd =>
    exact ⟨_, _, _, _, hforms, Function.update_self .., Index.isAccepted_text hd⟩
  | unchanged hforms hheld hv => exact ⟨_, _, _, _, hforms, hheld, hv⟩
  | rebuilt hforms hheld hv hd =>
    exact ⟨_, _, _, _, hforms, Function.update_self .., Index.isAccepted_text hd⟩

/-- A step that declares an index for which an accepted definition is held changes nothing. -/
lemma Does.unchanged_of_accepted {spec : IndexSpec} {name plain : String} {accepted : List String}
    {v : Value} (h : Does procedures c held (declare spec) answer changes held')
    (hforms : spec.Forms procedures c name plain accepted) (hheld : held name = some v)
    (hv : Index.isAccepted accepted v = true) :
    answer = .text "unchanged" ∧ changes = [] ∧ held' = held := by
  cases h with
  | created hforms' hnone hd =>
    obtain rfl := hforms.name_unique hforms'
    simp [hheld] at hnone
  | unchanged => exact ⟨rfl, rfl, rfl⟩
  | rebuilt hforms' hheld' hv' hd =>
    obtain rfl := hforms.name_unique hforms'
    obtain rfl := hforms.accepted_unique hforms'
    obtain rfl := Option.some.inj (hheld.symm.trans hheld')
    simp [hv] at hv'

/-- Declaring an index answers, and does what the step of it does. -/
lemma declare_does {spec : IndexSpec} (procedures : Procedures) (hs : s.store.IsFaithful c)
    (hspec : spec.IsIndexable) :
    ∃ action changes held',
      Run.Does (Index.declare executor procedures c spec) s action held' changes ∧
      Does procedures c s.store.held (declare spec) (.text action.name) changes held' := by
  obtain ⟨name, plain, accepted, hforms⟩ := hspec.exists_forms procedures c
  cases hheld : s.store.held name with
  | none =>
    obtain ⟨d, hd, hdeclare⟩ := Index.declare_of_absent hspec hforms hs hheld
    exact ⟨_, _, _, hdeclare, .created hforms hheld hd⟩
  | some v =>
    cases hv : Index.isAccepted accepted v with
    | true =>
      exact ⟨_, _, _, Index.declare_of_accepted hspec hforms hheld hv, .unchanged hforms hheld hv⟩
    | false =>
      obtain ⟨d, hd, hdeclare⟩ := Index.declare_of_other hspec hforms hs hheld hv
      exact ⟨_, _, _, hdeclare, .rebuilt hforms hheld hv hd⟩

end IndexStep

end DocumentSql

/-
Declaring the indexes of a batch.

The fields of a batch are declared one after the other, so under a canonical name the catalog is
left with a definition of the last listed field of that name.  Names fold case and punctuation:
two fields may share one.  A batch leaves every field indexed, and is left alone when it runs
again, exactly if listed fields of one name have one expression (`Index.declareAll_settles_iff`).
-/
import DocumentSql.Proofs.Index.Sync

namespace DocumentSql

open MemoryCatalog

/-! ### Statements that create indexes, compared -/

/-- Two texts that agree up to a blank in each agree behind it. -/
lemma eq_of_append_blank {as bs cs ds : List Char} (has : ' ' ∉ as) (hbs : ' ' ∉ bs)
    (h : as ++ ' ' :: cs = bs ++ ' ' :: ds) : cs = ds := by
  induction as generalizing bs with
  | nil =>
    cases bs with
    | nil => exact (List.cons.inj h).2
    | cons b bs =>
      obtain rfl := (List.cons.inj h).1
      simp at hbs
  | cons a as ih =>
    cases bs with
    | nil =>
      obtain rfl := (List.cons.inj h).1
      simp at has
    | cons b bs =>
      exact ih (fun hmem => has (List.mem_cons_of_mem a hmem))
        (fun hmem => hbs (List.mem_cons_of_mem b hmem)) (List.cons.inj h).2

namespace IndexSpec

variable {procedures : Procedures} {c : Catalog} {spec spec' : IndexSpec}
  {name plain plain' expr expr' : String} {accepted accepted' : List String}

/-- Statements that create indexes of one name over tables without blanks are equal only if the
expressions are. -/
lemma expr_eq_of_createText_eq {unique : Bool} {table table' : String}
    (htable : ' ' ∉ table.toList) (htable' : ' ' ∉ table'.toList)
    (h : createText unique name table expr = createText unique name table' expr') :
    expr = expr' := by
  have h := String.toList_inj.2 h
  rw [createText_eq, createText_eq, List.append_cancel_left_eq] at h
  have hrest : table.toList ++ ' ' :: ("USING btree (".toList ++ expr.toList ++ [')']) =
      table'.toList ++ ' ' :: ("USING btree (".toList ++ expr'.toList ++ [')']) := by
    simpa using h
  have hexpr := eq_of_append_blank htable htable' hrest
  simpa [String.toList_inj] using hexpr

lemma no_blank_qualifiedTable (htable : ' ' ∉ spec.entity.table.toList) {schemaName : Value}
    (hschema : ' ' ∉ schemaName.plainText.toList) :
    ' ' ∉ (spec.qualifiedTable schemaName).toList := by
  unfold qualifiedTable
  split
  · simp [htable, hschema]
  · exact htable

/-- Specifications that agree in what their definitions are made of have the same forms. -/
lemma Forms.congr (h : spec.Forms procedures c name plain accepted)
    (hentity : spec'.entity = spec.entity) (hunique : spec'.unique = spec.unique)
    (hname : spec.name procedures = spec'.name procedures)
    (hexpr : spec.expression procedures = spec'.expression procedures) :
    spec'.Forms procedures c name plain accepted := by
  obtain ⟨expr, hspec, rfl, rfl⟩ := h.exists_createText
  rw [hexpr] at hspec
  have hname' : spec'.name procedures = .ok name := hname ▸ h.name_eq
  refine ⟨hname', ?_, ?_⟩
  · rw [definition_eq hname' hspec, hunique, qualifiedTable, hentity]
    rfl
  · rw [definitions_eq hname' hspec, hunique, qualifiedTable, qualifiedTable, hentity]

/-- A definition of the two accepted forms creates the index on a table without blanks. -/
lemma exists_table_of_mem {d : String} (htable : ' ' ∉ spec.entity.table.toList)
    {schemaName : Value} (hschema : ' ' ∉ schemaName.plainText.toList)
    (h : d ∈ [createText spec.unique name spec.entity.table expr,
      createText spec.unique name (spec.qualifiedTable schemaName) expr]) :
    ∃ table, ' ' ∉ table.toList ∧ d = createText spec.unique name table expr := by
  rcases List.mem_pair.1 h with rfl | rfl
  · exact ⟨_, htable, rfl⟩
  · exact ⟨_, no_blank_qualifiedTable htable hschema, rfl⟩

/-- Specifications of one table, name and uniqueness that share an accepted definition have one
expression. -/
lemma Forms.expression_eq {d : String} (h : spec.Forms procedures c name plain accepted)
    (h' : spec'.Forms procedures c name plain' accepted') (hunique : spec'.unique = spec.unique)
    (hentity : spec'.entity = spec.entity) (htable : ' ' ∉ spec.entity.table.toList)
    (hschema : ' ' ∉ c.schemaName.plainText.toList) (hd : d ∈ accepted) (hd' : d ∈ accepted') :
    spec.expression procedures = spec'.expression procedures := by
  obtain ⟨expr, hexpr, rfl, rfl⟩ := h.exists_createText
  obtain ⟨expr', hexpr', rfl, rfl⟩ := h'.exists_createText
  have hwritten : ∃ table, ' ' ∉ table.toList ∧ d = createText spec.unique name table expr :=
    exists_table_of_mem htable hschema hd
  have hwritten' : ∃ table, ' ' ∉ table.toList ∧ d = createText spec'.unique name table expr' :=
    exists_table_of_mem (hentity ▸ htable) hschema hd'
  obtain ⟨table, hblank, rfl⟩ := hwritten
  obtain ⟨table', hblank', heq⟩ := hwritten'
  rw [hunique] at heq
  rw [hexpr, hexpr', expr_eq_of_createText_eq hblank hblank' heq]

end IndexSpec

namespace IndexStep.Does

variable {procedures : Procedures} {c : Catalog} {held held' : Holdings} {spec : IndexSpec}
  {answer : Value} {changes : List (String × List Value)}

/-- Declaring an index leaves the definitions under other names. -/
lemma held_of_ne {name : String} (h : Does procedures c held (declare spec) answer changes held')
    (hname : spec.name procedures ≠ .ok name) : held' name = held name := by
  have hne : ∀ {name' plain accepted}, spec.Forms procedures c name' plain accepted →
      name ≠ name' := by
    rintro name' plain accepted hforms rfl
    exact hname hforms.name_eq
  cases h with
  | created hforms => exact Function.update_of_ne (hne hforms) _ _
  | unchanged => rfl
  | rebuilt hforms => exact Function.update_of_ne (hne hforms) _ _

/-- Declaring an index without changes finds an accepted definition under its name. -/
lemma accepted_of_unchanged (h : Does procedures c held (declare spec) answer [] held') :
    held' = held ∧ ∃ name plain accepted v, spec.Forms procedures c name plain accepted ∧
      held name = some v ∧ Index.isAccepted accepted v = true := by
  cases h with
  | unchanged hforms hheld hv => exact ⟨rfl, _, _, _, _, hforms, hheld, hv⟩

end IndexStep.Does

namespace Index

open Run

variable {c : Catalog} {procedures : Procedures} {b : Batch} {s : Session MemoryCatalog}
  {fields : List Value} {field : Value} {held held' last : Holdings} {actions : List IndexAction}
  {changes : List (String × List Value)}

/-- An accepted definition of the field is held under its name. -/
def Batch.IsSettled (procedures : Procedures) (c : Catalog) (b : Batch) (held : Holdings)
    (field : Value) : Prop :=
  ∃ name plain accepted v, (b.spec field).Forms procedures c name plain accepted ∧
    held name = some v ∧ isAccepted accepted v = true

/-- Fields of one name have one expression. -/
def Batch.Agrees (procedures : Procedures) (b : Batch) (fields : List Value) : Prop :=
  ∀ f ∈ fields, ∀ g ∈ fields, (b.spec f).name procedures = (b.spec g).name procedures →
    (b.spec f).expression procedures = (b.spec g).expression procedures

/-- One field after the other is declared: the actions, the changes sent, and the definitions held
before and afterwards. -/
inductive Batch.Sweeps (procedures : Procedures) (c : Catalog) (b : Batch) :
    Holdings → List Value → List IndexAction → List (String × List Value) → Holdings → Prop
  | nil (held : Holdings) : Sweeps procedures c b held [] [] [] held
  | cons {held held' last : Holdings} {field : Value} {fields : List Value} {action : IndexAction}
    {actions : List IndexAction} {changes changes' : List (String × List Value)}
    (hfield : IndexStep.Does procedures c held (.declare (b.spec field)) (.text action.name)
      changes held')
    (hfields : Sweeps procedures c b held' fields actions changes' last) :
    Sweeps procedures c b held (field :: fields) (action :: actions) (changes ++ changes') last

lemma mem_of_isAccepted {accepted : List String} {v : Value} (h : isAccepted accepted v = true) :
    ∃ d ∈ accepted, v.asText? = some d := by
  unfold isAccepted at h
  split at h
  · next d hd => exact ⟨d, by simpa using h, hd⟩
  · simp at h

/-- A field whose name no later field has keeps its definition. -/
lemma Batch.Sweeps.held_eq {name : String}
    (h : b.Sweeps procedures c held fields actions changes last)
    (hother : ∀ g ∈ fields, (b.spec g).name procedures ≠ .ok name) : last name = held name := by
  induction h with
  | nil => rfl
  | @cons held held' last field fields action actions changes changes' hfield hfields ih =>
    rw [ih fun g hg => hother g (List.mem_cons_of_mem field hg)]
    exact hfield.held_of_ne (hother field List.mem_cons_self)

/-- Of the fields that share a name, one is settled at the end. -/
lemma Batch.Sweeps.exists_settled (h : b.Sweeps procedures c held fields actions changes last) :
    ∀ f ∈ fields, ∃ g ∈ fields, (b.spec g).name procedures = (b.spec f).name procedures ∧
      b.IsSettled procedures c last g := by
  induction h with
  | nil => simp
  | @cons held held' last field fields action actions changes changes' hfield hfields ih =>
    intro f hf
    -- the last field of the name is the one that stays settled
    by_cases hlater : ∃ g ∈ fields, (b.spec g).name procedures = (b.spec f).name procedures
    · obtain ⟨g, hg, hname⟩ := hlater
      obtain ⟨g', hg', hname', hsettled⟩ := ih g hg
      exact ⟨g', List.mem_cons_of_mem field hg', hname'.trans hname, hsettled⟩
    · obtain rfl : f = field := by
        rcases List.mem_cons.1 hf with rfl | hmem
        · rfl
        · exact absurd ⟨f, hmem, rfl⟩ hlater
      obtain ⟨name, plain, accepted, v, hforms, hheld, hv⟩ := hfield.exists_accepted
      refine ⟨f, List.mem_cons_self, rfl, name, plain, accepted, v, hforms, ?_, hv⟩
      rw [hfields.held_eq fun g hg hname => hlater ⟨g, hg, hname.trans hforms.name_eq.symm⟩, hheld]

/-- A sweep over settled fields changes nothing. -/
lemma Batch.Sweeps.unchanged_of_settled
    (h : b.Sweeps procedures c held fields actions changes last)
    (hsettled : ∀ f ∈ fields, b.IsSettled procedures c held f) :
    changes = [] ∧ (∀ a ∈ actions, a = .unchanged) := by
  induction h with
  | nil => simp
  | @cons held held' last field fields action actions changes changes' hfield hfields ih =>
    obtain ⟨name, plain, accepted, v, hforms, hheld, hv⟩ := hsettled field List.mem_cons_self
    obtain ⟨hanswer, rfl, rfl⟩ := hfield.unchanged_of_accepted hforms hheld hv
    obtain ⟨rfl, hactions⟩ := ih fun f hf => hsettled f (List.mem_cons_of_mem field hf)
    have haction : action = .unchanged := by
      cases action <;> simp_all [IndexAction.name]
    simpa [haction] using hactions

/-- A sweep that sends no changes found its fields settled. -/
lemma Batch.Sweeps.settled_of_unchanged
    (h : b.Sweeps procedures c held fields actions changes last) (hnone : changes = []) :
    ∀ f ∈ fields, b.IsSettled procedures c held f := by
  induction h with
  | nil => simp
  | @cons held held' last field fields action actions changes changes' hfield hfields ih =>
    obtain ⟨rfl, rfl⟩ := List.append_eq_nil_iff.1 hnone
    obtain ⟨hheld, hsettled⟩ := hfield.accepted_of_unchanged
    intro f hf
    rcases List.mem_cons.1 hf with rfl | hf
    · exact hsettled
    · exact hheld ▸ ih rfl f hf

/-- All listed fields are settled at the end of a sweep exactly if those of one name have one
expression. -/
theorem Batch.Sweeps.settled_iff (h : b.Sweeps procedures c held fields actions changes last)
    (htable : ' ' ∉ b.entity.table.toList) (hschema : ' ' ∉ c.schemaName.plainText.toList) :
    (∀ f ∈ fields, b.IsSettled procedures c last f) ↔ b.Agrees procedures fields := by
  constructor
  · intro hsettled f hf g hg hname
    obtain ⟨name, plain, accepted, v, hforms, hheld, hv⟩ := hsettled f hf
    obtain ⟨name', plain', accepted', v', hforms', hheld', hv'⟩ := hsettled g hg
    obtain rfl : name = name' :=
      Except.ok.inj (hforms.name_eq.symm.trans (hname.trans hforms'.name_eq))
    -- both are settled by one definition, and a definition tells its expression
    obtain rfl : v = v' := Option.some.inj (hheld.symm.trans hheld')
    obtain ⟨d, hmem, hd⟩ := mem_of_isAccepted hv
    obtain ⟨d', hmem', hd'⟩ := mem_of_isAccepted hv'
    obtain rfl : d = d' := Option.some.inj (hd.symm.trans hd')
    exact hforms.expression_eq hforms' rfl rfl htable hschema hmem hmem'
  · intro hagrees f hf
    obtain ⟨g, hg, hname, name, plain, accepted, v, hforms, hheld, hv⟩ := h.exists_settled f hf
    refine ⟨name, plain, accepted, v, ?_, hheld, hv⟩
    exact hforms.congr rfl rfl hname (hagrees g hg f hf hname)

/-- The actions show one of a field. -/
def Actions.Covers (done : Actions) (field : Value) : Prop := ∃ a ∈ done, a.1.same field = true

/-- A field that is set among actions has one, and so have those that had one before. -/
lemma Actions.covers_put (field : Value) (action : IndexAction) (done : Actions) :
    (field.same field = true → (Actions.put field action done).Covers field) ∧
      ∀ f, done.Covers f → (Actions.put field action done).Covers f := by
  induction done with
  | nil => exact ⟨fun h => ⟨(field, action), by simp [put], h⟩, by simp [Covers]⟩
  | cons a done ih =>
    rw [put]
    split
    · next hsame =>
      refine ⟨fun _ => ⟨_, List.mem_cons_self, hsame⟩, ?_⟩
      rintro f ⟨e, he, hf⟩
      rcases List.mem_cons.1 he with rfl | he
      · exact ⟨_, List.mem_cons_self, hf⟩
      · exact ⟨e, List.mem_cons_of_mem _ he, hf⟩
    · refine ⟨fun h => ?_, ?_⟩
      · obtain ⟨e, he, hf⟩ := ih.1 h
        exact ⟨e, List.mem_cons_of_mem a he, hf⟩
      · rintro f ⟨e, he, hf⟩
        rcases List.mem_cons.1 he with rfl | he
        · exact ⟨e, List.mem_cons_self, hf⟩
        · obtain ⟨e', he', hf'⟩ := ih.2 f ⟨e, he, hf⟩
          exact ⟨e', List.mem_cons_of_mem a he', hf'⟩

lemma Actions.mem_put {field : Value} {action : IndexAction} {done : Actions}
    {a : Value × IndexAction} (h : a ∈ Actions.put field action done) :
    a ∈ done ∨ a.2 = action := by
  induction done with
  | nil =>
    obtain rfl : a = (field, action) := by simpa [put] using h
    exact Or.inr rfl
  | cons e done ih =>
    rw [put] at h
    split at h
    · rcases List.mem_cons.1 h with rfl | h
      · exact Or.inr rfl
      · exact Or.inl (List.mem_cons_of_mem e h)
    · rcases List.mem_cons.1 h with rfl | h
      · exact Or.inl List.mem_cons_self
      · exact (ih h).imp_left (List.mem_cons_of_mem e)

/-- A value that is or names a key equals itself. -/
lemma same_self_of_parse {k : FieldKey} (h : FieldKey.parse field = .ok k) :
    field.same field = true := by
  unfold FieldKey.parse at h
  split at h
  · simp [Value.same, Value.number?, Value.asText?, Value.sameAtom]
  · split at h
    · simp at h
    · next s hs => simp [Value.same_of_asText? hs, hs]

/-- The actions with those of fields set in order. -/
def Actions.putAll (done : Actions) (extra : Actions) : Actions :=
  extra.foldl (fun done a => Actions.put a.1 a.2 done) done

lemma Actions.mem_putAll {done extra : Actions} {a : Value × IndexAction}
    (h : a ∈ done.putAll extra) : a ∈ done ∨ ∃ e ∈ extra, a.2 = e.2 := by
  induction extra generalizing done with
  | nil => exact Or.inl h
  | cons e extra ih =>
    rcases ih h with hput | ⟨e', he', ha⟩
    · exact (mem_put hput).imp_right fun ha => ⟨e, List.mem_cons_self, ha⟩
    · exact Or.inr ⟨e', List.mem_cons_of_mem e he', ha⟩

lemma Actions.covers_putAll {done extra : Actions} (hself : ∀ e ∈ extra, e.1.same e.1 = true)
    {f : Value} (h : (∃ e ∈ extra, e.1 = f) ∨ done.Covers f) : (done.putAll extra).Covers f := by
  induction extra generalizing done with
  | nil => exact h.resolve_left (by simp)
  | cons e extra ih =>
    have hput := covers_put e.1 e.2 done
    refine ih (fun e' he' => hself e' (List.mem_cons_of_mem e he')) ?_
    rcases h with ⟨e', he', rfl⟩ | hdone
    · rcases List.mem_cons.1 he' with rfl | he'
      · exact Or.inr (hput.1 (hself e' List.mem_cons_self))
      · exact Or.inl ⟨e', he', rfl⟩
    · exact Or.inr (hput.2 f hdone)

/-- A sweep has one action for each field. -/
lemma Batch.Sweeps.length_eq (h : b.Sweeps procedures c held fields actions changes last) :
    actions.length = fields.length := by
  induction h with
  | nil => rfl
  | cons _ _ ih => rw [List.length_cons, List.length_cons, ih]

/-- Declaring fields answers what was done about each of them, set in order. -/
lemma declareFields_answers (procedures : Procedures) (done : Actions)
    (hs : s.store.IsFaithful c) (hfields : ∀ f ∈ fields, (b.spec f).IsIndexable) :
    ∃ actions changes last,
      Run.Does (declareFields executor procedures c b done fields) s
        (done.putAll (fields.zip actions)) last changes ∧
      b.Sweeps procedures c s.store.held fields actions changes last := by
  induction fields generalizing s done with
  | nil => exact ⟨[], [], _, does_pure done s, .nil _⟩
  | cons field fields ih =>
    obtain ⟨action, changes, held', ⟨s', hrun, hbecomes⟩, hfield⟩ :=
      IndexStep.declare_does procedures hs (hfields field List.mem_cons_self)
    obtain ⟨actions, changes', last, hdoes, hsweeps⟩ :=
      ih (done.put field action) (hbecomes.faithful hs)
        fun f hf => hfields f (List.mem_cons_of_mem field hf)
    rw [hbecomes.held_eq] at hsweeps
    exact ⟨action :: actions, changes ++ changes', last, .next hrun hbecomes hdoes,
      .cons hfield hsweeps⟩

/-- Declaring fields answers, and sweeps over them. -/
lemma declareFields_sweeps (procedures : Procedures) (done : Actions) (hs : s.store.IsFaithful c)
    (hfields : ∀ f ∈ fields, (b.spec f).IsIndexable) :
    ∃ done' actions changes last,
      Run.Does (declareFields executor procedures c b done fields) s done' last changes ∧
      b.Sweeps procedures c s.store.held fields actions changes last ∧
      (∀ a ∈ done', a ∈ done ∨ a.2 ∈ actions) ∧
      ∀ f, f ∈ fields ∨ done.Covers f → done'.Covers f := by
  obtain ⟨actions, changes, last, hdoes, hsweeps⟩ :=
    declareFields_answers procedures done hs hfields
  refine ⟨_, actions, changes, last, hdoes, hsweeps, fun a ha => ?_, fun f hf => ?_⟩
  · refine (Actions.mem_putAll ha).imp_right ?_
    rintro ⟨e, he, heq⟩
    exact heq ▸ (List.of_mem_zip he).2
  · have hfst : (fields.zip actions).map Prod.fst = fields :=
      List.map_fst_zip hsweeps.length_eq.ge
    refine Actions.covers_putAll (fun e he => ?_) (hf.imp_left fun hf => ?_)
    · obtain ⟨k, hparse, -⟩ := (hfields e.1 (List.of_mem_zip he).1).field
      exact same_self_of_parse hparse
    · rw [← hfst] at hf
      simpa using hf

/-- Declaring a collection of fields answers, and sweeps over them. -/
lemma declareAll_sweeps {v : Value} (procedures : Procedures) (hs : s.store.IsFaithful c)
    (hv : DocumentType.elements v = .ok fields) (hfields : ∀ f ∈ fields, (b.spec f).IsIndexable) :
    ∃ done s' actions changes, declareAll executor procedures c b v s = (.ok done, s') ∧
      s'.store.IsFaithful c ∧ changesOf s'.store.sent = changesOf s.store.sent ++ changes ∧
      b.Sweeps procedures c s.store.held fields actions changes s'.store.held ∧
      (∀ a ∈ done, a.2 ∈ actions) ∧ ∀ f ∈ fields, done.Covers f := by
  obtain ⟨done, actions, changes, last, ⟨s', hrun, hbecomes⟩, hsweeps, hmem, hcovers⟩ :=
    declareFields_sweeps procedures [] hs hfields
  refine ⟨done, s', actions, changes, ?_, hbecomes.faithful hs, hbecomes.changes_eq,
    hbecomes.held_eq ▸ hsweeps, fun a ha => ?_, fun f hf => hcovers f (Or.inl hf)⟩
  · rw [declareAll, Run.bind_of_ok (show Run.ofResult _ s = (.ok fields, s) by rw [hv]; rfl)]
    exact hrun
  · exact (hmem a ha).resolve_left List.not_mem_nil

/-- Declaring a batch answers, and leaves an accepted definition of one of the listed fields under
every name of a listed field.  All of them are settled exactly if listed fields of one name have
one expression; and then exactly the batch, declared again, sends no changes and shows every field
as unchanged. -/
theorem declareAll_settles_iff {v : Value} (procedures : Procedures) (hs : s.store.IsFaithful c)
    (hv : DocumentType.elements v = .ok fields) (hfields : ∀ f ∈ fields, (b.spec f).IsIndexable)
    (htable : ' ' ∉ b.entity.table.toList) (hschema : ' ' ∉ c.schemaName.plainText.toList) :
    ∃ done s', declareAll executor procedures c b v s = (.ok done, s') ∧
      (∀ f ∈ fields, ∃ g ∈ fields, (b.spec g).name procedures = (b.spec f).name procedures ∧
        b.IsSettled procedures c s'.store.held g) ∧
      ((∀ f ∈ fields, b.IsSettled procedures c s'.store.held f) ↔ b.Agrees procedures fields) ∧
      ∃ again s'', declareAll executor procedures c b v s' = (.ok again, s'') ∧
        (∀ f ∈ fields, again.Covers f) ∧
        ((changesOf s''.store.sent = changesOf s'.store.sent ∧ ∀ a ∈ again, a.2 = .unchanged) ↔
          b.Agrees procedures fields) := by
  obtain ⟨done, s', actions, changes, hrun, hs', -, hsweeps, -, -⟩ :=
    declareAll_sweeps procedures hs hv hfields
  obtain ⟨again, s'', actions', changes', hrun', -, hchanges, hsweeps', hmem, hcovers⟩ :=
    declareAll_sweeps procedures hs' hv hfields
  have hiff := hsweeps.settled_iff htable hschema
  refine ⟨done, s', hrun, hsweeps.exists_settled, hiff, again, s'', hrun', hcovers, ?_⟩
  rw [hchanges, List.append_right_eq_self, ← hiff]
  constructor
  · rintro ⟨hnone, -⟩
    exact hsweeps'.settled_of_unchanged hnone
  · intro hsettled
    obtain ⟨hnone, hactions⟩ := hsweeps'.unchanged_of_settled hsettled
    exact ⟨hnone, fun a ha => hactions _ (hmem a ha)⟩

/-- Indexes of documents. -/
def documentBatch : Batch := ⟨.document, .null, .null, false⟩

/-- A catalog without indexes. -/
def emptySession : Session MemoryCatalog := ⟨⟨[], [], .plain, "public", []⟩, []⟩

lemma isIndexable_documentBatch {k : FieldKey} (h : FieldKey.parse field = .ok k) (hread : k.IsRead)
    (hfield : k.IsField .document) : (documentBatch.spec field).IsIndexable where
  field := ⟨k, h, hread, hfield⟩
  typeField := Or.inl rfl

/-- Two members of different names are settled, and left alone when they are declared again. -/
theorem distinctFields_settled :
    ∃ done s', declareAll executor .standard ⟨.text "public"⟩ documentBatch
        (.list [.text "age", .text "name"]) emptySession = (.ok done, s') ∧
      (∀ f ∈ [Value.text "age", .text "name"],
        documentBatch.IsSettled .standard ⟨.text "public"⟩ s'.store.held f) ∧
      ∃ again s'', declareAll executor .standard ⟨.text "public"⟩ documentBatch
          (.list [.text "age", .text "name"]) s' = (.ok again, s'') ∧
        changesOf s''.store.sent = changesOf s'.store.sent ∧ ∀ a ∈ again, a.2 = .unchanged := by
  have hindexable : ∀ f ∈ [Value.text "age", .text "name"],
      (documentBatch.spec f).IsIndexable := by
    intro f hf
    rcases List.mem_pair.1 hf with rfl | rfl
    · exact isIndexable_documentBatch rfl ⟨"age", rfl⟩
        (FieldKey.isField_path ⟨"age", rfl⟩ (by decide))
    · exact isIndexable_documentBatch rfl ⟨"name", rfl⟩
        (FieldKey.isField_path ⟨"name", rfl⟩ (by decide))
  have hage : (documentBatch.spec (.text "age")).name .standard =
    .ok "documents_content_age_index" := by rfl
  have hname : (documentBatch.spec (.text "name")).name .standard =
    .ok "documents_content_name_index" := by rfl
  have hagrees : documentBatch.Agrees .standard [.text "age", .text "name"] := by
    intro f hf g hg hsame
    rcases List.mem_pair.1 hf with rfl | rfl <;> rcases List.mem_pair.1 hg with rfl | rfl
    · rfl
    · simp [hage, hname] at hsame
    · simp [hage, hname] at hsame
    · rfl
  obtain ⟨done, s', hrun, -, hsettled, again, s'', hrun', -, hagain⟩ :=
    declareAll_settles_iff .standard (c := ⟨.text "public"⟩) (s := emptySession) ⟨rfl, trivial⟩
      (v := .list [.text "age", .text "name"]) rfl hindexable (by decide) (by decide)
  exact ⟨done, s', hrun, hsettled.2 hagrees, again, s'', hrun', hagain.2 hagrees⟩

/-- Declares two members of one name. -/
def declareColliding (s : Session MemoryCatalog) : Result Actions × Session MemoryCatalog :=
  declareAll executor .standard ⟨.text "public"⟩ documentBatch (.list [.text "a.b", .text "a-b"]) s

lemma declareColliding_first :
    ((documentBatch.spec (.text "a.b")).definitions .standard (.text "public")).toOption.bind
      (fun accepted =>
        ((declareColliding emptySession).2.store.held "documents_content_a_b_index").map
          (isAccepted accepted)) = some false := by
  decide +kernel

lemma declareColliding_again :
    (declareColliding (declareColliding emptySession).2).1.toOption.map
        (fun done => done.map (·.2)) = some [.rebuilt, .rebuilt] ∧
      (changesOf (declareColliding (declareColliding emptySession).2).2.store.sent).length =
        (changesOf (declareColliding emptySession).2.store.sent).length + 4 := by
  decide +kernel

/-- Of two members of one name, the first is not settled, and declared again each is built anew. -/
theorem collidingFields_rebuilt :
    ¬ documentBatch.IsSettled .standard ⟨.text "public"⟩
        (declareColliding emptySession).2.store.held (.text "a.b") ∧
      (declareColliding (declareColliding emptySession).2).1.toOption.map
        (fun done => done.map (·.2)) = some [.rebuilt, .rebuilt] ∧
      (changesOf (declareColliding (declareColliding emptySession).2).2.store.sent).length =
        (changesOf (declareColliding emptySession).2.store.sent).length + 4 := by
  refine ⟨?_, declareColliding_again⟩
  rintro ⟨name, plain, accepted, v, hforms, hheld, hv⟩
  obtain rfl : name = "documents_content_a_b_index" :=
    Except.ok.inj (hforms.name_eq.symm.trans (by rfl))
  have haccepted : (documentBatch.spec (.text "a.b")).definitions .standard (.text "public") =
    .ok accepted := hforms.accepted_eq
  have hother := declareColliding_first
  rw [haccepted, hheld] at hother
  simp [Except.toOption, hv] at hother

end Index

end DocumentSql

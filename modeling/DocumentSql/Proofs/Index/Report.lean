/-
What a batch of indexes reports.

A batch declares one field after the other and keeps one action for each field: a field that is
listed again keeps its place and shows what was done last.  The first declaration of a field whose
name no other field has finds what was held before the batch; a later one finds the definition that
the first one left.  So what is reported for such a field is what was done about it exactly if it is
listed once, or if nothing was to be done (`Index.declareAll_reports_iff`).
-/
import DocumentSql.Proofs.Index.Batch
import DocumentSql.Proofs.Key.Grammar

namespace DocumentSql

open MemoryCatalog

/-! ### Fields that name one key -/

namespace Value

lemma same_key (v : Value) (k : FieldKey) : v.same (.key k) = sameAtom v (.key k) := by
  cases v <;> simp [same, number?, asText?, sameAtom]

/-- A value that names a key is compared by its text, or it is the key. -/
lemma asText?_or_key_of_parse {v : Value} {k : FieldKey} (h : FieldKey.parse v = .ok k) :
    (∃ s, v.asText? = some s) ∨ v = .key k := by
  unfold FieldKey.parse at h
  split at h
  · obtain rfl := Except.ok.inj h
    exact Or.inr rfl
  · split at h
    · cases h
    · next s hs => exact Or.inl ⟨s, hs⟩

variable {v w : Value} {k : FieldKey}

/-- What equals a value that names a key equals what that value equals. -/
lemma same_congr_of_parse (hw : FieldKey.parse w = .ok k) (h : v.same w = true) (u : Value) :
    v.same u = w.same u := by
  rcases asText?_or_key_of_parse hw with ⟨s, hs⟩ | rfl
  · have hv : v.asText? = some s := by simpa [same_of_asText?_right hs] using h
    rw [same_of_asText? hv, same_of_asText? hs]
  · have hv : v = .key k := by
      rw [same_key] at h
      cases v <;> simp [sameAtom] at h
      rw [h]
    rw [hv]

lemma parse_eq_of_same (hw : FieldKey.parse w = .ok k) (h : v.same w = true) :
    FieldKey.parse v = .ok k := by
  rcases asText?_or_key_of_parse hw with ⟨s, hs⟩ | rfl
  · have hv : v.asText? = some s := by simpa [same_of_asText?_right hs] using h
    rw [FieldKey.parse_eq_ok_iff hv, ← FieldKey.parse_eq_ok_iff hs, hw]
  · rw [same_key] at h
    cases v <;> simp [sameAtom] at h
    rw [h, FieldKey.parse_key]

lemma same_comm_of_parse (hv : FieldKey.parse v = .ok k) (h : v.same w = true) :
    w.same v = true := by
  rcases asText?_or_key_of_parse hv with ⟨s, hs⟩ | rfl
  · have hw : w.asText? = some s := by simpa [same_of_asText? hs] using h
    simp [same_of_asText? hw, hs]
  · cases w <;> simp [same, number?, asText?, sameAtom] at h ⊢
    exact h.symm

end Value

namespace Index

variable {c : Catalog} {procedures : Procedures} {b : Batch} {s : Session MemoryCatalog}
  {fields : List Value} {field f : Value} {held last : Holdings} {action : IndexAction}
  {actions : List IndexAction} {done : Actions} {changes : List (String × List Value)}

/-! ### Actions by field -/

/-- The action that is shown for a field. -/
def Actions.get? (done : Actions) (field : Value) : Option IndexAction :=
  (done.find? fun a => a.1.same field).map Prod.snd

/-- The actions are those of the listed fields: there is one for each of them, and none for another
field. -/
structure Actions.AreOf (done : Actions) (fields : List Value) : Prop where
  listed : ∀ a ∈ done, a.1 ∈ fields
  covers : ∀ f ∈ fields, done.Covers f
  distinct : done.Pairwise fun a a' => a.1.same a'.1 = false

namespace Actions

/-- Setting the action of a field changes what is shown for that field only. -/
lemma get?_put {k : FieldKey} (hfield : FieldKey.parse field = .ok k) (action : IndexAction)
    (done : Actions) (f : Value) :
    get? (put field action done) f = if field.same f then some action else done.get? f := by
  induction done with
  | nil => by_cases hf : field.same f = true <;> simp [put, get?, hf]
  | cons a done ih =>
    rw [put]
    split
    · next hsame =>
      have hcongr := Value.same_congr_of_parse hfield hsame f
      by_cases hf : field.same f = true <;> simp [get?, hcongr, hf]
    · next hsame =>
      by_cases ha : a.1.same f = true
      · -- the field would equal the one in front, if both equalled the one that is asked for
        have hf : field.same f = false := by
          rw [Bool.eq_false_iff]
          intro hf
          have hback := Value.same_comm_of_parse hfield hf
          have hparse := Value.parse_eq_of_same hfield hback
          rw [Value.same_congr_of_parse hparse ha] at hsame
          exact hsame hback
        simp [get?, ha, hf]
      · simpa [get?, ha] using ih

lemma put_of_covers (h : done.Covers field) (action : IndexAction) :
    (put field action done).map Prod.fst = done.map Prod.fst := by
  induction done with
  | nil => simp [Covers] at h
  | cons a done ih =>
    rw [put]
    split
    · rfl
    · next hsame =>
      obtain ⟨a', ha', hcovers⟩ := h
      have hrest : Covers done field := by
        rcases List.mem_cons.1 ha' with rfl | ha'
        · exact absurd hcovers hsame
        · exact ⟨a', ha', hcovers⟩
      rw [List.map_cons, List.map_cons, ih hrest]

lemma put_of_not_covers (h : ¬ done.Covers field) (action : IndexAction) :
    put field action done = done ++ [(field, action)] := by
  induction done with
  | nil => rfl
  | cons a done ih =>
    have ha : ¬ a.1.same field = true := fun ha => h ⟨a, List.mem_cons_self, ha⟩
    have hrest : ¬ Covers done field := by
      rintro ⟨a', ha', hsame⟩
      exact h ⟨a', List.mem_cons_of_mem a ha', hsame⟩
    rw [put, if_neg ha, ih hrest, List.cons_append]

/-- One more field is listed, and its action set. -/
lemma AreOf.put {k : FieldKey} (h : done.AreOf fields) (hfield : FieldKey.parse field = .ok k)
    (action : IndexAction) : (Actions.put field action done).AreOf (fields ++ [field]) := by
  have hcovers := covers_put field action done
  have hcovered : ∀ f ∈ fields ++ [field], (Actions.put field action done).Covers f := by
    intro f hf
    rcases List.mem_append.1 hf with hf | hf
    · exact hcovers.2 f (h.covers f hf)
    · obtain rfl := List.mem_singleton.1 hf
      exact hcovers.1 (same_self_of_parse hfield)
  by_cases hold : done.Covers field
  · have hkeys := put_of_covers hold action
    refine ⟨fun a ha => ?_, hcovered, ?_⟩
    · have hmem := List.mem_map_of_mem (f := Prod.fst) ha
      rw [hkeys] at hmem
      obtain ⟨a', ha', heq⟩ := List.mem_map.1 hmem
      exact List.mem_append_left _ (heq ▸ h.listed a' ha')
    · have hdistinct : (done.map Prod.fst).Pairwise fun v w => v.same w = false :=
        List.pairwise_map.2 h.distinct
      rw [← hkeys] at hdistinct
      exact List.pairwise_map.1 hdistinct
  · rw [put_of_not_covers hold action] at hcovered ⊢
    refine ⟨fun a ha => ?_, hcovered, ?_⟩
    · rcases List.mem_append.1 ha with ha | ha
      · exact List.mem_append_left _ (h.listed a ha)
      · obtain rfl := List.mem_singleton.1 ha
        exact List.mem_append_right _ List.mem_cons_self
    · refine List.pairwise_append.2 ⟨h.distinct, List.pairwise_singleton _ _, fun a ha a' ha' => ?_⟩
      obtain rfl := List.mem_singleton.1 ha'
      rw [Bool.eq_false_iff]
      exact fun hsame => hold ⟨a, ha, hsame⟩

lemma AreOf.putAll {before : List Value} (h : done.AreOf before)
    (hfields : ∀ f ∈ fields, ∃ k, FieldKey.parse f = .ok k)
    (hlength : actions.length = fields.length) :
    (done.putAll (fields.zip actions)).AreOf (before ++ fields) := by
  induction fields generalizing done before actions with
  | nil => simpa [Actions.putAll] using h
  | cons field fields ih =>
    cases actions with
    | nil => simp at hlength
    | cons action actions =>
      obtain ⟨k, hk⟩ := hfields field List.mem_cons_self
      have hrest := ih (h.put hk action) (fun f hf => hfields f (List.mem_cons_of_mem field hf))
        (by simpa using hlength)
      rw [List.append_assoc, List.singleton_append] at hrest
      exact hrest

end Actions

/-! ### What is done about a field -/

/-- What is to be done about an index of which a definition, or none, is held. -/
def actionFor (accepted : List String) : Option Value → IndexAction
  | none => .created
  | some v => if isAccepted accepted v then .unchanged else .rebuilt

/-- No other field of the batch has the name of the field. -/
def Batch.IsAlone (procedures : Procedures) (b : Batch) (fields : List Value) (field : Value) :
    Prop :=
  ∀ g ∈ fields, (b.spec g).name procedures = (b.spec field).name procedures →
    g.same field = true

/-- The field is listed twice or more often. -/
def IsRepeated (fields : List Value) (field : Value) : Prop :=
  2 ≤ fields.countP fun g => g.same field

instance (fields : List Value) (field : Value) : Decidable (IsRepeated fields field) :=
  inferInstanceAs (Decidable (_ ≤ _))

/-- Fields that are equal name one index. -/
lemma Batch.forms_of_same {k : FieldKey} {name plain : String} {accepted : List String}
    (hfield : FieldKey.parse field = .ok k) (hsame : f.same field = true)
    (h : (b.spec field).Forms procedures c name plain accepted) :
    (b.spec f).Forms procedures c name plain accepted := by
  have hresolved : (b.spec field).resolved procedures = (b.spec f).resolved procedures := by
    simp only [IndexSpec.resolved, Batch.spec, hfield, Value.parse_eq_of_same hfield hsame]
  refine h.congr rfl rfl ?_ ?_
  · simp only [IndexSpec.name, hresolved]
    rfl
  · simp only [IndexSpec.expression, hresolved]
    rfl

lemma IndexAction.eq_of_name_eq {action action' : IndexAction} (h : action.name = action'.name) :
    action = action' := by
  cases action <;> cases action' <;> simp_all [IndexAction.name]

/-- Declaring an index answers by what was held under its name. -/
lemma actionFor_of_declare {spec : IndexSpec} {name plain : String} {accepted : List String}
    {changes : List (String × List Value)}
    (h : IndexStep.Does procedures c held (.declare spec) (.text action.name) changes last)
    (hforms : spec.Forms procedures c name plain accepted) :
    action = actionFor accepted (held name) := by
  generalize hanswer : Value.text action.name = answer at h
  suffices hname : answer = .text (actionFor accepted (held name)).name from
    IndexAction.eq_of_name_eq (Value.text.inj (hanswer.trans hname))
  cases h with
  | created hforms' hheld hd =>
    obtain rfl := hforms.name_unique hforms'
    rw [hheld]
    rfl
  | unchanged hforms' hheld hv =>
    obtain rfl := hforms.name_unique hforms'
    obtain rfl := hforms.accepted_unique hforms'
    simp [hheld, actionFor, hv, IndexAction.name]
  | rebuilt hforms' hheld hv hd =>
    obtain rfl := hforms.name_unique hforms'
    obtain rfl := hforms.accepted_unique hforms'
    simp [hheld, actionFor, hv, IndexAction.name]

/-- What is shown for a field after a sweep in which it was declared a number of times: what was
shown before, what was done about the definition held before, or that nothing was to be done. -/
def shownAfter (accepted : List String) (before : Option Value) (shown : Option IndexAction) :
    ℕ → Option IndexAction
  | 0 => shown
  | 1 => some (actionFor accepted before)
  | _ + 2 => some .unchanged

lemma shownAfter_of_accepted {accepted : List String} {v : Value} {before : Option Value}
    {shown : Option IndexAction} (hv : isAccepted accepted v = true) (n : ℕ) :
    shownAfter accepted (some v) (some (actionFor accepted before)) n =
      shownAfter accepted before shown (n + 1) := by
  cases n with
  | zero => rfl
  | succ n => cases n <;> simp [shownAfter, actionFor, hv]

/-- The first declaration of a field that has its name alone finds what was held before the sweep,
and each later one what the first one left. -/
lemma Batch.Sweeps.get?_putAll {name plain : String} {accepted : List String}
    (h : b.Sweeps procedures c held fields actions changes last) (done : Actions)
    (hparse : ∀ g ∈ fields, ∃ k, FieldKey.parse g = .ok k)
    {k : FieldKey} (hk : FieldKey.parse f = .ok k)
    (hforms : (b.spec f).Forms procedures c name plain accepted)
    (halone : ∀ g ∈ fields, (b.spec g).name procedures = .ok name → g.same f = true) :
    (done.putAll (fields.zip actions)).get? f =
      shownAfter accepted (held name) (done.get? f) (fields.countP fun g => g.same f) := by
  induction h generalizing done with
  | nil => rfl
  | @cons held held' last field fields action actions changes changes' hfield hfields ih =>
    obtain ⟨k', hk'⟩ := hparse field List.mem_cons_self
    have hrest := ih (done.put field action)
      (fun g hg => hparse g (List.mem_cons_of_mem field hg))
      fun g hg => halone g (List.mem_cons_of_mem field hg)
    have hput := Actions.get?_put hk' action done f
    rw [List.zip_cons_cons, Actions.putAll, List.foldl_cons, ← Actions.putAll, hrest, hput]
    rw [List.countP_cons]
    by_cases hsame : field.same f = true
    · have hforms' : (b.spec field).Forms procedures c name plain accepted :=
        Batch.forms_of_same hk hsame hforms
      obtain rfl := actionFor_of_declare hfield hforms'
      obtain ⟨name', plain', accepted', v, hforms'', hheld, hv⟩ := hfield.exists_accepted
      obtain rfl := hforms'.name_unique hforms''
      obtain rfl := hforms'.accepted_unique hforms''
      rw [hheld, if_pos hsame, if_pos hsame, shownAfter_of_accepted hv]
    · have hheld : held' name = held name :=
        hfield.held_of_ne fun hname => hsame (halone field List.mem_cons_self hname)
      rw [hheld, if_neg hsame, if_neg hsame, Nat.add_zero]

lemma isRepeated_of_not_once (h : f ∈ fields) (hsame : f.same f = true)
    (hcount : fields.countP (fun g => g.same f) ≠ 1) : IsRepeated fields f := by
  have hpos : 0 < fields.countP fun g => g.same f := List.countP_pos_iff.2 ⟨f, h, hsame⟩
  unfold IsRepeated
  omega

/-- Declaring a batch answers with the actions of exactly the listed fields.  About a field whose
name no other field has, it reports the action that its index needed when the batch began, unless
the field is repeated: for a repeated one it reports that nothing was done, whatever was done.  So
the report is the action that was needed exactly if the field is listed once, or none was needed. -/
theorem declareAll_reports_iff {v : Value} (procedures : Procedures) (hs : s.store.IsFaithful c)
    (hv : DocumentType.elements v = .ok fields) (hfields : ∀ f ∈ fields, (b.spec f).IsIndexable) :
    ∃ done s', declareAll executor procedures c b v s = (.ok done, s') ∧
      done.AreOf fields ∧
      ∀ f ∈ fields, b.IsAlone procedures fields f →
        ∃ name plain accepted action, (b.spec f).Forms procedures c name plain accepted ∧
          done.get? f = some action ∧
          (¬ IsRepeated fields f → action = actionFor accepted (s.store.held name)) ∧
          (IsRepeated fields f → action = .unchanged) ∧
          (action = actionFor accepted (s.store.held name) ↔
            ¬ IsRepeated fields f ∨ actionFor accepted (s.store.held name) = .unchanged) := by
  have hparse : ∀ f ∈ fields, ∃ k, FieldKey.parse f = .ok k := by
    intro f hf
    obtain ⟨k, hk, -⟩ := (hfields f hf).field
    exact ⟨k, hk⟩
  obtain ⟨actions, changes, last, ⟨s', hrun, -⟩, hsweeps⟩ :=
    declareFields_answers procedures [] hs hfields
  have hnone : Actions.AreOf [] ([] : List Value) := ⟨by simp, by simp, .nil⟩
  refine ⟨_, s', ?_, hnone.putAll hparse hsweeps.length_eq, fun f hf halone => ?_⟩
  · rw [declareAll, Run.bind_of_ok (show Run.ofResult _ s = (.ok fields, s) by rw [hv]; rfl)]
    exact hrun
  obtain ⟨k, hk⟩ := hparse f hf
  obtain ⟨name, plain, accepted, hforms⟩ := (hfields f hf).exists_forms procedures c
  have hshown := hsweeps.get?_putAll [] hparse hk hforms fun g hg hname =>
    halone g hg (hname.trans hforms.name_eq.symm)
  by_cases hrepeated : IsRepeated fields f
  · obtain ⟨n, hn⟩ := Nat.exists_eq_add_of_le' hrepeated
    rw [hn] at hshown
    exact ⟨name, plain, accepted, .unchanged, hforms, hshown, fun h => absurd hrepeated h,
      fun _ => rfl, by simp [hrepeated, eq_comm]⟩
  · have hcount : fields.countP (fun g => g.same f) = 1 := by
      by_contra hcount
      exact hrepeated (isRepeated_of_not_once hf (same_self_of_parse hk) hcount)
    rw [hcount] at hshown
    exact ⟨name, plain, accepted, _, hforms, hshown, fun _ => rfl,
      fun h => absurd h hrepeated, by simp [hrepeated]⟩

/-- A catalog that holds another definition under the name of the index of a member. -/
def staleAgeSession : Session MemoryCatalog :=
  ⟨⟨[(.text "documents_content_age_index", .text "CREATE INDEX stale ON documents (age)")],
    [], .qualify, "public", []⟩, []⟩

/-- The index of one member is reported as rebuilt.  That of another member, which is listed twice,
is created and reported as unchanged. -/
theorem staleAge_reported :
    ∃ done s', declareAll executor .standard ⟨.text "public"⟩ documentBatch
        (.list [.text "age", .text "name", .text "name"]) staleAgeSession = (.ok done, s') ∧
      done.get? (.text "age") = some .rebuilt ∧ done.get? (.text "name") = some .unchanged := by
  have hage : (documentBatch.spec (.text "age")).name .standard =
    .ok "documents_content_age_index" := by rfl
  have hname : (documentBatch.spec (.text "name")).name .standard =
    .ok "documents_content_name_index" := by rfl
  have hdefinitions :
      (documentBatch.spec (.text "age")).definitions .standard (.text "public") =
        .ok ["CREATE INDEX documents_content_age_index ON documents USING btree " ++
            "(((content ->> 'age'::text)))",
          "CREATE INDEX documents_content_age_index ON public.documents USING btree " ++
            "(((content ->> 'age'::text)))"] := by rfl
  have hmem : ∀ f ∈ [Value.text "age", .text "name", .text "name"],
      f = .text "age" ∨ f = .text "name" := by simp
  have hindexable : ∀ f ∈ [Value.text "age", .text "name", .text "name"],
      (documentBatch.spec f).IsIndexable := by
    intro f hf
    rcases hmem f hf with rfl | rfl
    · exact isIndexable_documentBatch rfl ⟨"age", rfl⟩
        (FieldKey.isField_path ⟨"age", rfl⟩ (by decide))
    · exact isIndexable_documentBatch rfl ⟨"name", rfl⟩
        (FieldKey.isField_path ⟨"name", rfl⟩ (by decide))
  have halone : ∀ f ∈ [Value.text "age", .text "name", .text "name"],
      documentBatch.IsAlone .standard [.text "age", .text "name", .text "name"] f := by
    intro f hf g hg hsame
    rcases hmem f hf with rfl | rfl <;> rcases hmem g hg with rfl | rfl
    · rfl
    · simp [hage, hname] at hsame
    · simp [hage, hname] at hsame
    · rfl
  obtain ⟨done, s', hrun, -, hreports⟩ :=
    declareAll_reports_iff .standard (c := ⟨.text "public"⟩) (s := staleAgeSession) ⟨rfl, rfl⟩
      (v := .list [.text "age", .text "name", .text "name"]) rfl hindexable
  refine ⟨done, s', hrun, ?_, ?_⟩
  · obtain ⟨name, plain, accepted, action, hforms, hget, honce, -, -⟩ :=
      hreports (.text "age") (by simp) (halone _ (by simp))
    obtain rfl := Except.ok.inj (hforms.name_eq.symm.trans hage)
    obtain rfl := Except.ok.inj (hforms.accepted_eq.symm.trans hdefinitions)
    rw [hget, honce (by decide)]
    rfl
  · obtain ⟨name, plain, accepted, action, hforms, hget, -, hrepeated, -⟩ :=
      hreports (.text "name") (by simp) (halone _ (by simp))
    rw [hget, hrepeated (by decide)]

/-- Declares one member twice. -/
def declareTwice (s : Session MemoryCatalog) : Result Actions × Session MemoryCatalog :=
  declareAll executor .standard ⟨.text "public"⟩ documentBatch (.list [.text "age", .text "age"]) s

/-- A member that is listed twice is reported as unchanged, although its index was absent before
the batch and is held behind it. -/
theorem repeatedAge_reported :
    (declareTwice emptySession).1.toOption.map
        (fun done => (done.map Prod.snd, done.map fun a => a.1.plainText)) =
        some ([.unchanged], ["age"]) ∧
      (emptySession.store.held "documents_content_age_index").isNone = true ∧
      ((declareTwice emptySession).2.store.held "documents_content_age_index").isSome = true ∧
      (changesOf (declareTwice emptySession).2.store.sent).length = 1 := by
  decide +kernel

end Index

end DocumentSql

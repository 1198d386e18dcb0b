/-
Counting what a search selects.

The count of a search is a search with other traits: it selects no fields and has no order.  Its
filter is the same, but the order of a search may be what asks for the schema of its document
type, so the count may be compiled without it.  The conditions of the two statements are equal
exactly when the two schemas give the same casts to the properties that the filter compares
(`Search.count_filters_as_select`).
-/
import DocumentSql.Proofs.Filter.Schema
import DocumentSql.Proofs.Search.Parameters

namespace DocumentSql

open Sql

/-! ### The traits of a count -/

/-- The traits of a count: they differ from those of its search in what does not decide which
rows are found, and in the order. -/
structure Traits.CountOf (u t : Traits) : Prop where
  group : u.group = t.group
  matching : u.matching = t.matching
  typeAwareness : u.typeAwareness = t.typeAwareness
  documents : u.documents = t.documents
  order : u.order = [] ∨ u.order = t.order

namespace Traits

/-- What was found before either counts or is overwritten. -/
lemma foldl_found (s : String) (ms : Members) (a b : Option Value) :
    (ms.foldl (fun found m => if m.1.asText? = some s then some m.2 else found) a =
        ms.foldl (fun found m => if m.1.asText? = some s then some m.2 else found) b) ∨
      ms.foldl (fun found m => if m.1.asText? = some s then some m.2 else found) a = a := by
  induction ms generalizing a b with
  | nil => exact Or.inr rfl
  | cons m ms ih =>
    rw [List.foldl_cons, List.foldl_cons]
    by_cases hm : m.1.asText? = some s
    · simp [hm]
    · simpa [hm] using ih a b

/-- Setting the trait `count` changes no other trait. -/
lemma getText?_canonicalMembers_counting (ms : Members) (s : String) :
    Members.getText? (canonicalMembers (Members.insert (.text "count") (.bool true) ms)) s =
        Members.getText? (canonicalMembers ms) s ∨
      s = "count" ∧
        Members.getText? (canonicalMembers (Members.insert (.text "count") (.bool true) ms)) s =
          some (.bool true) := by
  have hcanonical : ∀ k : Value, k.asText? = some "count" →
      (canonicalName k).asText? = some "count" := by
    intro k hk
    simp [canonicalName, hk]
  simp only [canonicalMembers, Members.ofList, Members.getText?_merge]
  generalize Members.getText? [] s = found
  induction ms generalizing found with
  | nil =>
    by_cases hs : s = "count"
    · subst hs
      right
      simp [Members.insert, hcanonical (.text "count") rfl]
    · left
      have hne : "count" ≠ s := fun h => hs h.symm
      simp [Members.insert, hcanonical (.text "count") rfl, hne]
  | cons m ms ih =>
    rw [Members.insert]
    split
    · next hm =>
      have hkey : m.1.asText? = some "count" := by simpa using hm
      simp only [List.map_cons, List.foldl_cons, hcanonical m.1 hkey]
      by_cases hs : s = "count"
      · subst hs
        rcases foldl_found "count" (ms.map fun m => (canonicalName m.1, m.2)) (some (.bool true))
          (some m.2) with heq | heq
        · left
          simpa using heq
        · right
          simpa using heq
      · left
        have hne : "count" ≠ s := fun h => hs h.symm
        simp [hne]
    · simp only [List.map_cons, List.foldl_cons]
      exact ih _

/-- Setting the trait `count` in members gives the traits of a count. -/
lemma countOf_of_ofCanonical {defaults : SearchDefaults} {ms : Members} {t u : Traits}
    (ht : ofCanonical defaults (canonicalMembers ms) = .ok t)
    (hu : ofCanonical defaults
      (canonicalMembers (Members.insert (.text "count") (.bool true) ms)) = .ok u) :
    u.CountOf t := by
  obtain ⟨htmatch, -, htgroup, htdocuments, httype, htorder⟩ := ofCanonical_eq_ok ht
  obtain ⟨humatch, -, hugroup, hudocuments, hutype, huorder⟩ := ofCanonical_eq_ok hu
  have hkeep : ∀ s, s ≠ "count" →
      Members.getText? (canonicalMembers (Members.insert (.text "count") (.bool true) ms)) s =
        Members.getText? (canonicalMembers ms) s := fun s hs =>
    (getText?_canonicalMembers_counting ms s).resolve_right fun h => hs h.1
  simp only [Members.getD, hkeep _ (by decide : "match" ≠ "count"),
    hkeep _ (by decide : "group" ≠ "count"), hkeep _ (by decide : "documents" ≠ "count"),
    hkeep _ (by decide : "type_awareness" ≠ "count"),
    hkeep _ (by decide : "order" ≠ "count")] at humatch hugroup hudocuments hutype huorder
  refine ⟨by rw [hugroup, htgroup]; rfl, Except.ok.inj (humatch.symm.trans htmatch),
    by rw [hutype, httype], by rw [hudocuments, htdocuments]; rfl, ?_⟩
  rcases getText?_canonicalMembers_counting ms "count" with hcount | ⟨-, hcount⟩
  · right
    rw [huorder, htorder, hcount]
    rfl
  · left
    rw [huorder, hcount]
    rfl

/-- The traits of a count are those of its search but for the order. -/
theorem countOf_of_counting {defaults : SearchDefaults} {a b : TraitsArgument} {t u : Traits}
    (ht : a.resolve defaults = .ok t) (hb : a.counting = .ok b)
    (hu : b.resolve defaults = .ok u) : u.CountOf t := by
  obtain ⟨ms, hms, hb⟩ := Result.bind_eq_ok_iff.1 hb
  obtain rfl := Except.ok.inj hb
  obtain ⟨ns, hns, hu⟩ := Result.bind_eq_ok_iff.1 hu
  obtain rfl := Except.ok.inj ((membersOf_counting ms).symm.trans hns)
  cases a with
  | given v =>
    obtain ⟨ms', hms', ht⟩ := Result.bind_eq_ok_iff.1 ht
    obtain rfl := Except.ok.inj (hms.symm.trans hms')
    exact countOf_of_ofCanonical ht hu
  | prepared t' =>
    obtain rfl := Except.ok.inj ht
    obtain rfl := Except.ok.inj hms
    obtain ⟨hmatch, -, hgroup, hdocuments, htype, horder⟩ := ofCanonical_eq_ok hu
    refine ⟨hgroup, ?_, htype, hdocuments, Or.inl horder⟩
    exact Except.ok.inj (hmatch.symm.trans (matchOperator_matchName t'.matching))

end Traits

namespace Search

/-! ### The schema of a count -/

lemma needsSchema_append {xs ys : List Value} {a b : Bool}
    (h : needsSchema (xs ++ ys) = .ok a) (hys : needsSchema ys = .ok b) :
    a = b ∨ needsSchema xs = .ok true ∧ a = true ∧ b = false := by
  induction xs with
  | nil => exact Or.inl (Except.ok.inj (h.symm.trans hys))
  | cons x xs ih =>
    rw [List.cons_append, needsSchema] at h
    rw [needsSchema]
    obtain ⟨need, hneed, h⟩ := Result.bind_eq_ok_iff.1 h
    rw [hneed]
    cases need with
    | false => exact ih h
    | true =>
      obtain rfl : true = a := Except.ok.inj h
      cases b with
      | true => exact Or.inl rfl
      | false => exact Or.inr ⟨rfl, rfl, rfl⟩

/-- The declared type that a count resolves is that of its search, if it resolves one: it does
without when only the order of the search asks for the type. -/
lemma resolve_countOf {lookup : Option TypeLookup} {documentType : Value} {t u : Traits}
    {need need' : TypeNeed} {type type' : Option DocumentType} (hu : u.CountOf t)
    (hneed : TypeNeed.ofSearch t documentType = .ok need)
    (hneed' : TypeNeed.ofSearch u documentType = .ok need')
    (htype : need.resolve lookup = .ok type) (htype' : need'.resolve lookup = .ok type') :
    type' = type ∨ type' = none ∧ t.typeAwareness = false ∧ needsSchema t.order = .ok true ∧
      needsSchema t.group = .ok false := by
  have hsame : need' = need → type' = type := by
    rintro rfl
    exact Except.ok.inj (htype'.symm.trans htype)
  unfold TypeNeed.ofSearch at hneed hneed'
  rw [hu.typeAwareness, hu.group] at hneed'
  split at hneed
  · next haware =>
    rw [if_pos haware] at hneed'
    exact Or.inl (hsame (Except.ok.inj (hneed'.symm.trans hneed)))
  · next haware =>
    rw [if_neg haware] at hneed'
    obtain ⟨a, ha, hask⟩ := Result.bind_eq_ok_iff.1 hneed
    obtain ⟨b, hb, hask'⟩ := Result.bind_eq_ok_iff.1 hneed'
    rcases hu.order with hnone | horder
    · rw [hnone, List.nil_append] at hb
      rcases needsSchema_append ha hb with rfl | ⟨horder, rfl, rfl⟩
      · exact Or.inl (hsame (Except.ok.inj (hask'.symm.trans hask)))
      · -- the order asks for the type and the groups do not
        simp only [if_true, Bool.false_eq_true, if_false] at hask hask'
        obtain rfl := Except.ok.inj hask
        split at hask'
        · next d hd =>
          -- a declared type that is handed over is there without being looked up
          obtain rfl : documentType = d.toValue := by
            unfold DocumentType.ofValue? at hd
            split at hd
            · obtain rfl := Option.some.inj hd
              rfl
            · simp at hd
          exact Or.inl (hsame (Except.ok.inj hask').symm)
        · obtain rfl := Except.ok.inj hask'
          obtain rfl : none = type' := Except.ok.inj htype'
          exact Or.inr ⟨rfl, by simpa using haware, horder, hb⟩
    · rw [horder] at hb
      obtain rfl := Except.ok.inj (ha.symm.trans hb)
      exact Or.inl (hsame (Except.ok.inj (hask'.symm.trans hask)))

/-! ### The condition of a count -/

/-- The query that a search is assembled to. -/
def query (env : Environment) (s : Search) (lookup : Option TypeLookup)
    (traits : TraitsArgument) : Result Query := do
  let t ← traits.resolve env.defaults
  s.build env lookup t

/-- The schema that decides the casts of a search; nothing, if it has none. -/
def schema (env : Environment) (s : Search) (lookup : Option TypeLookup)
    (traits : TraitsArgument) : Result Value := do
  let t ← traits.resolve env.defaults
  let need ← TypeNeed.ofSearch t s.documentType
  let type ← need.resolve lookup
  .ok ((type.map DocumentType.toValue).getD .null)

/-- The properties that the filter of a search compares with plain values. -/
def compared (env : Environment) (s : Search) (t : Traits) : List (FieldKey × Value) :=
  match Filter.parse env.functions t.matching s.filter with
  | .ok (some f) => f.compared
  | _ => []

/-- The condition of an assembled search. -/
lemma condition_of_build {env : Environment} {s : Search} {lookup : Option TypeLookup}
    {t : Traits} {q : Query} (h : s.build env lookup t = .ok q) :
    ∃ discriminator need type documents,
      typeCondition s.entity s.documentType = .ok discriminator ∧
      TypeNeed.ofSearch t s.documentType = .ok need ∧ need.resolve lookup = .ok type ∧
      documentsOf t type = .ok documents ∧
      s.condition env t (s.scope env type documents) discriminator = .ok q.condition := by
  cases builds_of_build h with
  | counting hframe | selecting hframe =>
    obtain ⟨hdiscriminator, ⟨need, hneed, htype⟩, hdocuments, hcondition, -⟩ := hframe
    exact ⟨_, need, _, _, hdiscriminator, hneed, htype, hdocuments, hcondition⟩

/-- A search with given traits, on its way to a statement. -/
structure Compiled (env : Environment) (s : Search) (lookup : Option TypeLookup)
    (traits : TraitsArgument) (q : Query) (schema : Value) (c : CompiledQuery) : Prop where
  /-- It is assembled to the query. -/
  query : s.query env lookup traits = .ok q
  /-- The query is compiled to the statement. -/
  compile : q.compile = .ok c
  /-- The schema decides its casts. -/
  schema : s.schema env lookup traits = .ok schema
  /-- The statement has the condition of the query. -/
  filters : s.Regular env traits → q.FiltersIn c

lemma exists_compiled {env : Environment} {s : Search} {lookup : Option TypeLookup}
    {traits : TraitsArgument} {c : CompiledQuery} (h : s.select env lookup traits = .ok c) :
    ∃ q schema, s.Compiled env lookup traits q schema c := by
  obtain ⟨t, ht, h⟩ := Result.bind_eq_ok_iff.1 h
  obtain ⟨q, hq, h⟩ := Result.bind_eq_ok_iff.1 h
  obtain ⟨_, need, type, _, -, hneed, htype, -⟩ := condition_of_build hq
  refine ⟨q, (type.map DocumentType.toValue).getD .null, ?_, h, ?_, fun hs => ?_⟩
  · simp [query, ht, hq, bind, Except.bind]
  · simp [schema, ht, hneed, htype, bind, Except.bind]
  · obtain ⟨-, -, hsound, -⟩ := build_fragments hs ht hq
    exact Query.compile_filtersIn hsound h

lemma documentsOf_countOf {t u : Traits} {type type' : Option DocumentType} (hu : u.CountOf t)
    (h : type' = type ∨ type' = none ∧ t.typeAwareness = false ∧
      needsSchema t.order = .ok true ∧ needsSchema t.group = .ok false) :
    documentsOf u type' = documentsOf t type := by
  unfold documentsOf
  rw [hu.documents, hu.typeAwareness]
  rcases h with rfl | ⟨-, haware, -⟩
  · rfl
  · simp [haware]

section

variable {env : Environment} {s : Search} {t u : Traits} {scope : Scope}
  {discriminator p q : Predicate} {schema schema' : Value}

/-- The conditions of a search and its count are empty or not together. -/
lemma isEmpty_condition (hu : u.CountOf t)
    (hp : s.condition env t { scope with schema := schema } discriminator = .ok p)
    (hq : s.condition env u { scope with schema := schema' } discriminator = .ok q) :
    q.isEmpty = p.isEmpty := by
  rw [condition, hu.matching] at hq
  obtain ⟨f, hf, hp⟩ := Result.bind_eq_ok_iff.1 hp
  obtain ⟨g, hg, hq⟩ := Result.bind_eq_ok_iff.1 hq
  obtain rfl := Except.ok.inj (hf.symm.trans hg)
  obtain ⟨p', hp', hp⟩ := Result.bind_eq_ok_iff.1 hp
  obtain ⟨q', hq', hq⟩ := Result.bind_eq_ok_iff.1 hq
  have hboth : q'.isEmpty = p'.isEmpty := by
    cases f with
    | none => rw [Except.ok.inj hp'.symm, Except.ok.inj hq'.symm]
    | some f => rw [Filter.isEmpty_compile f p' hp', Filter.isEmpty_compile f q' hq']
  rw [Predicate.isEmpty_join hp, Predicate.isEmpty_join hq]
  simp [hboth]

/-- Schemas that give the same casts lead to the same condition. -/
lemma condition_congr (hu : u.CountOf t)
    (h : Filter.SameCasts scope schema schema' (s.compared env t)) :
    s.condition env u { scope with schema := schema' } discriminator =
      s.condition env t { scope with schema := schema } discriminator := by
  rw [condition, condition, hu.matching]
  cases hf : Filter.parse env.functions t.matching s.filter with
  | error e => rfl
  | ok f =>
    cases f with
    | none => rfl
    | some f =>
      have hcasts : Filter.SameCasts scope schema schema' f.compared := by
        simpa [compared, hf] using h
      have hcompile : Filter.compile? { scope with schema := schema } (some f) =
          Filter.compile? { scope with schema := schema' } (some f) :=
        Filter.compile_congr f hcasts
      simp only [bind, Except.bind, hcompile]

/-- Under two schemas the conditions agree, and they are equal only if the schemas give the same
casts. -/
lemma condition_agrees {traits : TraitsArgument} (hs : s.Regular env traits)
    (hscope : scope.IsPlain) (hdiscriminator : discriminator.Sound) (hu : u.CountOf t)
    (hp : s.condition env t { scope with schema := schema } discriminator = .ok p)
    (hq : s.condition env u { scope with schema := schema' } discriminator = .ok q) :
    p.Agrees q ∧ (p = q → Filter.SameCasts scope schema schema' (s.compared env t)) := by
  rw [condition, hu.matching] at hq
  obtain ⟨f, hf, hp⟩ := Result.bind_eq_ok_iff.1 hp
  obtain ⟨g, hg, hq⟩ := Result.bind_eq_ok_iff.1 hq
  obtain rfl := Except.ok.inj (hf.symm.trans hg)
  obtain ⟨p', hp', hpJoin⟩ := Result.bind_eq_ok_iff.1 hp
  obtain ⟨q', hq', hqJoin⟩ := Result.bind_eq_ok_iff.1 hq
  cases f with
  | none =>
    obtain rfl := Except.ok.inj (hp'.symm.trans hq')
    refine ⟨Or.inl (Except.ok.inj (hpJoin.symm.trans hqJoin)), fun _ => ?_⟩
    simp [compared, hf, Filter.SameCasts]
  | some f =>
    have hproper : f.Proper := ⟨Filter.isRead_of_parse env.functions t.matching s.filter f
      hs.filterKeys hf, hs.rawTexts t.matching f hf⟩
    obtain ⟨hagrees, hcasts⟩ := Filter.compile_agrees hscope f p' q' hproper hp' hq'
    obtain ⟨-, -, -, hpSound, -⟩ := Filter.compile_assembles
      (s := { scope with schema := schema }) ⟨hscope.entity, hscope.procedures⟩ f p' hproper hp'
    obtain ⟨-, -, -, hqSound, -⟩ := Filter.compile_assembles
      (s := { scope with schema := schema' }) ⟨hscope.entity, hscope.procedures⟩ f q' hproper hq'
    have hcompared : s.compared env t = f.compared := by simp [compared, hf]
    rw [hcompared]
    refine Filter.join_agrees ⟨by simp [hdiscriminator, hpSound], by simp [hdiscriminator, hqSound],
      .cons (Or.inl rfl) (.cons hagrees .nil), fun hlists => ?_⟩ hpJoin hqJoin
    exact hcasts (List.cons.inj (List.cons.inj hlists).2).1

/-- Schemas that lead to the same condition give the same casts. -/
lemma sameCasts_of_condition {traits : TraitsArgument} (hs : s.Regular env traits)
    (hscope : scope.IsPlain) (hdiscriminator : discriminator.Sound) (hu : u.CountOf t)
    (hp : s.condition env t { scope with schema := schema } discriminator = .ok p)
    (hq : s.condition env u { scope with schema := schema' } discriminator = .ok q)
    (h : shape q.text = shape p.text) :
    Filter.SameCasts scope schema schema' (s.compared env t) := by
  obtain ⟨hagrees, hcasts⟩ := condition_agrees hs hscope hdiscriminator hu hp hq
  exact hcasts (hagrees.eq_of_shape_eq h.symm)

end

/-- A count filters as its search does, up to the casts of the properties that are compared: the
conditions of both are empty or not together, and they are equal if and only if the schema of
each gives these properties the same casts. The count may lose the schema when the order of the
search is the only reason to look it up; nothing else makes a difference between them. -/
theorem count_filters_as_select {env : Environment} {s : Search} {lookup : Option TypeLookup}
    {traits : TraitsArgument} {c c' : CompiledQuery}
    (hselect : s.select env lookup traits = .ok c) (hcount : s.count env lookup traits = .ok c') :
    ∃ counting t q q' schema schema', traits.counting = .ok counting ∧
      traits.resolve env.defaults = .ok t ∧
      s.Compiled env lookup traits q schema c ∧ s.Compiled env lookup counting q' schema' c' ∧
      (schema' = schema ∨ schema' = .null ∧ t.typeAwareness = false ∧
        needsSchema t.order = .ok true ∧ needsSchema t.group = .ok false) ∧
      q'.condition.isEmpty = q.condition.isEmpty ∧
      (Filter.SameCasts (s.scope env none []) schema schema' (s.compared env t) →
        q'.condition = q.condition) ∧
      (s.Regular env traits → shape q'.condition.text = shape q.condition.text →
        Filter.SameCasts (s.scope env none []) schema schema' (s.compared env t)) := by
  obtain ⟨counting, hcounting, hcount⟩ := Result.bind_eq_ok_iff.1 hcount
  obtain ⟨q, schema, hq⟩ := exists_compiled hselect
  obtain ⟨q', schema', hq'⟩ := exists_compiled hcount
  obtain ⟨t, ht, hbuild⟩ := Result.bind_eq_ok_iff.1 hq.query
  obtain ⟨u, hu, hbuild'⟩ := Result.bind_eq_ok_iff.1 hq'.query
  have hcountOf := Traits.countOf_of_counting ht hcounting hu
  obtain ⟨discriminator, need, type, documents, hdiscriminator, hneed, htype, hdocuments,
    hcondition⟩ := condition_of_build hbuild
  obtain ⟨discriminator', need', type', documents', hdiscriminator', hneed', htype', hdocuments',
    hcondition'⟩ := condition_of_build hbuild'
  -- both conditions are compiled for the same scope, but for the schema
  obtain rfl := Except.ok.inj (hdiscriminator.symm.trans hdiscriminator')
  have hresolved := resolve_countOf hcountOf hneed hneed' htype htype'
  have hsame := documentsOf_countOf hcountOf hresolved
  obtain rfl := Except.ok.inj (hdocuments.symm.trans (hsame.symm.trans hdocuments'))
  have hschema : (type.map DocumentType.toValue).getD .null = schema := by
    have h := hq.schema
    simpa [Search.schema, ht, hneed, htype, bind, Except.bind] using h
  have hschema' : (type'.map DocumentType.toValue).getD .null = schema' := by
    have h := hq'.schema
    simpa [Search.schema, hu, hneed', htype', bind, Except.bind] using h
  have hscope : ∀ type : Option DocumentType, s.scope env type documents =
      { s.scope env none documents with
        schema := (type.map DocumentType.toValue).getD .null } := fun _ => rfl
  rw [hscope, hschema] at hcondition
  rw [hscope, hschema'] at hcondition'
  refine ⟨counting, t, q, q', schema, schema', hcounting, ht, hq, hq', ?_, ?_, ?_, ?_⟩
  · rcases hresolved with rfl | ⟨rfl, hrest⟩
    · exact Or.inl (hschema'.symm.trans hschema)
    · exact Or.inr ⟨hschema'.symm, hrest⟩
  · exact isEmpty_condition hcountOf hcondition hcondition'
  · intro hcasts
    have hcasts : Filter.SameCasts (s.scope env none documents) schema schema'
        (s.compared env t) := hcasts
    rw [condition_congr hcountOf hcasts, hcondition] at hcondition'
    exact Except.ok.inj hcondition'.symm
  · intro hs hshape
    have hplain : (s.scope env none documents).IsPlain := ⟨hs.entity, hs.procedures⟩
    obtain ⟨-, -, -, hsound, -⟩ := typeCondition_assembles hs.entity hdiscriminator
    have hcasts : Filter.SameCasts (s.scope env none documents) schema schema'
        (s.compared env t) :=
      sameCasts_of_condition hs hplain hsound hcountOf hcondition hcondition' hshape
    exact hcasts

set_option maxRecDepth 4000 in
lemma count_sampleSearch :
    (match sampleSearch.count sampleEnvironment none (.given .null) with
      | .ok q => q.params.length == 2
      | .error _ => false) = true := by
  decide +kernel

/-- Both statements of a sample without a schema have the same condition. -/
theorem sampleSearch_count_filters :
    ∃ counting q q' c c', (TraitsArgument.given .null).counting = .ok counting ∧
      sampleSearch.Compiled sampleEnvironment none (.given .null) q .null c ∧
      sampleSearch.Compiled sampleEnvironment none counting q' .null c' ∧
      q'.condition = q.condition := by
  have hselect := select_sampleSearch
  have hcount := count_sampleSearch
  cases hc : sampleSearch.select sampleEnvironment none (.given .null) with
  | error e => simp [hc] at hselect
  | ok c =>
    cases hc' : sampleSearch.count sampleEnvironment none (.given .null) with
    | error e => simp [hc'] at hcount
    | ok c' =>
      obtain ⟨counting, t, q, q', schema, schema', hcounting, -, hq, hq', hschema, -, hcasts, -⟩ :=
        count_filters_as_select hc hc'
      -- no type is looked up, so there is no schema
      obtain rfl : schema = .null := Except.ok.inj (hq.schema.symm.trans rfl)
      obtain rfl : schema' = .null := by
        rcases hschema with rfl | ⟨rfl, -⟩ <;> rfl
      exact ⟨counting, q, q', c, c', hcounting, hq, hq', hcasts fun _ _ => rfl⟩

/-- Persons of some age. -/
def agedPersons : Search := ⟨.document, .text "Person", .dict [(.text "age", .text "30")]⟩

/-- The type of persons, which declares that their age is a number. -/
def personType : DocumentType :=
  ⟨.text "Person", .null,
    .dict [(.text "properties", .dict [(.text "age", .dict [(.text "type", .text "number")])])],
    .dict []⟩

/-- The order by age. -/
def byAge : TraitsArgument := .given (.dict [(.text "order", .list [.text "age"])])

lemma text_of_beq {r : Result CompiledQuery} {text : String}
    (h : (match r with
      | .ok c => c.text == text
      | .error _ => false) = true) : r.map (·.text) = .ok text := by
  cases r with
  | error e => simp at h
  | ok c => simpa [Except.map] using h

set_option maxRecDepth 4000 in
/-- A condition that the search has and its count has not: the search compares ages as numbers,
since it looks up the schema for its order, and the count compares them as texts. -/
theorem agedPersons_count_differs :
    (agedPersons.select sampleEnvironment (some (.among [personType])) byAge).map (·.text) =
        .ok ("SELECT * FROM documents WHERE (type = $1) AND " ++
          "((((content -> 'age'::text))::text)::numeric = $2) " ++
          "ORDER BY (((content -> 'age'::text))::text)::numeric") ∧
      (agedPersons.count sampleEnvironment (some (.among [personType])) byAge).map (·.text) =
        .ok ("SELECT COUNT(*) AS count FROM documents WHERE (type = $1) AND " ++
          "((content ->> 'age'::text) = $2)") :=
  ⟨text_of_beq (by decide +kernel), text_of_beq (by decide +kernel)⟩

end Search

end DocumentSql

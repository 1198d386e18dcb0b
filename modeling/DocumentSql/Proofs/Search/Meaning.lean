/-
The condition of a search, read back.

A search finds what is of one of its document types and meets its filter.  The condition of its
statement is read by the rules of SQL, with the equalities of the document types and the leaves
of the filter as atoms: it is read as the conjunction of the disjunction over the types and the
meaning of the filter, whatever is true of the atoms, and there is no condition when neither
imposes one (`Search.select_filtered`).
-/
import DocumentSql.Proofs.Filter.Meaning
import DocumentSql.Proofs.Search.Count

namespace DocumentSql

open Sql

/-! ### The condition in a statement -/

namespace Query

/-- The condition of a query, without the numbers of its placeholders, if there is one. -/
def whereText (q : Query) : Option (List Char) :=
  if q.condition.isEmpty then none else some (bare q.condition.text)

/-- Behind the select list and the table stands the condition of the query, if it has one, and
whatever stands behind it is no part of it. -/
def WhereIn (q : Query) (c : CompiledQuery) : Prop :=
  ∃ (fields : Predicate) (group order : List Predicate.Part),
    q.selectList = .ok fields ∧ clause "GROUP BY" q.group = .ok group ∧
    clause "ORDER BY" q.order = .ok order ∧
    bare c.text = [' '].intercalate
      (Predicate.bareParts [.text "SELECT", .predicate fields, .text "FROM", .text q.table] ++
        (q.whereText.elim [] fun condition => ["WHERE".toList, condition]) ++
        Predicate.bareParts (group ++ order ++ q.limitClause ++ q.offsetClause))

lemma bareParts_whereClause (q : Query) : Predicate.bareParts q.whereClause =
    q.whereText.elim [] fun condition => ["WHERE".toList, condition] := by
  unfold whereClause whereText
  split
  · rfl
  · next hne =>
    have hbare : bare q.condition.text ≠ [] := by
      rw [Predicate.bare_ne_nil_iff]
      simpa using hne
    simp only [Predicate.bareParts, Predicate.Part.bare, List.map_cons, List.map_nil,
      Option.elim_some]
    rw [List.filter_cons_of_pos (by decide), List.filter_cons_of_pos (by simp [hbare])]
    rfl

lemma compile_whereIn {q : Query} {c : CompiledQuery} (h : q.compile = .ok c) : q.WhereIn c := by
  obtain ⟨fields, group, order, p, hc⟩ := exists_compiles h
  obtain rfl := hc.eq
  refine ⟨fields, group, order, hc.fields_eq, hc.group_eq, hc.order_eq, ?_⟩
  have htext := Predicate.bare_concat hc.concat_eq
  simpa only [parts, List.append_assoc, Predicate.bareParts_append, bareParts_whereClause]
    using htext

end Query

namespace Search

/-! ### Document types -/

/-- Fragments as atoms, under a truth value for each. -/
def atomsOf (truth : Predicate → Bool) (ps : List Predicate) : List Atom :=
  ps.map fun p => (bare p.text, truth p)

lemma allRead_nameConditions {column : String} (hcolumn : WellNested column.toList)
    {names : List Value} {ps : List Predicate} (h : nameConditions column names = .ok ps)
    (truth : Predicate → Bool) :
    Predicate.AllRead ps (atomsOf truth ps) (ps.map fun p => some (truth p)) := by
  have heach := forall₂_nameConditions h
  clear h
  induction heach with
  | nil => exact .nil
  | @cons n p names ps hp _ ih =>
    have hnested := Predicate.wellNested_of_make hp
      (Filter.wellNested_append hcolumn (by decide))
    have hfirst := Predicate.Reads.condition (Predicate.isEmpty_of_make_ne hp (by simp))
      (Operand.isRead_atom ((wellNested_bare_iff p.text).2 hnested) (truth p))
    exact .cons hfirst ih

/-- The condition of the document types is read as the disjunction of their equalities. -/
lemma reads_typeCondition {e : Entity} {documentType : Value} {p : Predicate} (he : e.IsWellNested)
    (h : typeCondition e documentType = .ok p) :
    ∃ ps, typeFragments e documentType = .ok ps ∧ ∀ truth : Predicate → Bool,
      p.Reads (atomsOf truth ps)
        (Predicate.Operator.or.combine (ps.map fun p => some (truth p))) := by
  obtain ⟨names, hnames, h⟩ := Result.bind_eq_ok_iff.1 h
  rw [typeFragments, hnames]
  cases names with
  | nil =>
    obtain rfl := Except.ok.inj h
    exact ⟨[], rfl, fun truth => .nothing rfl⟩
  | cons n names =>
    cases hcolumn : e.discriminator with
    | none => simp [hcolumn] at h
    | some column =>
      rw [hcolumn] at h
      obtain ⟨ps, hps, h⟩ := Result.bind_eq_ok_iff.1 h
      exact ⟨ps, hps, fun truth =>
        (allRead_nameConditions (he.discriminator column hcolumn) hps truth).join h⟩

/-! ### Searches -/

/-- What a search is compiled for. -/
def scopeOf (env : Environment) (s : Search) (lookup : Option TypeLookup) (t : Traits) :
    Result Scope := do
  let need ← TypeNeed.ofSearch t s.documentType
  let type ← need.resolve lookup
  let documents ← documentsOf t type
  .ok (s.scope env type documents)

/-- The value of a search for a document, under a truth value for each equality of a document type
and each leaf of the filter: the document is of one of the types, and meets the filter. There is
no value when neither imposes a condition. -/
def meaning (env : Environment) (s : Search) (t : Traits) (scope : Scope)
    (types : List Predicate) (truth : Predicate → Bool) : Option Bool :=
  Predicate.Operator.and.combine
    [Predicate.Operator.or.combine (types.map fun p => some (truth p)),
      Filter.meaning env.functions (Filter.leafValue scope truth) t.matching s.filter]

/-- The atoms of the condition of a search: the equalities of the document types, and what the
leaves of the filter compile to. -/
def atoms (scope : Scope) (types : List Predicate) (f : Option Filter)
    (truth : Predicate → Bool) : List Atom :=
  atomsOf truth types ++ Filter.atoms scope truth (Filter.leavesAll f.toList)

/-- What the arguments of a search bring into its condition is well nested: the parentheses and
quotes of names and of raw fragments are balanced, and keys were read from texts. -/
structure Enclosable (env : Environment) (s : Search) : Prop where
  entity : s.entity.IsWellNested
  procedures : env.procedures.IsWellNested
  filterKeys : s.filter.KeysRead
  rawTexts : ∀ op f, Filter.parse env.functions op s.filter = .ok (some f) →
    ∀ t ∈ f.rawTexts, WellNested t.toList

/-- The statement has a condition that is read as the meaning of the search, whatever is true of
its atoms, or none when the search imposes none. -/
def FilteredAsMeant (env : Environment) (s : Search) (lookup : Option TypeLookup)
    (traits : TraitsArgument) (c : CompiledQuery) : Prop :=
  ∃ t scope types f q, traits.resolve env.defaults = .ok t ∧
    s.scopeOf env lookup t = .ok scope ∧
    typeFragments s.entity s.documentType = .ok types ∧
    Filter.parse env.functions t.matching s.filter = .ok f ∧
    s.build env lookup t = .ok q ∧ q.WhereIn c ∧
    ∀ truth, q.whereText.map (conditionValue · (atoms scope types f truth)) =
      (s.meaning env t scope types truth).map some

lemma reads_condition {env : Environment} {s : Search} {t : Traits} {scope : Scope}
    {types : List Predicate} {discriminator p : Predicate} (hs : s.Enclosable env)
    (hscope : scope.IsWellNested) {truth : Predicate → Bool}
    (hdiscriminator : discriminator.Reads (atomsOf truth types)
      (Predicate.Operator.or.combine (types.map fun p => some (truth p))))
    (h : s.condition env t scope discriminator = .ok p) :
    ∃ f, Filter.parse env.functions t.matching s.filter = .ok f ∧
      p.Reads (atoms scope types f truth) (s.meaning env t scope types truth) := by
  obtain ⟨f, hf, h⟩ := Result.bind_eq_ok_iff.1 h
  obtain ⟨q, hq, h⟩ := Result.bind_eq_ok_iff.1 h
  refine ⟨f, hf, ?_⟩
  have hfilter : q.Reads (Filter.atoms scope truth (Filter.leavesAll f.toList))
      (Filter.meaning env.functions (Filter.leafValue scope truth) t.matching s.filter) := by
    rw [← Filter.value?_of_parses (Filter.parses_of_eq_ok hf)]
    cases f with
    | none =>
      obtain rfl := Except.ok.inj hq
      exact .nothing rfl
    | some f =>
      have hread := Filter.reads_compile hscope truth f q
        ⟨Filter.isRead_of_parse env.functions t.matching s.filter f hs.filterKeys hf,
          hs.rawTexts t.matching f hf⟩ hq
      simpa [Filter.leavesAll, Filter.value?] using hread
  have hboth := Predicate.AllRead.cons hdiscriminator (.cons hfilter .nil)
  simpa [atoms, meaning] using hboth.join h

/-- The value of a condition that is read. -/
lemma map_conditionValue {p : Predicate} {atoms : List Atom} {v : Option Bool} {q : Query}
    (hq : q.condition = p) (h : p.Reads atoms v) :
    q.whereText.map (conditionValue · atoms) = v.map some := by
  cases h with
  | nothing hempty => simp [Query.whereText, hq, hempty]
  | condition hne hread =>
    have hvalue := hread.conditionValue_eq
    simp [Query.whereText, hq, hne, hvalue]

lemma filteredAsMeant_of_select {env : Environment} {s : Search} {lookup : Option TypeLookup}
    {traits : TraitsArgument} {c : CompiledQuery} (hs : s.Enclosable env)
    (h : s.select env lookup traits = .ok c) : s.FilteredAsMeant env lookup traits c := by
  obtain ⟨t, ht, h⟩ := Result.bind_eq_ok_iff.1 h
  obtain ⟨q, hq, h⟩ := Result.bind_eq_ok_iff.1 h
  obtain ⟨discriminator, need, type, documents, hdiscriminator, hneed, htype, hdocuments,
    hcondition⟩ := condition_of_build hq
  obtain ⟨types, htypes, hread⟩ := reads_typeCondition hs.entity hdiscriminator
  have hscope : (s.scope env type documents).IsWellNested := ⟨hs.entity, hs.procedures⟩
  -- the filter does not depend on what is true
  obtain ⟨f, hf, -⟩ := reads_condition hs hscope (hread fun _ => true) hcondition
  refine ⟨t, s.scope env type documents, types, f, q, ht, ?_, htypes, hf, hq,
    Query.compile_whereIn h, fun truth => ?_⟩
  · simp [scopeOf, hneed, htype, hdocuments, bind, Except.bind]
  · obtain ⟨f', hf', hmeaning⟩ := reads_condition hs hscope (hread truth) hcondition
    obtain rfl := Except.ok.inj (hf.symm.trans hf')
    exact map_conditionValue rfl hmeaning

/-- The condition of every search and count means what its document types and its filter say. -/
theorem select_filtered (env : Environment) (s : Search) (lookup : Option TypeLookup)
    (traits : TraitsArgument) (hs : s.Enclosable env) :
    (∀ c, s.select env lookup traits = .ok c → s.FilteredAsMeant env lookup traits c) ∧
    ∀ c, s.count env lookup traits = .ok c → ∃ counting, traits.counting = .ok counting ∧
      s.FilteredAsMeant env lookup counting c := by
  refine ⟨fun c => filteredAsMeant_of_select hs, fun c hc => ?_⟩
  obtain ⟨counting, hcounting, hc⟩ := Result.bind_eq_ok_iff.1 hc
  exact ⟨counting, hcounting, filteredAsMeant_of_select hs hc⟩

/-- Documents of two types with a raw condition whose operator stands outside of parentheses, next
to a comparison and a disjunction of nothing. -/
def guardedSearch : Search :=
  ⟨.document, .list [.text "Person", .text "Pet"],
    .list [.text "a = 1 OR b = 2", .dict [(.text "c", .null)], .list [.text "OR", .text " "]]⟩

lemma enclosable_guardedSearch : guardedSearch.Enclosable sampleEnvironment where
  entity :=
    (Entity.isPlain_of_mem_builtIn _ (by simp [guardedSearch, Entity.builtIn])).isWellNested
  procedures := Procedures.isWellNested_standard
  filterKeys := by
    simp [Value.KeysRead, guardedSearch, Value.heldKeys, Value.heldKeysAll, Value.key?]
  rawTexts := by
    intro op f hf
    have hparse : Filter.parse [] op guardedSearch.filter = .ok (some (.all
        [.raw "a = 1 OR b = 2", Filter.joined op [.property (.path ["c"]) .null],
          .any [.raw ""]])) := by
      cases op <;> rfl
    obtain rfl := Option.some.inj (Except.ok.inj (hparse.symm.trans hf))
    have hraws : ∀ t ∈ ["a = 1 OR b = 2", ""], WellNested t.toList := by decide
    cases op <;> simpa [Filter.rawTexts, Filter.rawTextsAll, Filter.joined] using hraws

set_option maxRecDepth 4000 in
lemma select_guardedSearch :
    (guardedSearch.select sampleEnvironment none (.given .null)).map (·.text) =
      .ok ("SELECT * FROM documents WHERE ((type = $1) OR (type = $2)) AND " ++
        "((a = 1 OR b = 2) AND ((content ->> 'c'::text) IS NULL)) ORDER BY id") :=
  text_of_beq (by decide +kernel)

/-- The operator of the raw condition does not group with those around it. -/
theorem guardedSearch_filtered :
    ∃ c, guardedSearch.select sampleEnvironment none (.given .null) = .ok c ∧
      c.text = "SELECT * FROM documents WHERE ((type = $1) OR (type = $2)) AND " ++
        "((a = 1 OR b = 2) AND ((content ->> 'c'::text) IS NULL)) ORDER BY id" ∧
      guardedSearch.FilteredAsMeant sampleEnvironment none (.given .null) c := by
  obtain ⟨c, hc, htext⟩ := Result.map_eq_ok_iff.1 select_guardedSearch
  exact ⟨c, hc, htext, (select_filtered sampleEnvironment guardedSearch none (.given .null)
    enclosable_guardedSearch).1 c hc⟩

end Search

end DocumentSql

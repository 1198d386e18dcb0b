/-
Grouped keys in the select list.

A database answers a grouped search only if the fields that it selects are expressions that it
groups by.  A property is selected as the expression that it is grouped by, with its cast.  A
column is selected by its name, and grouped by its name only without a cast that changes it: any
other cast, and the milliseconds that a moment is grouped by, leave a parenthesis or a colon in
the expression, and no name of a column has one.  So the two expressions of a selected key agree
exactly for properties and for columns that are grouped as they are (`select_grouped`).
-/
import DocumentSql.Proofs.Cast.Navigation
import DocumentSql.Proofs.Search.Item
import DocumentSql.Proofs.Search.Meaning

namespace DocumentSql

/-! ### Names of columns -/

namespace FieldKey

/-- The characters that casts and calls leave in an expression stand in no name of a column. -/
lemma no_mark_of_isRead {c : String} (h : IsRead (.column c)) :
    ' ' ∉ c.toList ∧ '(' ∉ c.toList ∧ ':' ∉ c.toList := by
  have hchars := mem_of_isColumnName (column_of_isRead h).1
  refine ⟨fun hmem => ?_, fun hmem => ?_, fun hmem => ?_⟩
  all_goals rcases hchars _ hmem with hc | hc <;> revert hc <;> decide

/-- The expression of a path and that of a moment in milliseconds have a parenthesis. -/
lemma paren_mem_resolveColumn {e : Entity} {k : FieldKey} {p : Predicate}
    (hk : (∃ path, k = .path path) ∨ ∃ c, k = .timestamp c) (h : k.resolveColumn e true = .ok p) :
    '(' ∈ p.text.toList := by
  obtain ⟨text, origin, hdenotes, hmake⟩ := exists_denotes h
  rw [Predicate.text_of_make_nil hmake]
  rcases hk with ⟨path, rfl⟩ | ⟨c, rfl⟩
  · cases hdenotes with
    | path =>
      unfold navigate
      split <;> simp
  · cases hdenotes with
    | timestamp _ hepoch => simp at hepoch
    | milliseconds => simp

end FieldKey

/-! ### Casts of names -/

namespace Cast

lemma paren_mem_operand {expr : String} (h : '(' ∈ expr.toList) : '(' ∈ (operand expr).toList := by
  rcases operand_cases expr with heq | heq <;> simp [heq, h]

lemma paren_mem_asText {expr : String} (h : '(' ∈ expr.toList) : '(' ∈ (asText expr).toList := by
  rcases asText_cases expr with ⟨arrow, harrow, cs, hcs, heq⟩ | heq | heq
  · have hparen : ∀ arrow ∈ arrows, '(' ∉ arrow.1 := by decide
    obtain ⟨⟨before, after⟩, hcut, rfl⟩ := Option.map_eq_some_iff.1 hcs
    rw [cutLast_eq_some hcut] at h
    rw [heq, String.toList_ofList]
    simp only [List.mem_append, hparen arrow harrow, or_false] at h ⊢
    tauto
  · rwa [heq]
  · simp [heq, paren_mem_operand h]

/-- A cast takes no parenthesis away. -/
lemma paren_mem_applyTo (c : Cast) {expr : String} (h : '(' ∈ expr.toList) :
    '(' ∈ (c.applyTo expr).toList := by
  cases c with
  | kind k =>
    cases k with
    | direct => exact h
    | text => exact paren_mem_asText h
    | numeric => simp [applyTo]
    | boolean => simp [applyTo]
  | type n =>
    simp [applyTo, paren_mem_operand h]

lemma asText_of_no_mark {expr : String} (hblank : ' ' ∉ expr.toList) (hcolon : ':' ∉ expr.toList) :
    asText expr = operand expr ++ "::text" := by
  have hnone : textNavigation? expr.toList = none := by
    have hmember : Text.cutLast " -> ".toList expr.toList = none :=
      Text.cutLast_of_no_blank rfl hblank
    have hpath : Text.cutLast " #> ".toList expr.toList = none :=
      Text.cutLast_of_no_blank rfl hblank
    rw [textNavigation?, Text.replaceLast?, hmember, Option.map_none, Text.replaceLast?, hpath,
      Option.map_none]
  have hends : endsInText expr.toList = false := by
    rw [Bool.eq_false_iff]
    intro hends
    simp only [endsInText, Bool.or_eq_true, List.isSuffixOf_iff_suffix] at hends
    refine hcolon ?_
    rcases hends with hends | hends <;> exact hends.subset (by decide)
  rw [asText, hnone]
  simp [hends]

/-- Every cast but the direct one leaves a parenthesis or a colon in a name. -/
lemma mark_mem_applyTo {c : Cast} (hc : c ≠ .kind .direct) {expr : String}
    (hblank : ' ' ∉ expr.toList) (hcolon : ':' ∉ expr.toList) :
    '(' ∈ (c.applyTo expr).toList ∨ ':' ∈ (c.applyTo expr).toList := by
  cases c with
  | kind k =>
    cases k with
    | direct => exact absurd rfl hc
    | text => exact Or.inr (by simp [applyTo, asText_of_no_mark hblank hcolon])
    | numeric => exact Or.inl (by simp [applyTo])
    | boolean => exact Or.inl (by simp [applyTo])
  | type n => exact Or.inr (by simp [applyTo])

end Cast

namespace Search

/-! ### Groups -/

/-- One of the items groups by the key, with or without a cast of its own. -/
def IsGrouped (items : List Value) (k : FieldKey) : Prop :=
  ∃ item ∈ items, ∃ cast, groupKey item = .ok (k, cast)

/-- The cast leaves a column as it is: there is none, or it is the direct one. -/
def IsDirect (cast : Value) : Prop := cast = .null ∨ Cast.parse cast = .ok (.kind .direct)

lemma isDirect_iff {e : Entity} {schema cast : Value} {column : String} {c : Cast}
    (h : Cast.ofKey e schema (.column column) cast = .ok c) :
    IsDirect cast ↔ c = .kind .direct := by
  unfold Cast.ofKey at h
  split at h
  · obtain ⟨kind, hkind, rfl⟩ := Result.map_eq_ok_iff.1 h
    rw [CastKind.ofKey] at hkind
    split at hkind
    · obtain rfl := Except.ok.inj hkind
      exact iff_of_true (Or.inl rfl) rfl
    · simp at hkind
  · next hne =>
    rw [IsDirect, h]
    exact ⟨fun hdirect => Except.ok.inj (hdirect.resolve_left hne), fun hc => Or.inr (by rw [hc])⟩

/-- A group has the name of a column as its expression exactly when it groups by the column
without a cast that changes it. -/
lemma groupItem_text_eq_iff {s : Scope} {item : Value} {p : Predicate} {name : String}
    (h : groupItem s item = .ok p) (hparen : '(' ∉ name.toList) (hcolon : ':' ∉ name.toList) :
    p.text = name ↔ ∃ cast, groupKey item = .ok (.column name, cast) ∧ IsDirect cast := by
  obtain ⟨k, cast, q, c, hkey, hread, hall, hrelations, hq, hc, htext, -⟩ := groupItem_eq_ok h
  -- a property and a moment have a parenthesis in their expression, whatever the cast
  have hmarked : (∃ path, k = .path path) ∨ (∃ c, k = .timestamp c) →
      (p.text = name ↔ ∃ cast, groupKey item = .ok (.column name, cast) ∧ IsDirect cast) := by
    intro hk
    have hmem : '(' ∈ p.text.toList :=
      htext ▸ Cast.paren_mem_applyTo c (FieldKey.paren_mem_resolveColumn hk hq)
    refine iff_of_false (fun heq => hparen (heq ▸ hmem)) ?_
    rintro ⟨cast', hkey', -⟩
    rw [hkey] at hkey'
    rcases hk with ⟨path, rfl⟩ | ⟨d, rfl⟩ <;> simp at hkey'
  cases k with
  | all => exact absurd rfl hall
  | relations => exact absurd rfl hrelations
  | path path => exact hmarked (Or.inl ⟨path, rfl⟩)
  | timestamp d => exact hmarked (Or.inr ⟨d, rfl⟩)
  | column d =>
    obtain ⟨hblank, -, hcolon'⟩ := FieldKey.no_mark_of_isRead hread
    obtain ⟨text, origin, hdenotes, hmake⟩ := FieldKey.exists_denotes hq
    cases hdenotes with
    | column =>
      rw [htext, Predicate.text_of_make_nil hmake, hkey]
      constructor
      · intro heq
        -- any other cast leaves a mark that no name has
        have hdirect : c = .kind .direct := by
          by_contra hne
          rcases Cast.mark_mem_applyTo hne hblank hcolon' with hmem | hmem
          · exact hparen (heq ▸ hmem)
          · exact hcolon (heq ▸ hmem)
        subst hdirect
        obtain rfl : d = name := heq
        exact ⟨cast, rfl, (isDirect_iff hc).2 rfl⟩
      · rintro ⟨cast', hsame, hdirect⟩
        obtain ⟨rfl, rfl⟩ : d = name ∧ cast = cast' := by simpa using hsame
        rw [(isDirect_iff hc).1 hdirect]
        rfl

/-- The name of a column is an expression of the groups exactly when one of the items groups by the
column as it is. -/
lemma exists_group_text_eq_iff {s : Scope} {items : List Value} {ps : List Predicate}
    {name : String}
    (h : groupItems s items = .ok ps) (hparen : '(' ∉ name.toList) (hcolon : ':' ∉ name.toList) :
    (∃ p ∈ ps, p.text = name) ↔
      ∃ item ∈ items, ∃ cast, groupKey item = .ok (.column name, cast) ∧ IsDirect cast := by
  obtain ⟨hps, hitems⟩ := mem_groupItems h
  constructor
  · rintro ⟨p, hp, htext⟩
    obtain ⟨item, hitem, hp⟩ := hps p hp
    exact ⟨item, hitem, (groupItem_text_eq_iff hp hparen hcolon).1 htext⟩
  · rintro ⟨item, hitem, hdirect⟩
    obtain ⟨p, hp, hgroup⟩ := hitems item hitem
    exact ⟨p, hp, (groupItem_text_eq_iff hgroup hparen hcolon).2 hdirect⟩

/-! ### Fields -/

/-- What stands behind the expression of a selected key: the name of the output column, unless it
is that of a column of the table. -/
def aliasText (e : Entity) (k : FieldKey) : String :=
  match k with
  | .path _ => " AS \"" ++ pathAlias e k ++ "\""
  | .relations => " AS " ++ FieldKey.relationsColumn
  | .column _ | .timestamp _ | .all => ""

/-- The grouped keys that are selected as the expression that they are grouped by: properties, and
columns that are grouped by as they are. A moment is grouped by in milliseconds, and selected as it
is. -/
def IsSelectedAsGrouped (items : List Value) (k : FieldKey) : Prop :=
  match k with
  | .path _ => True
  | .column _ => ∃ item ∈ items, ∃ cast, groupKey item = .ok (k, cast) ∧ IsDirect cast
  | _ => False

/-- How the key of a name is rendered in a select list, if it names a single field that one of the
items groups by: as an expression with the name of its output column behind it, which for a column
is its name. The expression is one of the groups if and only if the key is selected as it is
grouped. -/
def RendersGrouped (e : Entity) (items : List Value) (groups : List Predicate) (name : Value)
    (field : Predicate) : Prop :=
  ∀ k, FieldKey.parse name = .ok k → k ≠ .all → k ≠ .relations → IsGrouped items k →
    ∃ expr, field.text = expr ++ aliasText e k ∧ (∀ c, k.columnName? = some c → expr = c) ∧
      ((∃ p ∈ groups, p.text = expr) ↔ IsSelectedAsGrouped items k)

lemma exists_mem_groupedKeys {s : Scope} {items : List Value} {ps : List Predicate}
    {groups : List (FieldKey × Predicate)} {k : FieldKey} (hps : groupItems s items = .ok ps)
    (h : groupedKeys items ps = .ok groups) (hk : IsGrouped items k) :
    ∃ p, (k, p) ∈ groups := by
  have heach := forall₂_groupItems hps
  clear hps
  induction heach generalizing groups with
  | nil =>
    obtain ⟨item, hitem, -⟩ := hk
    simp at hitem
  | @cons item p items ps _ _ ih =>
    obtain ⟨⟨l, cast⟩, hl, h⟩ := Result.bind_eq_ok_iff.1 h
    obtain ⟨rest, hrest, h⟩ := Result.bind_eq_ok_iff.1 h
    obtain rfl : (l, p) :: rest = groups := Except.ok.inj h
    obtain ⟨item', hitem, cast', hkey⟩ := hk
    rcases List.mem_cons.1 hitem with rfl | hitem
    · obtain ⟨rfl, -⟩ : l = k ∧ cast = cast' := by simpa using hl.symm.trans hkey
      exact ⟨p, by simp⟩
    · obtain ⟨p', hp'⟩ := ih hrest ⟨item', hitem, cast', hkey⟩
      exact ⟨p', by simp [hp']⟩

/-- A grouped key has an expression among those of the groups. -/
lemma exists_groupedAs {groups : List (FieldKey × Predicate)} {k : FieldKey} {p : Predicate}
    (h : (k, p) ∈ groups) : ∃ g ∈ groups, groupedAs? groups k = some g.2 := by
  rw [groupedAs?]
  cases hfind : groups.reverse.find? fun g => g.1.name == k.name with
  | none =>
    have hnone := List.find?_eq_none.1 hfind (k, p) (by simpa using h)
    simp at hnone
  | some g => exact ⟨g, List.mem_reverse.1 (List.mem_of_find?_eq_some hfind), rfl⟩

/-- A grouped property is selected as one of the groups. -/
lemma fieldItem_path {s : Scope} {items : List Value} {ps : List Predicate}
    {groups : List (FieldKey × Predicate)} {name : Value} {path : List String}
    {f : Predicate × FieldMap} (hps : groupItems s items = .ok ps)
    (hgroups : groupedKeys items ps = .ok groups)
    (hk : FieldKey.parse name = .ok (.path path)) (hgrouped : IsGrouped items (.path path))
    (h : fieldItem s groups name = .ok f) :
    ∃ p ∈ ps, f.1.text = p.text ++ aliasText s.entity (.path path) := by
  obtain ⟨k, hk', h⟩ := Result.bind_eq_ok_iff.1 h
  obtain rfl := Except.ok.inj (hk'.symm.trans hk)
  obtain ⟨p, -, h⟩ := Result.bind_eq_ok_iff.1 h
  obtain ⟨q, hq, h⟩ := Result.bind_eq_ok_iff.1 h
  obtain rfl := Except.ok.inj h
  obtain ⟨r, hr⟩ := exists_mem_groupedKeys hps hgroups hgrouped
  obtain ⟨g, hg, hsome⟩ := exists_groupedAs hr
  have hmem := mem_of_groupedKeys hgroups g hg
  obtain ⟨item, -, hitem⟩ := (mem_groupItems hps).1 g.2 hmem
  obtain ⟨_, _, _, _, -, -, -, -, -, -, -, hparams⟩ := groupItem_eq_ok hitem
  rw [hsome, Option.getD_some, Predicate.withText, hparams] at hq
  refine ⟨g.2, hmem, ?_⟩
  rw [Predicate.text_of_make_nil hq, aliasText]
  simp only [String.append_assoc]

/-- A column is selected by its name, whether it holds moments or not. -/
lemma fieldItem_column {s : Scope} {groups : List (FieldKey × Predicate)} {name : Value}
    {k : FieldKey} {c : String} {f : Predicate × FieldMap} (hk : FieldKey.parse name = .ok k)
    (hc : k = .column c ∨ k = .timestamp c) (h : fieldItem s groups name = .ok f) :
    f.1.text = c ++ aliasText s.entity k := by
  obtain ⟨l, hl, h⟩ := Result.bind_eq_ok_iff.1 h
  obtain rfl := Except.ok.inj (hl.symm.trans hk)
  obtain ⟨p, hp, h⟩ := Result.bind_eq_ok_iff.1 h
  have htext := (FieldKey.column_of_resolve hc hp).1
  rcases hc with rfl | rfl
  all_goals
    obtain rfl := Except.ok.inj h
    simp [aliasText, htext]

/-- A selected key that is grouped has one of the groups as its expression exactly when it is a
property, or a column that is grouped by as it is. -/
lemma fieldItem_grouped {s : Scope} {items : List Value} {ps : List Predicate}
    {groups : List (FieldKey × Predicate)} {name : Value} {f : Predicate × FieldMap}
    (hps : groupItems s items = .ok ps) (hgroups : groupedKeys items ps = .ok groups)
    (hname : Filter.NamesRead name) (h : fieldItem s groups name = .ok f) :
    RendersGrouped s.entity items ps name f.1 := by
  intro k hk hall hrelations hgrouped
  cases k with
  | all => exact absurd rfl hall
  | relations => exact absurd rfl hrelations
  | path path =>
    obtain ⟨p, hp, htext⟩ := fieldItem_path hps hgroups hk hgrouped h
    exact ⟨p.text, htext, by simp [FieldKey.columnName?], iff_of_true ⟨p, hp, rfl⟩ trivial⟩
  | column c =>
    obtain ⟨-, hparen, hcolon⟩ := FieldKey.no_mark_of_isRead (hname _ hk)
    exact ⟨c, fieldItem_column hk (Or.inl rfl) h, by simp [FieldKey.columnName?],
      exists_group_text_eq_iff hps hparen hcolon⟩
  | timestamp c =>
    have hc := FieldKey.timestamp_of_isRead (hname _ hk)
    have hmark : ∀ d ∈ FieldKey.timestampColumns, '(' ∉ d.toList ∧ ':' ∉ d.toList := by decide
    obtain ⟨hparen, hcolon⟩ := hmark c hc
    refine ⟨c, fieldItem_column hk (Or.inr rfl) h, by simp [FieldKey.columnName?],
      iff_of_false ?_ id⟩
    -- no item groups by a column of moments under its name alone
    rw [exists_group_text_eq_iff hps hparen hcolon]
    rintro ⟨item, -, cast, hkey, -⟩
    exact (FieldKey.column_of_isRead (isRead_of_groupKey hkey)).2 hc

/-! ### Statements -/

lemma namesRead_selectedKeys {t : Traits} (hread : ∀ name ∈ t.fields, Filter.NamesRead name)
    (documents : List Value) : ∀ name ∈ selectedKeys t documents, Filter.NamesRead name := by
  intro name hname
  unfold selectedKeys at hname
  split at hname
  · rcases List.mem_append.1 hname with hname | hname
    · exact hread name hname
    · obtain rfl : name = .text "$documents" := by simpa using hname
      exact Filter.namesRead_text "$documents"
  · exact hread name hname

/-- The query of a search that selects: its fields are those of the selected keys, and with other
selected keys it is the same query with their fields. -/
lemma fields_of_select {env : Environment} {s : Search} {lookup : Option TypeLookup} {t : Traits}
    {q : Query} (hcount : t.count = false) (h : s.build env lookup t = .ok q) :
    ∃ type documents groups fields, documentsOf t type = .ok documents ∧
      groupItems (s.scope env type documents) t.group = .ok q.group ∧
      groupedKeys t.group q.group = .ok groups ∧
      fieldItems (s.scope env type documents) groups (selectedKeys t documents) = .ok fields ∧
      q.fields = fields.map Prod.fst ∧ q.method = .select ∧ q.table = s.entity.table ∧
      q.fieldMap = FieldMap.putAll (fields.flatMap Prod.snd) [] ∧
      ∀ names fields',
        fieldItems (s.scope env type documents) groups
          (selectedKeys { t with fields := names } documents) = .ok fields' →
        s.build env lookup { t with fields := names } =
          .ok { q with
            fields := fields'.map Prod.fst
            fieldMap := FieldMap.putAll (fields'.flatMap Prod.snd) [] } := by
  cases builds_of_build h with
  | counting _ hcounting => simp [hcounting] at hcount
  | selecting hframe _ hgroups hfields horder =>
    refine ⟨_, _, _, _, hframe.documents_eq, hframe.group_eq, hgroups, hfields, rfl, rfl, rfl, rfl,
      fun names fields' hfields' => ?_⟩
    -- nothing but the fields of a query depends on the selected keys
    exact Builds.build_eq (.selecting ⟨hframe.discriminator_eq, hframe.type_eq, hframe.documents_eq,
      hframe.condition_eq, hframe.group_eq⟩ hcount hgroups hfields' horder)

/-- The selected keys of a search that are grouped, too: each is rendered in the select list as an
expression, with the name of its output column behind it, and that expression is one of those that
the statement groups by if and only if the key is a property, or a column that is grouped by as it
is. Columns under a cast and moments are selected by their names, which are no groups then. -/
theorem select_grouped {env : Environment} {s : Search} {lookup : Option TypeLookup}
    {traits : TraitsArgument} {t : Traits} {c : CompiledQuery}
    (ht : traits.resolve env.defaults = .ok t) (hcount : t.count = false)
    (hread : ∀ name ∈ t.fields, Filter.NamesRead name) (h : s.select env lookup traits = .ok c) :
    ∃ q documents, s.build env lookup t = .ok q ∧ q.compile = .ok c ∧ q.WhereIn c ∧
      q.method = .select ∧
      List.Forall₂ (RendersGrouped s.entity t.group q.group) (selectedKeys t documents)
        q.fields := by
  obtain ⟨u, hu, h⟩ := Result.bind_eq_ok_iff.1 h
  obtain rfl := Except.ok.inj (hu.symm.trans ht)
  obtain ⟨q, hq, hc⟩ := Result.bind_eq_ok_iff.1 h
  obtain ⟨type, documents, groups, fields, -, hgroup, hgroups, hfields, hmap, hmethod, -, -, -⟩ :=
    fields_of_select hcount hq
  have hselected := namesRead_selectedKeys hread documents
  have heach := forall₂_fieldItems hfields
  refine ⟨q, documents, hq, hc, Query.compile_whereIn hc, hmethod, ?_⟩
  rw [hmap, List.forall₂_map_right_iff]
  refine ((List.forall₂_and_left _ _).2 ⟨hselected, heach⟩).imp ?_
  rintro name f ⟨hname, hf⟩
  have hrendered := fieldItem_grouped hgroup hgroups hname hf
  exact hrendered

/-- The names of persons, grouped as texts, with the numbers. -/
def groupedNames : TraitsArgument :=
  .given (.dict [(.text "fields", .list [.text "$id", .text "name"]),
    (.text "group", .list [.text "$id", .text "name:text"]), (.text "order", .list [])])

/-- Documents of a type. -/
def persons : Search := ⟨.document, .text "Person", .null⟩

lemma resolve_groupedNames :
    ∃ t, groupedNames.resolve sampleEnvironment.defaults = .ok t ∧ t.count = false ∧
      t.fields = [.text "$id", .text "name"] ∧ t.group = [.text "$id", .text "name:text"] :=
  ⟨_, rfl, rfl, rfl, rfl⟩

set_option maxRecDepth 4000 in
lemma select_groupedNames :
    (persons.select sampleEnvironment none groupedNames).map (·.text) =
      .ok ("SELECT id, (content ->> 'name'::text) AS \"content.name\" FROM documents " ++
        "WHERE type = $1 GROUP BY id, (content ->> 'name'::text)") :=
  text_of_beq (by decide +kernel)

/-- A name is selected under the cast that it is grouped under. -/
theorem groupedNames_selected :
    ∃ t c, groupedNames.resolve sampleEnvironment.defaults = .ok t ∧ t.count = false ∧
      (∀ name ∈ t.fields, Filter.NamesRead name) ∧
      persons.select sampleEnvironment none groupedNames = .ok c ∧
      c.text = "SELECT id, (content ->> 'name'::text) AS \"content.name\" FROM documents " ++
        "WHERE type = $1 GROUP BY id, (content ->> 'name'::text)" ∧
      ∃ (q : Query) (documents : List Value), q.compile = .ok c ∧
        List.Forall₂ (RendersGrouped persons.entity t.group q.group) (selectedKeys t documents)
          q.fields := by
  obtain ⟨t, ht, hcount, hfields, -⟩ := resolve_groupedNames
  obtain ⟨c, hc, htext⟩ := Result.map_eq_ok_iff.1 select_groupedNames
  have hread : ∀ name ∈ t.fields, Filter.NamesRead name := by
    rw [hfields]
    intro name hname
    simp only [List.mem_cons, List.not_mem_nil, or_false] at hname
    rcases hname with rfl | rfl <;> exact Filter.namesRead_text _
  obtain ⟨q, documents, -, hq, -, -, hrendered⟩ := select_grouped ht hcount hread hc
  exact ⟨t, c, ht, hcount, hread, hc, htext, q, documents, hq, hrendered⟩

/-- The same key is selected and grouped by, and nothing else. -/
def groupedBy (key item : String) : TraitsArgument :=
  .given (.dict [(.text "fields", .list [.text key]), (.text "group", .list [.text item]),
    (.text "order", .list [])])

set_option maxRecDepth 4000 in
/-- A moment is selected as it is and grouped by in milliseconds, and a column that is grouped by
under a cast is selected without it. -/
theorem groupedMoments_selected_bare :
    (persons.select sampleEnvironment none (groupedBy "$created" "$created")).map (·.text) =
        .ok ("SELECT created FROM documents WHERE type = $1 " ++
          "GROUP BY extract(epoch from created)*1000") ∧
      (persons.select sampleEnvironment none (groupedBy "$id" "$id:text")).map (·.text) =
        .ok "SELECT id FROM documents WHERE type = $1 GROUP BY id::text" :=
  ⟨text_of_beq (by decide +kernel), text_of_beq (by decide +kernel)⟩

end Search

end DocumentSql

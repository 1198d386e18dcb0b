/-
When a search looks up its type, and what it misses when it does not.

A search looks up at most one name, and only if its traits ask for the type or an item names a
property without a cast (`lookups_cases`).  Without such an item the schema decides nothing in the
order.  In the groups it decides one cast: that of a property with the name of the operator of
calls, which is taken for a call there.  Groups without this property are the same under every
schema, and groups with it under schemas that give it the same cast (`lookup_spared`).
-/
import DocumentSql.Proofs.Search.Grouping
import DocumentSql.Proofs.Search.TypeList

namespace DocumentSql

namespace Search

/-! ### Items that need a schema -/

/-- The item names a property without a cast. -/
def NamesUncast (item : Value) : Prop :=
  ∃ name k, splitCast (itemHead item) = .ok (name, .null) ∧ FieldKey.parse (.text name) = .ok k ∧
    k.isReserved = false

lemma namesUncast_of_itemNeedsSchema {item : Value} (h : itemNeedsSchema item = .ok true) :
    NamesUncast item := by
  unfold itemNeedsSchema at h
  split at h
  · simp at h
  · next text htext =>
    obtain ⟨⟨name, cast⟩, hsplit, h⟩ := Result.bind_eq_ok_iff.1 h
    dsimp only at h
    split at h
    · simp at h
    · next hcast =>
      obtain ⟨k, hk, h⟩ := Result.bind_eq_ok_iff.1 h
      obtain rfl : cast = .null := by
        cases cast <;> simp_all [Value.isNull]
      have hhead : splitCast (itemHead item) = splitCast (.text text) := by
        rw [splitCast, splitCast, htext]
        rfl
      exact ⟨name, k, hhead.trans hsplit, hk, by simpa using h⟩

lemma exists_of_needsSchema {items : List Value} (h : needsSchema items = .ok true) :
    ∃ item ∈ items, NamesUncast item := by
  induction items with
  | nil => simp [needsSchema] at h
  | cons item items ih =>
    obtain ⟨need, hneed, h⟩ := Result.bind_eq_ok_iff.1 h
    cases need with
    | true => exact ⟨item, by simp, namesUncast_of_itemNeedsSchema hneed⟩
    | false =>
      obtain ⟨item', hmem, hitem'⟩ := ih h
      exact ⟨item', by simp [hmem], hitem'⟩

/-! ### Lookups -/

variable {env : Environment} {s : Search} {lookup : Option TypeLookup} {traits : TraitsArgument}

lemma ofType_eq_lookUp {documentType name : Value}
    (h : TypeNeed.ofType documentType = .lookUp name) :
    documentType.asList = [name] ∧ DocumentType.ofValue? name = none := by
  unfold TypeNeed.ofType at h
  split at h
  · next item hitem =>
    split at h
    · simp at h
    · next hnone =>
      obtain rfl : item = name := by simpa using h
      exact ⟨hitem, hnone⟩
  · simp at h

lemma ofSearch_eq_lookUp {t : Traits} {documentType name : Value}
    (h : TypeNeed.ofSearch t documentType = .ok (.lookUp name)) :
    TypeNeed.ofType documentType = .lookUp name ∧
      (t.typeAwareness = true ∨ ∃ item ∈ t.order ++ t.group, NamesUncast item) := by
  unfold TypeNeed.ofSearch at h
  split at h
  · next haware => exact ⟨Except.ok.inj h, Or.inl haware⟩
  · obtain ⟨need, hneed, h⟩ := Result.bind_eq_ok_iff.1 h
    cases need with
    | true => exact ⟨Except.ok.inj h, Or.inr (exists_of_needsSchema hneed)⟩
    | false =>
      rw [if_neg (by simp)] at h
      split at h <;> simp at h

/-- The value is the name of a type. -/
def IsTypeName (v : Value) : Prop := ∃ text, v.asText? = some text ∧ text ≠ ""

lemma isTypeName_of_typeCondition {e : Entity} {documentType name : Value} {p : Predicate}
    (h : typeCondition e documentType = .ok p) (hlist : documentType.asList = [name])
    (hname : DocumentType.ofValue? name = none) : IsTypeName name := by
  obtain ⟨names, hnames, -⟩ := Result.bind_eq_ok_iff.1 h
  rw [hlist] at hnames
  obtain ⟨n, hn, -⟩ := Result.bind_eq_ok_iff.1 hnames
  unfold typeName at hn
  split at hn
  · simp [DocumentType.ofValue?] at hname
  · split at hn
    · next text htext =>
      refine ⟨text, htext, ?_⟩
      rintro rfl
      simp at hn
    · simp at hn

/-- A search looks up nothing, or one name that it needs. -/
lemma lookups_cases (env : Environment) (s : Search) (lookup : Option TypeLookup)
    (traits : TraitsArgument) :
    s.lookups env lookup traits = [] ∨
    ∃ t p name, traits.resolve env.defaults = .ok t ∧
      typeCondition s.entity s.documentType = .ok p ∧
      TypeNeed.ofSearch t s.documentType = .ok (.lookUp name) ∧
      s.lookups env lookup traits = [name] := by
  unfold lookups
  cases ht : traits.resolve env.defaults with
  | error e => exact Or.inl rfl
  | ok t =>
    cases hp : typeCondition s.entity s.documentType with
    | error e => exact Or.inl rfl
    | ok p =>
      cases hneed : TypeNeed.ofSearch t s.documentType with
      | error e => exact Or.inl (by simp only [bind, Except.bind, hneed])
      | ok need =>
        simp only [bind, Except.bind, hneed]
        cases need with
        | nothing => exact Or.inl rfl
        | known d => exact Or.inl rfl
        | lookUp name =>
          cases lookup with
          | none => exact Or.inl rfl
          | some find => exact Or.inr ⟨t, p, name, rfl, rfl, hneed, rfl⟩

/-- What is found does not depend on more than what is found under the names that are looked up. -/
lemma resolve_congr {need : TypeNeed} {find find' : TypeLookup}
    (h : ∀ name ∈ need.lookups (some find), find name = find' name) :
    need.resolve (some find) = need.resolve (some find') := by
  cases need with
  | nothing => rfl
  | known d => rfl
  | lookUp name =>
    have hname : find name = find' name := h name (by simp [TypeNeed.lookups])
    simp only [TypeNeed.resolve, hname]

lemma resolve_of_lookups_eq_nil {need : TypeNeed} {find : TypeLookup}
    (h : need.lookups (some find) = []) (lookup : Option TypeLookup) :
    need.resolve lookup = need.resolve (some find) := by
  cases need with
  | nothing => rfl
  | known d => rfl
  | lookUp name => simp [TypeNeed.lookups] at h

/-- Searches under two sources of types are equal if the sources are resolved alike. -/
lemma select_congr {lookup lookup' : Option TypeLookup}
    (h : ∀ t p need, traits.resolve env.defaults = .ok t →
      typeCondition s.entity s.documentType = .ok p →
      TypeNeed.ofSearch t s.documentType = .ok need →
      need.resolve lookup = need.resolve lookup') :
    s.select env lookup traits = s.select env lookup' traits := by
  unfold select build
  cases ht : traits.resolve env.defaults with
  | error e => rfl
  | ok t =>
    cases hp : typeCondition s.entity s.documentType with
    | error e => simp only [bind, Except.bind]
    | ok p =>
      cases hneed : TypeNeed.ofSearch t s.documentType with
      | error e => simp only [bind, Except.bind, hneed]
      | ok need =>
        have hresolve := h t p need ht hp hneed
        simp only [bind, Except.bind, hneed, hresolve]

lemma lookups_eq {t : Traits} {p : Predicate} {need : TypeNeed} (lookup : Option TypeLookup)
    (ht : traits.resolve env.defaults = .ok t)
    (hp : typeCondition s.entity s.documentType = .ok p)
    (hneed : TypeNeed.ofSearch t s.documentType = .ok need) :
    s.lookups env lookup traits = need.lookups lookup := by
  simp only [lookups, bind, Except.bind, ht, hp, hneed]

/-- What a search looks up, and that it depends on nothing else of the source of types. -/
structure LooksUpAtMostOnce (env : Environment) (s : Search) (find : TypeLookup)
    (traits : TraitsArgument) : Prop where
  /-- At most one name is looked up. -/
  once : (s.lookups env (some find) traits).length ≤ 1
  /-- It is the only document type, and a name, and the traits ask for the type or an item to
  order or group by names a property without a cast. -/
  needed : ∀ name ∈ s.lookups env (some find) traits,
    ∃ t, traits.resolve env.defaults = .ok t ∧ s.documentType.asList = [name] ∧ IsTypeName name ∧
      (t.typeAwareness = true ∨ ∃ item ∈ t.order ++ t.group, NamesUncast item)
  /-- Another source makes no difference if it finds the same under that name. -/
  decided : ∀ find', (∀ name ∈ s.lookups env (some find) traits, find name = find' name) →
    s.select env (some find) traits = s.select env (some find') traits
  /-- If nothing is looked up, no source at all makes no difference either. -/
  spared : s.lookups env (some find) traits = [] →
    s.select env none traits = s.select env (some find) traits

lemma looksUpAtMostOnce (env : Environment) (s : Search) (find : TypeLookup)
    (traits : TraitsArgument) : s.LooksUpAtMostOnce env find traits where
  once := by
    rcases lookups_cases env s (some find) traits with h | ⟨t, p, name, -, -, -, h⟩ <;> simp [h]
  needed := by
    intro name hname
    rcases lookups_cases env s (some find) traits with h | ⟨t, p, name', ht, hp, hneed, h⟩
    · simp [h] at hname
    · obtain rfl : name = name' := by simpa [h] using hname
      obtain ⟨htype, hwhy⟩ := ofSearch_eq_lookUp hneed
      obtain ⟨hlist, hnone⟩ := ofType_eq_lookUp htype
      exact ⟨t, ht, hlist, isTypeName_of_typeCondition hp hlist hnone, hwhy⟩
  decided := by
    intro find' hfind
    refine select_congr fun t p need ht hp hneed => resolve_congr ?_
    rwa [← lookups_eq (some find) ht hp hneed]
  spared := by
    intro hnil
    refine select_congr fun t p need ht hp hneed => resolve_of_lookups_eq_nil ?_ none
    rwa [← lookups_eq (some find) ht hp hneed]

/-! ### Items under two schemas -/

/-- One of the groups is the property with the name of the operator of calls, without a cast. -/
def GroupsCallName (items : List Value) : Prop :=
  ∃ item ∈ items, groupKey item = .ok (.path [OperatorToken.callName], .null)

/-- The cast that a schema gives the property with the name of the operator of calls. -/
def callNameCast (schema : Value) : CastKind :=
  CastKind.ofDeclared (Schema.declaredType? schema (.path [OperatorToken.callName]))

/-- What two schemas make of the items of a search, to order and to group by. -/
structure SameItems (r : FunctionRegistry) (s : Scope) (schema schema' : Value)
    (order group : List Value) : Prop where
  /-- The orders are the same, or fail with the same error. -/
  orders : orderItems r { s with schema := schema } order =
    orderItems r { s with schema := schema' } order
  /-- So are the groups, unless one of them is the property with the name of the operator of
  calls and has two casts. -/
  groups : (GroupsCallName group → callNameCast schema = callNameCast schema') →
    groupItems { s with schema := schema } group = groupItems { s with schema := schema' } group
  /-- Then they differ. -/
  groups_only : s.IsPlain → ∀ ps, groupItems { s with schema := schema } group = .ok ps →
    groupItems { s with schema := schema' } group = .ok ps → GroupsCallName group →
    callNameCast schema = callNameCast schema'

variable {schema schema' : Value}

lemma sameGroupCasts_of_callNameCast {e : Entity} {items : List Value}
    (h : ∀ item ∈ items, itemNeedsSchema item = .ok false)
    (hcast : GroupsCallName items → callNameCast schema = callNameCast schema') :
    SameGroupCasts e schema schema' items := by
  intro item hitem k hk
  rcases eq_callName_of_groupKey (h item hitem) hk with hreserved | rfl
  · exact ofKey_congr_of_isReserved hreserved e schema schema'
  · exact congrArg Except.ok (hcast ⟨item, hitem, hk⟩)

/-- A lookup that is spared, and one that is made.  Under every two schemas, items that need none
are ordered by in the same way, and grouped by in the same way unless a group is the property with
the name of the operator of calls, with a cast that the schemas do not agree on; then the groups
differ.  A search looks up one name at most, its only document type, and only if the traits ask for
the type or an item names a property without a cast; what it comes to depends on what is found
under that name and on nothing else. -/
theorem lookup_spared (env : Environment) :
    (∀ (scope : Scope) (schema schema' : Value) (order group : List Value),
      needsSchema (order ++ group) = .ok false →
      SameItems env.functions scope schema schema' order group) ∧
    ∀ (s : Search) (find : TypeLookup) (traits : TraitsArgument),
      s.LooksUpAtMostOnce env find traits := by
  refine ⟨fun scope schema schema' order group hneed => ?_, looksUpAtMostOnce env⟩
  have hitems := itemNeedsSchema_of_needsSchema hneed
  have hgroup : ∀ item ∈ group, itemNeedsSchema item = .ok false :=
    fun item hitem => hitems item (by simp [hitem])
  refine ⟨orderItems_congr _ _ _ fun item hitem => hitems item (by simp [hitem]),
    fun hcast => groupItems_congr (sameGroupCasts_of_callNameCast hgroup hcast), ?_⟩
  rintro hplain ps hps hps' ⟨item, hitem, hk⟩
  have hsame := (groupItems_agree hplain hps hps').2 rfl item hitem _ hk
  exact Except.ok.inj hsame

/-- Persons are grouped by number and name, and no schema is looked up or matters for it; one is
looked up for their age, which has no cast. -/
theorem persons_lookup_spared :
    needsSchema [.text "$id", .text "name:text"] = .ok false ∧
      (∀ schema schema' : Value,
        groupItems ⟨.standard, .document, schema, .list []⟩ [.text "$id", .text "name:text"] =
          groupItems ⟨.standard, .document, schema', .list []⟩
            [.text "$id", .text "name:text"]) ∧
      persons.lookups sampleEnvironment (some (.among [personType])) groupedNames = [] ∧
      persons.select sampleEnvironment none groupedNames =
        persons.select sampleEnvironment (some (.among [personType])) groupedNames ∧
      persons.lookups sampleEnvironment (some (.among [personType])) (groupedBy "age" "age") =
        [.text "Person"] := by
  obtain ⟨hitems, hlookups⟩ := lookup_spared sampleEnvironment
  refine ⟨rfl, fun schema schema' => ?_, rfl,
    (hlookups persons (.among [personType]) groupedNames).spared rfl, rfl⟩
  refine (hitems ⟨.standard, .document, .null, .list []⟩ schema schema' []
    [.text "$id", .text "name:text"] rfl).groups ?_
  have hid : groupKey (.text "$id") = .ok (.column "id", .null) := rfl
  have hname : groupKey (.text "name:text") = .ok (.path ["name"], .text "text") := rfl
  rintro ⟨item, hitem, hk⟩
  simp only [List.mem_cons, List.not_mem_nil, or_false] at hitem
  rcases hitem with rfl | rfl
  · simp [hid] at hk
  · simp [hname] at hk

/-- A type that declares a number with the name of the operator of calls. -/
def callNameType : DocumentType :=
  ⟨.text "T", .null,
    .dict [(.text "properties",
      .dict [(.text OperatorToken.callName, .dict [(.text "type", .text "number")])])],
    .dict []⟩

/-- Items that are said to need no schema, with groups that differ under two schemas. -/
theorem callName_groups_differ :
    needsSchema [.text OperatorToken.callName] = .ok false ∧
      (groupItems ⟨.standard, .document, callNameType.toValue, .list []⟩
        [.text OperatorToken.callName]).map (·.map (·.text)) =
          .ok ["(((content -> 'BIND'::text))::text)::numeric"] ∧
      (groupItems ⟨.standard, .document, .null, .list []⟩
        [.text OperatorToken.callName]).map (·.map (·.text)) =
          .ok ["(content ->> 'BIND'::text)"] :=
  ⟨rfl, Result.map_eq_ok_of_beq (by decide +kernel), Result.map_eq_ok_of_beq (by decide +kernel)⟩

end Search

end DocumentSql

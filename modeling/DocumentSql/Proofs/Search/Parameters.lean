/-
The parameters of a search.

A search has fragments of its own: the selected expressions, the equalities of its document
types, the leaves of its filter, the expressions that it groups by and those that it orders by.
The compiled statement holds them in this order, its placeholders are numbered from one without
a gap, and its parameters are those of the fragments, one list behind the other
(`Search.select_count_hold`).
-/
import DocumentSql.Proofs.Filter.Fragments
import DocumentSql.Proofs.Search.Query
import DocumentSql.Proofs.Search.Traits
import DocumentSql.Proofs.Value.Members
import DocumentSql.Search.Basic

namespace DocumentSql

open Sql

/-- The fragments of a search, by the clauses to which they belong. -/
structure SearchFragments where
  /-- The selected expressions; none, if the search counts. -/
  fields : List Predicate
  /-- The equalities of the document types. -/
  discriminator : List Predicate
  /-- The leaves of the filter, from left to right. -/
  filter : List Predicate
  /-- The expressions to group by. -/
  group : List Predicate
  /-- The expressions to order by. -/
  order : List Predicate

namespace SearchFragments

/-- The fragments in the order of the clauses. -/
def all (f : SearchFragments) : List Predicate :=
  f.fields ++ f.discriminator ++ f.filter ++ f.group ++ f.order

/-- The statement holds the fragments, each with the parameters that belong to it. -/
structure HeldBy (f : SearchFragments) (q : CompiledQuery) : Prop where
  /-- The placeholders outside the literals are numbered from one, in order. -/
  numbers : placeholders q.text =
    (List.range q.params.length).map fun i => Nat.toDigits 10 (i + 1)
  /-- The parameters are those of the fragments, in order. -/
  params_eq : q.params = f.fields.flatMap (·.params) ++ f.discriminator.flatMap (·.params) ++
    f.filter.flatMap (·.params) ++ f.group.flatMap (·.params) ++ f.order.flatMap (·.params)
  /-- The text holds the fragments, each whole and in order, and no other placeholders. -/
  spliced : Spliced (f.all.map fun p => shape p.text) (shape q.text)
  /-- Each fragment has a parameter of its own for each of its placeholders. -/
  sound : ∀ p ∈ f.all, p.Sound

end SearchFragments

namespace Search

/-- The equalities of the document types of a search. -/
def typeFragments (e : Entity) (documentType : Value) : Result (List Predicate) := do
  match ← typeNames documentType.asList with
  | [] => .ok []
  | names =>
    match e.discriminator with
    | none => .error (.entityUntyped e.name)
    | some column => nameConditions column names

/-- The leaves of the filter of a search, from left to right. -/
def filterFragments (s : Scope) : Option Filter → Result (List Predicate)
  | none => .ok []
  | some f => f.fragments s

/-- The selected expressions of a search, and those that it orders by. -/
def listedFragments (env : Environment) (s : Scope) (t : Traits) (documents : List Value)
    (group : List Predicate) : Result (List Predicate × List Predicate) :=
  if t.count then .ok ([], [])
  else do
    let groups ← groupedKeys t.group group
    let fields ← fieldItems s groups (selectedKeys t documents)
    let order ← orderItems env.functions s t.order
    .ok (fields.map Prod.fst, order)

/-- The fragments of a search whose traits are in normal form. -/
def fragmentsOf (env : Environment) (s : Search) (lookup : Option TypeLookup) (t : Traits) :
    Result SearchFragments := do
  let discriminator ← typeFragments s.entity s.documentType
  let need ← TypeNeed.ofSearch t s.documentType
  let type ← need.resolve lookup
  let documents ← documentsOf t type
  let scope := s.scope env type documents
  let f ← Filter.parse env.functions t.matching s.filter
  let filter ← filterFragments scope f
  let group ← groupItems scope t.group
  let (fields, order) ← listedFragments env scope t documents group
  .ok ⟨fields, discriminator, filter, group, order⟩

/-- The fragments of a search. -/
def fragments (env : Environment) (s : Search) (lookup : Option TypeLookup)
    (traits : TraitsArgument) : Result SearchFragments := do
  let t ← traits.resolve env.defaults
  s.fragmentsOf env lookup t

/-- What the arguments of a search bring into its statement does not disturb the reading of it:
names are plain identifiers, keys were read from texts, and the literals of raw fragments are
closed. -/
structure Regular (env : Environment) (s : Search) (traits : TraitsArgument) : Prop where
  entity : s.entity.IsPlain
  procedures : env.procedures.IsInert
  filterKeys : s.filter.KeysRead
  traitKeys : ∀ ms, traits.members = .ok ms → ∀ m ∈ ms, m.2.KeysRead
  defaultOrder : env.defaults.order.KeysRead
  rawTexts : ∀ op f, Filter.parse env.functions op s.filter = .ok (some f) →
    ∀ t ∈ f.rawTexts, Closed t.toList

/-! ### Document types -/

lemma forall₂_nameConditions {column : String} {names : List Value} {ps : List Predicate}
    (h : nameConditions column names = .ok ps) :
    List.Forall₂ (fun n p => Predicate.ofText (column ++ " = $") [n] = .ok p) names ps :=
  Result.forall₂_of_each (g := nameConditions column) rfl (fun _ _ => rfl) h

lemma nameConditions_sound {column : String} {names : List Value} {ps : List Predicate}
    (hcolumn : Inert column) (h : nameConditions column names = .ok ps) :
    ∀ p ∈ ps, p.Sound :=
  Result.forall_of_forall₂ (forall₂_nameConditions h) fun _ _ _ hp =>
    Predicate.sound_of_make hp (closed_append hcolumn.closed (by decide))

lemma typeCondition_assembles {e : Entity} {documentType : Value} {p : Predicate}
    (he : e.IsPlain) (h : typeCondition e documentType = .ok p) :
    ∃ ps, typeFragments e documentType = .ok ps ∧ (∀ q ∈ ps, q.Sound) ∧
      p.Sound ∧ p.Assembles ps := by
  obtain ⟨names, hnames, h⟩ := Result.bind_eq_ok_iff.1 h
  rw [typeFragments, hnames]
  cases names with
  | nil =>
    obtain rfl : Predicate.empty = p := Except.ok.inj h
    exact ⟨[], rfl, by simp, Predicate.sound_empty, Predicate.sound_empty.assembles_nil rfl⟩
  | cons n ns =>
    cases hcolumn : e.discriminator with
    | none =>
      rw [hcolumn] at h
      simp at h
    | some column =>
      rw [hcolumn] at h
      obtain ⟨ps, hps, h⟩ := Result.bind_eq_ok_iff.1 h
      have hsound := nameConditions_sound (he.discriminator column hcolumn).inert hps
      obtain ⟨hp, hassembles⟩ := Predicate.join_assembles hsound h
      exact ⟨ps, hps, hsound, hp, hassembles⟩

/-! ### Items -/

lemma castKey_sound {s : Scope} {k : FieldKey} {cast : Value} {p q : Predicate} (hp : p.Sound)
    (h : castKey s k cast p = .ok q) : q.Sound ∧ q.params = p.params := by
  obtain ⟨text, htext, h⟩ := Result.bind_eq_ok_iff.1 h
  exact ⟨Predicate.sound_of_make h (Cast.closed_applyToKey hp.closed htext),
    Predicate.params_of_make h⟩

lemma groupItem_sound {s : Scope} {item : Value} {p : Predicate} (hs : s.IsPlain)
    (h : groupItem s item = .ok p) : p.Sound := by
  obtain ⟨⟨k, cast⟩, hk, h⟩ := Result.bind_eq_ok_iff.1 h
  obtain ⟨⟨name, cast'⟩, -, hk⟩ := Result.bind_eq_ok_iff.1 hk
  obtain ⟨l, hl, hk⟩ := Result.bind_eq_ok_iff.1 hk
  obtain ⟨rfl, rfl⟩ : l = k ∧ cast' = cast := by simpa using hk
  have hread := Filter.namesRead_text name l hl
  dsimp only at h
  split at h
  · simp at h
  · simp at h
  · obtain ⟨q, hq, h⟩ := Result.bind_eq_ok_iff.1 h
    exact (castKey_sound (FieldKey.resolve_sound hs.procedures hs.entity hread hq).1 h).1

lemma forall₂_groupItems {s : Scope} {items : List Value} {ps : List Predicate}
    (h : groupItems s items = .ok ps) :
    List.Forall₂ (fun item p => groupItem s item = .ok p) items ps :=
  Result.forall₂_of_each (g := groupItems s) rfl (fun _ _ => rfl) h

lemma groupItems_sound {s : Scope} {items : List Value} {ps : List Predicate} (hs : s.IsPlain)
    (h : groupItems s items = .ok ps) : ∀ p ∈ ps, p.Sound :=
  Result.forall_of_forall₂ (forall₂_groupItems h) fun _ _ _ hp => groupItem_sound hs hp

lemma ofValue_call (s : String) :
    ∃ t, OperatorToken.ofValue (.text (OperatorToken.callName ++ ":" ++ s)) =
      .ok (some (.call t)) := by
  have hcut : Text.cutAt ':' (OperatorToken.callName ++ ":" ++ s).toList =
      (['B', 'I', 'N', 'D'], some s.toList) := by
    simp [OperatorToken.callName, Text.cutAt]
  refine ⟨OperatorToken.suffix? (some s.toList), ?_⟩
  simp only [OperatorToken.ofValue, Value.asText?, hcut]
  rfl

/-- A call to order by is a call without raw fragments. -/
lemma proper_of_orderCall {r : FunctionRegistry} {s : String} {rest : List Value} {f : Filter}
    (hrest : ∀ v ∈ rest, v.KeysRead)
    (h : Filter.parseItems r .and (.text (OperatorToken.callName ++ ":" ++ s) :: rest) =
      .ok (some f)) : f.Proper := by
  obtain ⟨t, ht⟩ := ofValue_call s
  rw [Filter.parseItems, ht] at h
  dsimp only at h
  split at h
  · simp at h
  · obtain ⟨g, hg, h⟩ := Result.map_eq_ok_iff.1 h
    obtain rfl : g = f := Option.some.inj h
    refine ⟨Filter.keys_of_ofCall hrest hg, ?_⟩
    unfold Filter.ofCall at hg
    split at hg
    · simp at hg
    · obtain ⟨i, -, hg⟩ := Result.bind_eq_ok_iff.1 hg
      obtain ⟨ks, -, hg⟩ := Result.bind_eq_ok_iff.1 hg
      dsimp only at hg
      split at hg
      · simp at hg
      · obtain ⟨c, -, hg⟩ := Result.bind_eq_ok_iff.1 hg
        obtain rfl : Filter.call ks i _ _ = g := Except.ok.inj hg
        simp [Filter.rawTexts]

lemma mem_of_directionOf {words : List Value} {direction : String}
    (h : directionOf words = .ok direction) : direction ∈ directions := by
  unfold directionOf at h
  dsimp only at h
  split at h
  · next hmem =>
    obtain rfl : Text.upper _ = direction := Except.ok.inj h
    simpa using hmem
  · simp at h

lemma inert_of_directionOf {words : List Value} {direction : String}
    (h : directionOf words = .ok direction) : Inert direction := by
  have hall : ∀ d ∈ directions, '\'' ∉ d.toList ∧ '$' ∉ d.toList := by decide
  obtain ⟨hquote, hdollar⟩ := hall direction (mem_of_directionOf h)
  exact ⟨hquote, hdollar⟩

lemma orderKey_sound {s : Scope} {first : Value} {rest : List Value} {p : Predicate}
    (hs : s.IsPlain) (h : orderKey s first rest = .ok p) : p.Sound := by
  obtain ⟨⟨name, cast⟩, -, h⟩ := Result.bind_eq_ok_iff.1 h
  obtain ⟨k, hk, h⟩ := Result.bind_eq_ok_iff.1 h
  have hread := Filter.namesRead_text name k hk
  split at h
  · simp at h
  · simp at h
  · obtain ⟨q, hq, h⟩ := Result.bind_eq_ok_iff.1 h
    obtain ⟨r, hr, h⟩ := Result.bind_eq_ok_iff.1 h
    have hsound := (castKey_sound (FieldKey.resolve_sound hs.procedures hs.entity hread hq).1 hr).1
    split at h
    · obtain rfl : r = p := Except.ok.inj h
      exact hsound
    · obtain ⟨direction, hdirection, h⟩ := Result.bind_eq_ok_iff.1 h
      refine (Predicate.concat_assembles ?_ Predicate.glue_space h).1
      simp [Predicate.Part.IsSound, hsound, (inert_of_directionOf hdirection).closed]

lemma orderItem_sound {r : FunctionRegistry} {s : Scope} {item : Value} {p : Predicate}
    (hs : s.IsPlain) (hitem : item.KeysRead) (h : orderItem r s item = .ok p) : p.Sound := by
  obtain ⟨⟨first, rest⟩, hparts, h⟩ := Result.bind_eq_ok_iff.1 h
  obtain ⟨token, -, h⟩ := Result.bind_eq_ok_iff.1 h
  have hrest : ∀ v ∈ rest, v.KeysRead := by
    intro v hv
    unfold orderParts at hparts
    split at hparts
    · simp at hparts
    · simp at hparts
    · obtain ⟨rfl, rfl⟩ := Prod.mk.inj (Except.ok.inj hparts)
      exact Value.KeysRead.of_mem (fun k hk => hitem k (by simpa [Value.heldKeys] using hk))
        (List.mem_cons_of_mem _ hv)
    · obtain ⟨rfl, rfl⟩ := Prod.mk.inj (Except.ok.inj hparts)
      exact Value.KeysRead.of_mem (fun k hk => hitem k (by simpa [Value.heldKeys] using hk))
        (List.mem_cons_of_mem _ hv)
    · obtain ⟨rfl, rfl⟩ := Prod.mk.inj (Except.ok.inj hparts)
      simp at hv
  cases token with
  | none => exact orderKey_sound hs h
  | some token =>
    cases token with
    | junction op => simp at h
    | call returnType =>
      obtain ⟨f, hf, h⟩ := Result.bind_eq_ok_iff.1 h
      cases f with
      | none =>
        obtain rfl : Predicate.empty = p := Except.ok.inj h
        exact Predicate.sound_empty
      | some f =>
        obtain ⟨parts, -, -, hsound, -⟩ :=
          Filter.compile_assembles hs f p (proper_of_orderCall hrest hf) h
        exact hsound

lemma orderItems_sound {r : FunctionRegistry} {s : Scope} {items : List Value}
    {ps : List Predicate} (hs : s.IsPlain) (hitems : ∀ v ∈ items, v.KeysRead)
    (h : orderItems r s items = .ok ps) : ∀ p ∈ ps, p.Sound :=
  Result.forall_of_forall₂
    (Result.forall₂_of_each (f := orderItem r s) (g := orderItems r s) rfl (fun _ _ => rfl) h)
    fun item hitem _ hp => orderItem_sound hs (hitems item hitem) hp

lemma mem_of_groupedKeys {items : List Value} {ps : List Predicate}
    {groups : List (FieldKey × Predicate)} (h : groupedKeys items ps = .ok groups) :
    ∀ g ∈ groups, g.2 ∈ ps := by
  induction items generalizing ps groups with
  | nil =>
    obtain rfl : [] = groups := Except.ok.inj h
    simp
  | cons item items ih =>
    cases ps with
    | nil =>
      obtain rfl : [] = groups := Except.ok.inj h
      simp
    | cons p ps =>
      obtain ⟨⟨k, cast⟩, -, h⟩ := Result.bind_eq_ok_iff.1 h
      obtain ⟨rest, hrest, h⟩ := Result.bind_eq_ok_iff.1 h
      obtain rfl : (k, p) :: rest = groups := Except.ok.inj h
      intro g hg
      rcases List.mem_cons.1 hg with rfl | hg
      · simp
      · exact List.mem_cons_of_mem p (ih hrest g hg)

lemma groupedAs?_sound {groups : List (FieldKey × Predicate)} {p : Predicate} (k : FieldKey)
    (hgroups : ∀ g ∈ groups, g.2.Sound) (hp : p.Sound) :
    ((groupedAs? groups k).getD p).Sound := by
  cases hg : groupedAs? groups k with
  | none => exact hp
  | some r =>
    obtain ⟨g, hfind, rfl⟩ := Option.map_eq_some_iff.1 hg
    exact hgroups g (List.mem_reverse.1 (List.mem_of_find?_eq_some hfind))

lemma fieldItem_sound {s : Scope} {groups : List (FieldKey × Predicate)} {name : Value}
    {f : Predicate × FieldMap} (hs : s.IsPlain) (hgroups : ∀ g ∈ groups, g.2.Sound)
    (hname : name.KeysRead) (h : fieldItem s groups name = .ok f) : f.1.Sound := by
  obtain ⟨k, hk, h⟩ := Result.bind_eq_ok_iff.1 h
  obtain ⟨p, hp, h⟩ := Result.bind_eq_ok_iff.1 h
  have hread := hname.parse hk
  have hsound := (FieldKey.resolve_sound hs.procedures hs.entity hread hp).1
  cases k with
  | path path =>
    obtain ⟨q, hq, h⟩ := Result.bind_eq_ok_iff.1 h
    obtain rfl : (q, outputs s.entity (.path path)) = f := Except.ok.inj h
    have hgrouped := groupedAs?_sound (.path path) hgroups hsound
    have halias : Inert (pathAlias s.entity (.path path)) :=
      (hs.entity.container.inert.append (by decide)).append
        (FieldKey.inert_name rfl hread)
    have has : Closed " AS \"".toList := by decide
    have hquote : Closed "\"".toList := by decide
    exact Predicate.sound_of_make hq
      (closed_append (closed_append (closed_append hgrouped.closed has) halias.closed) hquote)
  | relations =>
    obtain ⟨q, hq, h⟩ := Result.bind_eq_ok_iff.1 h
    obtain rfl : (q, outputs s.entity .relations) = f := Except.ok.inj h
    have has : Closed " AS ".toList := by decide
    have hcolumn : Closed FieldKey.relationsColumn.toList := by decide
    exact Predicate.sound_of_make hq (closed_append (closed_append hsound.closed has) hcolumn)
  | column c =>
    obtain rfl : (p, outputs s.entity (.column c)) = f := Except.ok.inj h
    exact hsound
  | timestamp c =>
    obtain rfl : (p, outputs s.entity (.timestamp c)) = f := Except.ok.inj h
    exact hsound
  | all =>
    obtain rfl : (p, outputs s.entity .all) = f := Except.ok.inj h
    exact hsound

lemma forall₂_fieldItems {s : Scope} {groups : List (FieldKey × Predicate)} {names : List Value}
    {fs : List (Predicate × FieldMap)} (h : fieldItems s groups names = .ok fs) :
    List.Forall₂ (fun name f => fieldItem s groups name = .ok f) names fs :=
  Result.forall₂_of_each (g := fieldItems s groups) rfl (fun _ _ => rfl) h

lemma fieldItems_sound {s : Scope} {groups : List (FieldKey × Predicate)} {names : List Value}
    {fs : List (Predicate × FieldMap)} (hs : s.IsPlain) (hgroups : ∀ g ∈ groups, g.2.Sound)
    (hnames : ∀ v ∈ names, v.KeysRead) (h : fieldItems s groups names = .ok fs) :
    ∀ p ∈ fs.map Prod.fst, p.Sound := by
  rw [List.forall_mem_map]
  exact Result.forall_of_forall₂ (forall₂_fieldItems h) fun name hname _ hf =>
    fieldItem_sound hs hgroups (hnames name hname) hf

/-! ### Traits -/

lemma keysRead_text (s : String) : (Value.text s).KeysRead := by
  simp [Value.KeysRead, Value.heldKeys]

lemma keysRead_of_mem_asList {v : Value} (hv : v.KeysRead) : ∀ w ∈ v.asList, w.KeysRead := by
  intro w hw
  unfold Value.asList at hw
  split at hw
  · simp at hw
  · exact Value.KeysRead.of_mem (fun k hk => hv k (by simpa [Value.heldKeys] using hk)) hw
  · exact Value.KeysRead.of_mem (fun k hk => hv k (by simpa [Value.heldKeys] using hk)) hw
  · obtain rfl : w = v := by simpa using hw
    exact hv

lemma keysRead_getD {ms : Members} (hms : ∀ m ∈ ms, m.2.KeysRead) (s : String) :
    (Members.getD ms s).KeysRead := by
  unfold Members.getD
  cases h : Members.getText? ms s with
  | none => simp [Value.KeysRead, Value.heldKeys]
  | some v =>
    obtain ⟨m, hm, rfl⟩ := Members.mem_of_getText? h
    exact hms m hm

lemma keysRead_canonicalMembers {ms : Members} (hms : ∀ m ∈ ms, m.2.KeysRead) :
    ∀ m ∈ Traits.canonicalMembers ms, m.2.KeysRead := by
  intro m hm
  rcases Members.mem_merge hm with hm | ⟨n, hn, heq⟩
  · simp at hm
  · obtain ⟨o, ho, rfl⟩ := List.mem_map.1 hn
    rw [← heq]
    exact hms o ho

end Search

namespace Traits

lemma membersOf_counting (ms : Members) :
    membersOf (.dict (Members.insert (.text "count") (.bool true) ms)) =
      .ok (Members.insert (.text "count") (.bool true) ms) := by
  have hne : Members.insert (.text "count") (.bool true) ms ≠ [] := by
    cases ms with
    | nil => simp [Members.insert]
    | cons m ms =>
      rw [Members.insert]
      split <;> simp
  simp [membersOf, Value.truth, Value.toMapping, hne]

/-- The traits that members give, as far as they decide which rows are found and in which
order. -/
lemma ofCanonical_eq_ok {defaults : SearchDefaults} {ms : Members} {t : Traits}
    (h : ofCanonical defaults ms = .ok t) :
    Filter.matchOperator ((Members.getText? ms "match").getD (.text "all")) = .ok t.matching ∧
      t.fields = (if isTrue (Members.getD ms "count") then [.text "count"]
        else fieldsOf (Members.getD ms "fields")) ∧
      t.group = (Members.getD ms "group").asList ∧
      t.documents = (Members.getD ms "documents").asList ∧
      t.typeAwareness = (match Members.getText? ms "type_awareness" with
        | some v => isTrue v
        | none => defaults.typeAwareness) ∧
      t.order = if isTrue (Members.getD ms "count") then []
        else orderOf defaults (Members.getD ms "order") := by
  obtain ⟨-, matching, limit, offset, hmatching, -, -, rfl⟩ := ofCanonical_eq_ok_iff.1 h
  exact ⟨hmatching, rfl, rfl, rfl, rfl, rfl⟩

end Traits

namespace Search

lemma keysRead_of_ofCanonical {defaults : SearchDefaults} {ms : Members} {t : Traits}
    (hdefault : defaults.order.KeysRead) (hms : ∀ m ∈ ms, m.2.KeysRead)
    (h : Traits.ofCanonical defaults ms = .ok t) :
    (∀ v ∈ t.fields, v.KeysRead) ∧ ∀ v ∈ t.order, v.KeysRead := by
  obtain ⟨-, hfields, -, -, -, horder⟩ := Traits.ofCanonical_eq_ok h
  rw [hfields, horder]
  constructor
  · intro v hv
    split at hv
    · obtain rfl : v = .text "count" := by simpa using hv
      exact keysRead_text "count"
    · unfold Traits.fieldsOf at hv
      split at hv
      · obtain rfl : v = .text "$*" := by simpa using hv
        exact keysRead_text "$*"
      · exact keysRead_of_mem_asList (keysRead_getD hms "fields") v hv
  · intro v hv
    split at hv
    · simp at hv
    · unfold Traits.orderOf at hv
      split at hv
      · obtain rfl : v = defaults.order := by simpa using hv
        exact hdefault
      · exact keysRead_of_mem_asList (keysRead_getD hms "order") v hv

/-- The keys of resolved traits were read from texts, if those in the given ones were. -/
lemma keysRead_of_resolve {defaults : SearchDefaults} {a : TraitsArgument} {t : Traits}
    (hdefault : defaults.order.KeysRead)
    (ha : ∀ ms, a.members = .ok ms → ∀ m ∈ ms, m.2.KeysRead)
    (h : a.resolve defaults = .ok t) :
    (∀ v ∈ t.fields, v.KeysRead) ∧ ∀ v ∈ t.order, v.KeysRead := by
  cases a with
  | given v =>
    obtain ⟨ms, hms, h⟩ := Result.bind_eq_ok_iff.1 h
    exact keysRead_of_ofCanonical hdefault (keysRead_canonicalMembers (ha ms hms)) h
  | prepared u =>
    obtain rfl : u = t := Except.ok.inj h
    have hmembers := ha u.toMembers rfl
    have hfields := hmembers (.text "fields", .list u.fields) (by simp [Traits.toMembers])
    have horder := hmembers (.text "order", .list u.order) (by simp [Traits.toMembers])
    exact ⟨keysRead_of_mem_asList hfields, keysRead_of_mem_asList horder⟩

lemma Regular.counting {env : Environment} {s : Search} {a b : TraitsArgument}
    (h : s.Regular env a) (hb : a.counting = .ok b) : s.Regular env b := by
  refine { h with traitKeys := fun ns hns => ?_ }
  obtain ⟨ms, hms, hb⟩ := Result.bind_eq_ok_iff.1 hb
  obtain rfl := Except.ok.inj hb
  obtain rfl := Except.ok.inj ((Traits.membersOf_counting ms).symm.trans hns)
  intro m hm
  rcases Members.mem_insert hm with hm | heq
  · exact h.traitKeys ms hms m hm
  · rw [heq]
    simp [Value.KeysRead, Value.heldKeys]

/-! ### Statements of searches -/

lemma inert_natText (n : ℕ) : Inert (Value.int n).plainText := by
  have htext : (Value.int n).plainText = String.ofList (Nat.toDigits 10 n) := rfl
  rw [htext]
  constructor <;> rw [String.toList_ofList] <;> intro hmem
  · exact absurd (Nat.isDigit_of_mem_toDigits (by decide) (by decide) hmem) (by decide)
  · exact absurd (Nat.isDigit_of_mem_toDigits (by decide) (by decide) hmem) (by decide)

lemma inert_null : Inert Value.null.plainText := by
  have htext : Value.null.plainText = "None" := rfl
  rw [htext]
  decide

lemma inert_limit (l : Option Limit) :
    Inert ((l.map Limit.toValue).getD .null).plainText := by
  match l with
  | none => exact inert_null
  | some .all =>
    rw [show ((some Limit.all).map Limit.toValue).getD .null = .text "ALL" from rfl,
      Value.plainText_text]
    decide
  | some (.rows n) => exact inert_natText n

lemma inert_offset (n : Option ℕ) :
    Inert ((n.map fun n => Value.int n).getD .null).plainText := by
  cases n with
  | none => exact inert_null
  | some n => exact inert_natText n

lemma forall₂_refl_assembles (ps : List Predicate) :
    List.Forall₂ Predicate.Assembles ps (ps.map ([·])) := by
  rw [List.forall₂_map_right_iff]
  exact List.forall₂_same.2 fun p _ => Predicate.Assembles.refl p

lemma condition_assembles {env : Environment} {s : Search} {t : Traits} {scope : Scope}
    {discriminator p : Predicate} {ds : List Predicate} (hs : scope.IsPlain)
    (hkeys : s.filter.KeysRead)
    (hraws : ∀ op f, Filter.parse env.functions op s.filter = .ok (some f) →
      ∀ t ∈ f.rawTexts, Closed t.toList)
    (hsound : discriminator.Sound) (hds : discriminator.Assembles ds)
    (h : s.condition env t scope discriminator = .ok p) :
    ∃ f fs, Filter.parse env.functions t.matching s.filter = .ok f ∧
      filterFragments scope f = .ok fs ∧ (∀ r ∈ fs, r.Sound) ∧
      p.Sound ∧ p.Assembles (ds ++ fs) := by
  obtain ⟨f, hf, h⟩ := Result.bind_eq_ok_iff.1 h
  obtain ⟨q, hq, h⟩ := Result.bind_eq_ok_iff.1 h
  obtain ⟨fs, hfs, hown, hqSound, hqAll⟩ : ∃ fs, filterFragments scope f = .ok fs ∧
      (∀ r ∈ fs, r.Sound) ∧ q.Sound ∧ q.Assembles fs := by
    cases f with
    | none =>
      obtain rfl : Predicate.empty = q := Except.ok.inj hq
      exact ⟨[], rfl, by simp, Predicate.sound_empty, Predicate.sound_empty.assembles_nil rfl⟩
    | some f =>
      have hproper : f.Proper :=
        ⟨Filter.isRead_of_parse env.functions t.matching s.filter f hkeys hf,
          hraws t.matching f hf⟩
      exact Filter.compile_assembles hs f q hproper hq
  have hboth : ∀ r ∈ [discriminator, q], r.Sound := by simp [hsound, hqSound]
  obtain ⟨hp, hall⟩ := Predicate.join_assembles hboth h
  refine ⟨f, fs, hf, hfs, hown, hp, ?_⟩
  simpa using hall.trans (List.Forall₂.cons hds (List.Forall₂.cons hqAll List.Forall₂.nil))

lemma keysRead_selectedKeys {t : Traits} (documents : List Value)
    (h : ∀ v ∈ t.fields, v.KeysRead) : ∀ v ∈ selectedKeys t documents, v.KeysRead := by
  intro v hv
  unfold selectedKeys at hv
  split at hv
  · rcases List.mem_append.1 hv with hv | hv
    · exact h v hv
    · obtain rfl : v = .text "$documents" := by simpa using hv
      exact keysRead_text "$documents"
  · exact h v hv

/-- What the query of a search is put together from, but for the items that it selects and orders
by: its discriminator, type, relation expressions, condition and groups. -/
structure Frame (env : Environment) (s : Search) (lookup : Option TypeLookup) (t : Traits)
    (discriminator : Predicate) (type : Option DocumentType) (documents : List Value)
    (condition : Predicate) (group : List Predicate) : Prop where
  discriminator_eq : typeCondition s.entity s.documentType = .ok discriminator
  type_eq : ∃ need, TypeNeed.ofSearch t s.documentType = .ok need ∧ need.resolve lookup = .ok type
  documents_eq : documentsOf t type = .ok documents
  condition_eq : s.condition env t (s.scope env type documents) discriminator = .ok condition
  group_eq : groupItems (s.scope env type documents) t.group = .ok group

/-- A search with given traits comes to a query: one that counts, or one that selects. -/
inductive Builds (env : Environment) (s : Search) (lookup : Option TypeLookup) (t : Traits) :
    Query → Prop
  | counting {discriminator condition : Predicate} {type : Option DocumentType}
    {documents : List Value} {group : List Predicate}
    (hframe : Frame env s lookup t discriminator type documents condition group)
    (hcount : t.count = true) :
    Builds env s lookup t
      ⟨.count, s.entity.table, condition, [], [], group, .null, .null, [("count", "count")]⟩
  | selecting {discriminator condition : Predicate} {type : Option DocumentType}
    {documents : List Value} {group order : List Predicate} {groups : List (FieldKey × Predicate)}
    {fields : List (Predicate × FieldMap)}
    (hframe : Frame env s lookup t discriminator type documents condition group)
    (hcount : t.count = false) (hgroups : groupedKeys t.group group = .ok groups)
    (hfields : fieldItems (s.scope env type documents) groups (selectedKeys t documents) =
      .ok fields)
    (horder : orderItems env.functions (s.scope env type documents) t.order = .ok order) :
    Builds env s lookup t
      ⟨.select, s.entity.table, condition, fields.map Prod.fst, order, group,
        (t.limit.map Limit.toValue).getD .null, (t.offset.map fun n => Value.int n).getD .null,
        FieldMap.putAll (fields.flatMap Prod.snd) []⟩

section Build

variable {env : Environment} {s : Search} {lookup : Option TypeLookup} {t : Traits} {q : Query}

lemma builds_of_build (h : s.build env lookup t = .ok q) : Builds env s lookup t q := by
  obtain ⟨discriminator, hdiscriminator, h⟩ := Result.bind_eq_ok_iff.1 h
  obtain ⟨need, hneed, h⟩ := Result.bind_eq_ok_iff.1 h
  obtain ⟨type, htype, h⟩ := Result.bind_eq_ok_iff.1 h
  obtain ⟨documents, hdocuments, h⟩ := Result.bind_eq_ok_iff.1 h
  obtain ⟨condition, hcondition, h⟩ := Result.bind_eq_ok_iff.1 h
  obtain ⟨group, hgroup, h⟩ := Result.bind_eq_ok_iff.1 h
  have hframe : Frame env s lookup t discriminator type documents condition group :=
    ⟨hdiscriminator, ⟨need, hneed, htype⟩, hdocuments, hcondition, hgroup⟩
  split at h
  · next hcount =>
    obtain rfl := Except.ok.inj h
    exact .counting hframe hcount
  · next hcount =>
    obtain ⟨groups, hgroups, h⟩ := Result.bind_eq_ok_iff.1 h
    obtain ⟨fields, hfields, h⟩ := Result.bind_eq_ok_iff.1 h
    obtain ⟨order, horder, h⟩ := Result.bind_eq_ok_iff.1 h
    obtain rfl := Except.ok.inj h
    exact .selecting hframe (by simpa using hcount) hgroups hfields horder

lemma Builds.build_eq (h : Builds env s lookup t q) : s.build env lookup t = .ok q := by
  cases h with
  | counting hframe hcount =>
    obtain ⟨hdiscriminator, ⟨need, hneed, htype⟩, hdocuments, hcondition, hgroup⟩ := hframe
    simp [build, assemble, hdiscriminator, hneed, htype, hdocuments, hcondition, hgroup, hcount,
      bind, Except.bind]
  | selecting hframe hcount hgroups hfields horder =>
    obtain ⟨hdiscriminator, ⟨need, hneed, htype⟩, hdocuments, hcondition, hgroup⟩ := hframe
    simp [build, assemble, hdiscriminator, hneed, htype, hdocuments, hcondition, hgroup, hcount,
      hgroups, hfields, horder, bind, Except.bind]

/-- The condition of a search consists of the fragments of its types and its filter. -/
lemma Frame.assembles {discriminator condition : Predicate} {type : Option DocumentType}
    {documents : List Value} {group : List Predicate} {traits : TraitsArgument}
    (hs : s.Regular env traits)
    (h : Frame env s lookup t discriminator type documents condition group) :
    ∃ ds fs, condition.Sound ∧ condition.Assembles (ds ++ fs) ∧ (∀ p ∈ ds ++ fs, p.Sound) ∧
      (∀ p ∈ group, p.Sound) ∧ ∀ fields order,
        listedFragments env (s.scope env type documents) t documents group = .ok (fields, order) →
        s.fragmentsOf env lookup t = .ok ⟨fields, ds, fs, group, order⟩ := by
  obtain ⟨hdiscriminator, ⟨need, hneed, htype⟩, hdocuments, hcondition, hgroup⟩ := h
  have hscope : (s.scope env type documents).IsPlain := ⟨hs.entity, hs.procedures⟩
  obtain ⟨ds, hds, hdsOwn, hdsSound, hdsAll⟩ := typeCondition_assembles hs.entity hdiscriminator
  obtain ⟨f, fs, hf, hfs, hfsOwn, hsound, hall⟩ :=
    condition_assembles hscope hs.filterKeys hs.rawTexts hdsSound hdsAll hcondition
  refine ⟨ds, fs, hsound, hall, List.forall_mem_append.2 ⟨hdsOwn, hfsOwn⟩,
    groupItems_sound hscope hgroup, fun fields order hlisted => ?_⟩
  simp [fragmentsOf, hds, hneed, htype, hdocuments, hf, hfs, hgroup, hlisted, bind, Except.bind]

/-- An assembled search consists of its fragments. -/
lemma build_fragments {traits : TraitsArgument} (hs : s.Regular env traits)
    (ht : traits.resolve env.defaults = .ok t) (h : s.build env lookup t = .ok q) :
    ∃ f : SearchFragments, s.fragmentsOf env lookup t = .ok f ∧ q.IsSound ∧
      (∀ p ∈ f.discriminator ++ f.filter, p.Sound) ∧
      q.selected = f.fields ∧ q.condition.Assembles (f.discriminator ++ f.filter) ∧
      q.group = f.group ∧ q.order = f.order := by
  cases builds_of_build h with
  | counting hframe hcount =>
    obtain ⟨ds, fs, hsound, hall, hown, hgroup, hfragments⟩ := hframe.assembles hs
    refine ⟨_, hfragments [] [] (by simp [listedFragments, hcount]), ?_, hown, rfl, hall, rfl, rfl⟩
    exact ⟨hs.entity.table.inert, hsound, by simp, by simp, hgroup, inert_limit none,
      inert_offset none⟩
  | @selecting _ _ type documents group order groups fields hframe hcount hgroups hfields horder =>
    obtain ⟨ds, fs, hsound, hall, hown, hgroup, hfragments⟩ := hframe.assembles hs
    have hscope : (s.scope env type documents).IsPlain := ⟨hs.entity, hs.procedures⟩
    obtain ⟨hfieldKeys, horderKeys⟩ := keysRead_of_resolve hs.defaultOrder hs.traitKeys ht
    have hselected := keysRead_selectedKeys documents hfieldKeys
    have hgroupsSound : ∀ g ∈ groups, g.2.Sound := fun g hg =>
      hgroup g.2 (mem_of_groupedKeys hgroups g hg)
    have hlisted : listedFragments env (s.scope env type documents) t documents group =
        .ok (fields.map Prod.fst, order) := by
      simp [listedFragments, hcount, hgroups, hfields, horder, bind, Except.bind]
    refine ⟨_, hfragments _ _ hlisted, ?_, hown, rfl, hall, rfl, rfl⟩
    exact ⟨hs.entity.table.inert, hsound, fieldItems_sound hscope hgroupsSound hselected hfields,
      orderItems_sound hscope horderKeys horder, hgroup, inert_limit t.limit,
      inert_offset t.offset⟩

end Build

/-- The statement of a search holds its fragments. -/
lemma select_heldBy {env : Environment} {s : Search} {lookup : Option TypeLookup}
    {traits : TraitsArgument} {c : CompiledQuery} (hs : s.Regular env traits)
    (h : s.select env lookup traits = .ok c) :
    ∃ f, s.fragments env lookup traits = .ok f ∧ f.HeldBy c := by
  obtain ⟨t, ht, h⟩ := Result.bind_eq_ok_iff.1 h
  obtain ⟨q, hq, h⟩ := Result.bind_eq_ok_iff.1 h
  obtain ⟨f, hf, hsound, hown, hselected, hcondition, hgroup, horder⟩ := build_fragments hs ht hq
  obtain ⟨hnumbers, hall⟩ := Query.compile_assembles hsound h
  have hsingle : ∀ ps : List Predicate, (ps.map ([·])).flatten = ps := fun ps => by
    simp [← List.flatMap_def]
  have hflat : ((q.selected.map ([·])) ++ (f.discriminator ++ f.filter) ::
      (q.group ++ q.order).map ([·])).flatten = f.all := by
    rw [List.flatten_append, List.flatten_cons, hsingle, hsingle, hselected, hgroup, horder]
    simp [SearchFragments.all]
  have hheld : (⟨c.text, c.params, []⟩ : Predicate).Assembles f.all :=
    hflat ▸ hall.trans (List.rel_append (forall₂_refl_assembles q.selected)
      (List.Forall₂.cons hcondition (forall₂_refl_assembles (q.group ++ q.order))))
  refine ⟨f, ?_, hnumbers, ?_, hheld.spliced, ?_⟩
  · simp [fragments, ht, hf, bind, Except.bind]
  · rw [show c.params = Predicate.allParams f.all from hheld.params_eq]
    simp [Predicate.allParams, SearchFragments.all]
  · have hselectedSound : ∀ p ∈ q.selected, p.Sound := by
      unfold Query.selected
      split
      · exact hsound.fields
      · simp
    intro p hp
    simp only [SearchFragments.all, ← hselected, ← hgroup, ← horder, List.append_assoc,
      List.mem_append] at hp
    rcases hp with hp | hp | hp | hp | hp
    · exact hselectedSound p hp
    · exact hown p (List.mem_append_left _ hp)
    · exact hown p (List.mem_append_right _ hp)
    · exact hsound.group p hp
    · exact hsound.order p hp

/-- Whatever a search or a count is compiled to, its placeholders are numbered from one without a
gap, its parameters are those of the select list, the document types, the leaves of the filter,
the groups and the orders, one list behind the other, and its text holds the fragments of all
these in this order. So each fragment is bound to its own parameters. -/
theorem select_count_hold (env : Environment) (s : Search) (lookup : Option TypeLookup)
    (traits : TraitsArgument) (hs : s.Regular env traits) :
    (∀ q, s.select env lookup traits = .ok q →
      ∃ f, s.fragments env lookup traits = .ok f ∧ f.HeldBy q) ∧
    ∀ q, s.count env lookup traits = .ok q →
      ∃ counting f, traits.counting = .ok counting ∧
        s.fragments env lookup counting = .ok f ∧ f.HeldBy q := by
  constructor
  · intro q hq
    exact select_heldBy hs hq
  · intro q hq
    obtain ⟨counting, hcounting, hq⟩ := Result.bind_eq_ok_iff.1 hq
    obtain ⟨f, hf, hheld⟩ := select_heldBy (hs.counting hcounting) hq
    exact ⟨counting, f, hcounting, hf, hheld⟩

/-- Documents of a type that have a member, or meet a raw condition with a dollar sign in a
literal. -/
def sampleSearch : Search :=
  ⟨.document, .text "Person",
    .list [.text "OR", .dict [(.text "a", .text "x")], .text "b = '$1'"]⟩

/-- The usual procedures and no registered functions. -/
def sampleEnvironment : Environment := ⟨.standard, ⟨.text "$id", false⟩, []⟩

lemma regular_sampleSearch : sampleSearch.Regular sampleEnvironment (.given .null) where
  entity := Entity.isPlain_of_mem_builtIn _ (by simp [sampleSearch, Entity.builtIn])
  procedures := Procedures.isInert_standard
  filterKeys := by
    simp [Value.KeysRead, sampleSearch, Value.heldKeys, Value.heldKeysAll, Value.key?]
  traitKeys := by
    intro ms hms
    obtain rfl : [] = ms := Except.ok.inj hms
    simp
  defaultOrder := keysRead_text "$id"
  rawTexts := by
    intro op f hf
    have hparse : Filter.parse [] op sampleSearch.filter = .ok (some (.any
        [Filter.joined op [.property (.path ["a"]) (.text "x")], .raw "b = '$1'"])) := by
      cases op <;> rfl
    obtain rfl := Option.some.inj (Except.ok.inj (hparse.symm.trans hf))
    cases op <;>
      simp [Filter.rawTexts, Filter.rawTextsAll, Filter.joined, Closed]

set_option maxRecDepth 4000 in
lemma select_sampleSearch :
    (match sampleSearch.select sampleEnvironment none (.given .null) with
      | .ok q => q.params.length == 2
      | .error _ => false) = true := by
  decide +kernel

/-- The placeholders of the sample are bound, and the dollar sign in its literal is none. -/
theorem sampleSearch_holds :
    ∃ q f, sampleSearch.select sampleEnvironment none (.given .null) = .ok q ∧
      sampleSearch.fragments sampleEnvironment none (.given .null) = .ok f ∧ f.HeldBy q ∧
      q.params.length = 2 := by
  have hcount := select_sampleSearch
  cases hq : sampleSearch.select sampleEnvironment none (.given .null) with
  | error e => simp [hq] at hcount
  | ok q =>
    obtain ⟨f, hf, hheld⟩ := (select_count_hold sampleEnvironment sampleSearch none (.given .null)
      regular_sampleSearch).1 q hq
    exact ⟨q, f, rfl, hf, hheld, by simpa [hq] using hcount⟩

end Search

end DocumentSql

/-
A document type alone and in a list.

A list of one document type tells documents apart as the type alone does, and a type that is
looked up is looked up for both.  The difference is in a declared type that is handed over: alone
it is there without being asked for, and in a list it is not (`withheldType?`).  Its schema then
decides the casts of one search and not of the other.  The statements are the same if it gives the
properties that are compared or grouped by the casts that they have without it, and only then
(`select_listed`).
-/
import DocumentSql.Proofs.Search.Agreement
import DocumentSql.Proofs.Search.Count

namespace DocumentSql

open Sql

lemma Traits.CountOf.refl (t : Traits) : t.CountOf t := ⟨rfl, rfl, rfl, rfl, Or.inr rfl⟩

namespace Search

/-! ### Lists of one type -/

/-- The same search, its document type in a list. -/
def listed (s : Search) : Search := { s with documentType := .list [s.documentType] }

/-- The declared type that a search has and its list has not: the one that is handed over, when
nothing asks for the schema. -/
def withheldType? (s : Search) (t : Traits) : Option DocumentType :=
  if t.typeAwareness then none
  else match needsSchema (t.order ++ t.group) with
    | .ok false => DocumentType.ofValue? s.documentType
    | _ => none

variable {env : Environment} {s : Search} {lookup : Option TypeLookup} {t : Traits}

lemma withheldType?_eq_some {d : DocumentType} (h : s.withheldType? t = some d) :
    DocumentType.ofValue? s.documentType = some d := by
  unfold withheldType? at h
  split at h
  · simp at h
  · split at h
    · exact h
    · simp at h

lemma typeCondition_listed (h : s.documentType.asList = [s.documentType]) :
    typeCondition s.entity s.listed.documentType = typeCondition s.entity s.documentType := by
  have hlist : s.listed.documentType.asList = s.documentType.asList := h.symm
  rw [typeCondition, typeCondition, hlist]

lemma ofType_listed (h : s.documentType.asList = [s.documentType]) :
    TypeNeed.ofType s.listed.documentType = TypeNeed.ofType s.documentType := by
  have hlist : s.listed.documentType.asList = s.documentType.asList := h.symm
  rw [TypeNeed.ofType, TypeNeed.ofType, hlist]

lemma ofSearch_listed (h : s.documentType.asList = [s.documentType]) :
    (s.withheldType? t = none ∧
      TypeNeed.ofSearch t s.listed.documentType = TypeNeed.ofSearch t s.documentType) ∨
    ∃ d, s.withheldType? t = some d ∧ t.typeAwareness = false ∧
      needsSchema (t.order ++ t.group) = .ok false ∧
      TypeNeed.ofSearch t s.documentType = .ok (.known d) ∧
      TypeNeed.ofSearch t s.listed.documentType = .ok .nothing := by
  have hlist : DocumentType.ofValue? s.listed.documentType = none := rfl
  unfold withheldType? TypeNeed.ofSearch
  rw [ofType_listed h, hlist]
  by_cases haware : t.typeAwareness = true
  · simp [haware]
  · cases hneed : needsSchema (t.order ++ t.group) with
    | error e => simp [haware, bind, Except.bind]
    | ok need =>
      cases need with
      | true => simp [haware, bind, Except.bind]
      | false =>
        cases htype : DocumentType.ofValue? s.documentType with
        | none => simp [haware, bind, Except.bind]
        | some d => simp [haware, bind, Except.bind]

/-! ### Searches under two schemas -/

/-- The schema of a type. -/
def schemaOf (type : Option DocumentType) : Value := (type.map DocumentType.toValue).getD .null

/-- Two schemas give the properties that a search compares or groups by the same casts. -/
def CastsAlike (env : Environment) (s : Search) (t : Traits) (schema schema' : Value) : Prop :=
  Filter.SameCasts (s.scope env none []) schema schema' (s.compared env t) ∧
    SameGroupCasts s.entity schema schema' t.group

lemma fieldItems_congr {s : Scope} (schema schema' : Value)
    (groups : List (FieldKey × Predicate)) (names : List Value) :
    fieldItems { s with schema := schema } groups names =
      fieldItems { s with schema := schema' } groups names := by
  induction names with
  | nil => rfl
  | cons name names ih =>
    have hitem : fieldItem { s with schema := schema } groups name =
        fieldItem { s with schema := schema' } groups name := rfl
    rw [fieldItems, fieldItems, hitem, ih]

lemma documentsOf_of_not_aware (type type' : Option DocumentType)
    (haware : t.typeAwareness = false) : documentsOf t type = documentsOf t type' := by
  simp [documentsOf, haware]

variable {type type' : Option DocumentType} {discriminator : Predicate}

/-- A search whose order needs no schema is assembled to the same query under types whose schemas
give the same casts. -/
lemma assemble_congr (haware : t.typeAwareness = false)
    (horder : ∀ item ∈ t.order, itemNeedsSchema item = .ok false)
    (h : s.CastsAlike env t (schemaOf type) (schemaOf type')) :
    s.assemble env t type discriminator = s.assemble env t type' discriminator := by
  unfold assemble
  rw [documentsOf_of_not_aware type type' haware]
  cases documentsOf t type' with
  | error e => simp only [bind, Except.bind]
  | ok documents =>
    have hcasts : Filter.SameCasts (s.scope env none documents) (schemaOf type) (schemaOf type')
        (s.compared env t) := h.1
    have hcondition : s.condition env t (s.scope env type' documents) discriminator =
        s.condition env t (s.scope env type documents) discriminator :=
      condition_congr (Traits.CountOf.refl t) hcasts
    have hgroup : groupItems (s.scope env type documents) t.group =
        groupItems (s.scope env type' documents) t.group :=
      groupItems_congr (s := s.scope env none documents) h.2
    have horders : orderItems env.functions (s.scope env type documents) t.order =
        orderItems env.functions (s.scope env type' documents) t.order :=
      orderItems_congr (s := s.scope env none documents) _ _ _ horder
    have hfields : fieldItems (s.scope env type documents) =
        fieldItems (s.scope env type' documents) := by
      funext groups names
      exact fieldItems_congr (s := s.scope env none documents) _ _ groups names
    simp only [bind, Except.bind]
    rw [hcondition, hgroup, horders, hfields]

/-- Under two types a search without type awareness is assembled to queries that agree, and they
have the same condition and groups only if the schemas give the same casts. -/
lemma assemble_agrees {traits : TraitsArgument} {q q' : Query} (hs : s.Regular env traits)
    (ht : traits.resolve env.defaults = .ok t) (hsound : discriminator.Sound)
    (haware : t.typeAwareness = false) (horder : ∀ item ∈ t.order, itemNeedsSchema item = .ok false)
    (hq : s.assemble env t type discriminator = .ok q)
    (hq' : s.assemble env t type' discriminator = .ok q') :
    q.Agrees q' ∧ (q.condition = q'.condition → q.group = q'.group →
      s.CastsAlike env t (schemaOf type) (schemaOf type')) := by
  unfold assemble at hq hq'
  rw [documentsOf_of_not_aware type' type haware] at hq'
  obtain ⟨documents, hdocuments, hq⟩ := Result.bind_eq_ok_iff.1 hq
  obtain ⟨documents', hdocuments', hq'⟩ := Result.bind_eq_ok_iff.1 hq'
  obtain rfl := Except.ok.inj (hdocuments.symm.trans hdocuments')
  obtain ⟨condition, hcondition, hq⟩ := Result.bind_eq_ok_iff.1 hq
  obtain ⟨group, hgroup, hq⟩ := Result.bind_eq_ok_iff.1 hq
  obtain ⟨condition', hcondition', hq'⟩ := Result.bind_eq_ok_iff.1 hq'
  obtain ⟨group', hgroup', hq'⟩ := Result.bind_eq_ok_iff.1 hq'
  -- the scopes of both differ in the schema only, as no type is asked for related documents
  have hscope : (s.scope env none documents).IsPlain := ⟨hs.entity, hs.procedures⟩
  obtain ⟨hconditions, hcasts⟩ :=
    condition_agrees hs hscope hsound (Traits.CountOf.refl t) hcondition hcondition'
  obtain ⟨hgroups, hgroupCasts⟩ := groupItems_agree hscope hgroup hgroup'
  by_cases hcount : t.count = true
  · rw [if_pos hcount] at hq hq'
    obtain rfl := Except.ok.inj hq
    obtain rfl := Except.ok.inj hq'
    exact ⟨⟨rfl, rfl, hconditions, .nil, .nil, hgroups, rfl, rfl⟩,
      fun hc hg => ⟨hcasts hc, hgroupCasts hg⟩⟩
  · rw [if_neg hcount] at hq hq'
    obtain ⟨groups, hkeys, hq⟩ := Result.bind_eq_ok_iff.1 hq
    obtain ⟨fields, hfields, hq⟩ := Result.bind_eq_ok_iff.1 hq
    obtain ⟨order, horderItems, hq⟩ := Result.bind_eq_ok_iff.1 hq
    obtain ⟨groups', hkeys', hq'⟩ := Result.bind_eq_ok_iff.1 hq'
    obtain ⟨fields', hfields', hq'⟩ := Result.bind_eq_ok_iff.1 hq'
    obtain ⟨order', horderItems', hq'⟩ := Result.bind_eq_ok_iff.1 hq'
    obtain rfl := Except.ok.inj hq
    obtain rfl := Except.ok.inj hq'
    have hgroupKeys := groupedKeys_agree hgroups hkeys hkeys'
    have hfieldsAgree := fieldItems_agree hscope
      (keysRead_selectedKeys documents (keysRead_of_resolve hs.defaultOrder hs.traitKeys ht).1)
      (fun g hg => groupItems_sound (s := s.scope env type documents) ⟨hs.entity, hs.procedures⟩
        hgroup g.2 (mem_of_groupedKeys hkeys g hg))
      (fun g hg => groupItems_sound (s := s.scope env type' documents) ⟨hs.entity, hs.procedures⟩
        hgroup' g.2 (mem_of_groupedKeys hkeys' g hg))
      hgroupKeys hfields hfields'
    -- the order does not depend on the schema
    have horders := orderItems_congr (s := s.scope env none documents) env.functions
      (schemaOf type) (schemaOf type') horder
    obtain rfl := Except.ok.inj (horderItems.symm.trans (horders.trans horderItems'))
    exact ⟨⟨rfl, rfl, hconditions, hfieldsAgree, List.forall₂_same.2 fun _ _ => Or.inl rfl,
      hgroups, rfl, rfl⟩, fun hc hg => ⟨hcasts hc, hgroupCasts hg⟩⟩

/-! ### Statements -/

/-- A search and its list are assembled to the same query, or under the type that the list
withholds and under none. -/
lemma build_listed (lookup : Option TypeLookup) (t : Traits)
    (h : s.documentType.asList = [s.documentType]) :
    (s.withheldType? t = none ∧ s.listed.build env lookup t = s.build env lookup t) ∨
    ∃ d, s.withheldType? t = some d ∧ t.typeAwareness = false ∧
      (∀ item ∈ t.order, itemNeedsSchema item = .ok false) ∧
      s.build env lookup t =
        typeCondition s.entity s.documentType >>= s.assemble env t (some d) ∧
      s.listed.build env lookup t =
        typeCondition s.entity s.documentType >>= s.assemble env t none := by
  have hcondition : typeCondition s.listed.entity s.listed.documentType =
      typeCondition s.entity s.documentType := typeCondition_listed h
  have hassemble : s.listed.assemble env t = s.assemble env t := rfl
  unfold build
  rw [hcondition, hassemble]
  rcases ofSearch_listed (t := t) h with ⟨hnone, hneed⟩ | ⟨d, hd, haware, hneeds, hsingle, hlist⟩
  · exact Or.inl ⟨hnone, by rw [hneed]⟩
  · refine Or.inr ⟨d, hd, haware, fun item hitem => ?_, ?_, ?_⟩
    · exact itemNeedsSchema_of_needsSchema hneeds item (by simp [hitem])
    · rw [hsingle]
      rfl
    · rw [hlist]
      rfl

/-- The type that the list of a search withholds, if it withholds one, gives the properties that
the search compares or groups by the casts that they have without it. -/
def ListKeepsCasts (env : Environment) (s : Search) (traits : TraitsArgument) : Prop :=
  ∀ t d, traits.resolve env.defaults = .ok t → s.withheldType? t = some d →
    s.CastsAlike env t d.toValue .null

lemma Regular.listed {traits : TraitsArgument} (h : s.Regular env traits) :
    s.listed.Regular env traits :=
  ⟨h.entity, h.procedures, h.filterKeys, h.traitKeys, h.defaultOrder, h.rawTexts⟩

lemma select_listed_eq {traits : TraitsArgument} (h : s.documentType.asList = [s.documentType])
    (hcasts : s.ListKeepsCasts env traits) :
    s.listed.select env lookup traits = s.select env lookup traits := by
  unfold select
  cases ht : traits.resolve env.defaults with
  | error e => rfl
  | ok t =>
    have hbuild : s.listed.build env lookup t = s.build env lookup t := by
      rcases build_listed lookup t h with ⟨-, hbuild⟩ | ⟨d, hd, haware, horder, hsingle, hlist⟩
      · exact hbuild
      · have hassemble : s.assemble env t none = s.assemble env t (some d) := by
          funext discriminator
          exact (assemble_congr haware horder (hcasts t d ht hd)).symm
        rw [hsingle, hlist, hassemble]
    simp only [bind, Except.bind, hbuild]

lemma listKeepsCasts_of_text {traits : TraitsArgument} {c c' : CompiledQuery}
    (h : s.documentType.asList = [s.documentType]) (hs : s.Regular env traits)
    (hc : s.select env lookup traits = .ok c) (hc' : s.listed.select env lookup traits = .ok c')
    (htext : c.text = c'.text) : s.ListKeepsCasts env traits := by
  intro t d ht hd
  obtain ⟨t', ht', hc⟩ := Result.bind_eq_ok_iff.1 hc
  obtain rfl := Except.ok.inj (ht.symm.trans ht')
  obtain ⟨t', ht', hc'⟩ := Result.bind_eq_ok_iff.1 hc'
  obtain rfl := Except.ok.inj (ht.symm.trans ht')
  obtain ⟨q, hq, hc⟩ := Result.bind_eq_ok_iff.1 hc
  obtain ⟨q', hq', hc'⟩ := Result.bind_eq_ok_iff.1 hc'
  obtain ⟨-, -, hsound, -⟩ := build_fragments hs ht hq
  obtain ⟨-, -, hsound', -⟩ := build_fragments hs.listed ht hq'
  rcases build_listed lookup t h with ⟨hnone, -⟩ | ⟨d', hd', haware, horder, hsingle, hlist⟩
  · simp [hnone] at hd
  · obtain rfl := Option.some.inj (hd.symm.trans hd')
    rw [hsingle] at hq
    rw [hlist] at hq'
    obtain ⟨discriminator, hdiscriminator, hq⟩ := Result.bind_eq_ok_iff.1 hq
    obtain ⟨discriminator', hdiscriminator', hq'⟩ := Result.bind_eq_ok_iff.1 hq'
    obtain rfl := Except.ok.inj (hdiscriminator.symm.trans hdiscriminator')
    -- one query has the schema of the type and the other none
    obtain ⟨-, -, -, hdSound, -⟩ := typeCondition_assembles hs.entity hdiscriminator
    obtain ⟨hagrees, hcasts⟩ := assemble_agrees hs ht hdSound haware horder hq hq'
    obtain ⟨hcondition, hgroup, -⟩ := Query.compile_agrees hsound hsound' hagrees hc hc' htext
    exact hcasts hcondition hgroup

/-- A document type alone and in a list lead to the same statement or the same error if the list
keeps the casts, and to the same statement only then. A list that withholds no type keeps all
casts: one of a type name, one of a type that the traits ask for, and one of a type whose schema
an item needs. -/
theorem select_listed (env : Environment) (s : Search) (lookup : Option TypeLookup)
    (traits : TraitsArgument) (h : s.documentType.asList = [s.documentType]) :
    (s.ListKeepsCasts env traits →
      s.listed.select env lookup traits = s.select env lookup traits) ∧
    ((∀ counting, traits.counting = .ok counting → s.ListKeepsCasts env counting) →
      s.listed.count env lookup traits = s.count env lookup traits) ∧
    (s.Regular env traits →
      (∀ c c', s.select env lookup traits = .ok c → s.listed.select env lookup traits = .ok c' →
        c.text = c'.text → s.ListKeepsCasts env traits) ∧
      ∀ c c' counting, traits.counting = .ok counting → s.count env lookup traits = .ok c →
        s.listed.count env lookup traits = .ok c' → c.text = c'.text →
        s.ListKeepsCasts env counting) := by
  refine ⟨select_listed_eq h, fun hcasts => ?_, fun hs => ⟨fun c c' hc hc' htext => ?_, ?_⟩⟩
  · unfold count
    cases hcounting : traits.counting with
    | error e => rfl
    | ok counting => exact select_listed_eq h (hcasts counting hcounting)
  · exact listKeepsCasts_of_text h hs hc hc' htext
  · intro c c' counting hcounting hc hc' htext
    rw [count, hcounting] at hc hc'
    exact listKeepsCasts_of_text h (hs.counting hcounting) hc hc' htext

/-! ### Samples -/

/-- No order, so that no item needs the schema. -/
def inNoOrder : TraitsArgument := .given (.dict [(.text "order", .list [])])

/-- Persons of some name, by their declared type. -/
def namedPersons : Search := ⟨.document, personType.toValue, .dict [(.text "name", .text "Ann")]⟩

lemma regular_namedPersons : namedPersons.Regular sampleEnvironment inNoOrder where
  entity := Entity.isPlain_of_mem_builtIn _ (by simp [namedPersons, Entity.builtIn])
  procedures := Procedures.isInert_standard
  filterKeys := by
    simp [Value.KeysRead, namedPersons, Value.heldKeys, Value.key?]
  traitKeys := by
    intro ms hms
    obtain rfl : [(.text "order", .list [])] = ms := Except.ok.inj hms
    simp [Value.KeysRead, Value.heldKeys, Value.heldKeysAll]
  defaultOrder := keysRead_text "$id"
  rawTexts := by
    intro op f hf
    have hparse : Filter.parse [] op namedPersons.filter = .ok (some (Filter.joined op
        [.property (.path ["name"]) (.text "Ann")])) := by
      cases op <;> rfl
    obtain rfl := Option.some.inj (Except.ok.inj (hparse.symm.trans hf))
    cases op <;> simp [Filter.rawTexts, Filter.rawTextsAll, Filter.joined]

lemma castsAlike_namedPersons {t : Traits} (h : t.group = []) :
    namedPersons.CastsAlike sampleEnvironment t personType.toValue .null := by
  refine ⟨?_, by simp [SameGroupCasts, h]⟩
  have hparse : Filter.parse sampleEnvironment.functions t.matching namedPersons.filter =
      .ok (some (Filter.joined t.matching [.property (.path ["name"]) (.text "Ann")])) := by
    cases t.matching <;> rfl
  have hcompared : namedPersons.compared sampleEnvironment t = [(.path ["name"], .text "Ann")] := by
    rw [compared, hparse]
    cases t.matching <;> rfl
  rw [hcompared]
  intro c hc
  obtain rfl := List.mem_singleton.1 hc
  rfl

lemma listKeepsCasts_namedPersons {traits : TraitsArgument}
    (h : (traits.resolve sampleEnvironment.defaults).map (·.group) = .ok []) :
    namedPersons.ListKeepsCasts sampleEnvironment traits := by
  intro t d ht hd
  obtain rfl : personType = d := Option.some.inj (withheldType?_eq_some hd)
  rw [ht] at h
  exact castsAlike_namedPersons (Except.ok.inj h)

set_option maxRecDepth 4000 in
lemma select_namedPersons :
    (namedPersons.select sampleEnvironment none inNoOrder).map (·.text) =
      .ok "SELECT * FROM documents WHERE (type = $1) AND ((content ->> 'name'::text) = $2)" :=
  text_of_beq (by decide +kernel)

/-- The list withholds the type, but names are compared as texts with its schema and without it:
the list makes no difference, and equal casts follow from the equal statements. -/
theorem namedPersons_listed :
    (inNoOrder.resolve sampleEnvironment.defaults).map namedPersons.withheldType? =
        .ok (some personType) ∧
      namedPersons.listed.select sampleEnvironment none inNoOrder =
        namedPersons.select sampleEnvironment none inNoOrder ∧
      namedPersons.listed.count sampleEnvironment none inNoOrder =
        namedPersons.count sampleEnvironment none inNoOrder ∧
      namedPersons.ListKeepsCasts sampleEnvironment inNoOrder := by
  obtain ⟨hselect, hcount, hcasts⟩ :=
    select_listed sampleEnvironment namedPersons none inNoOrder rfl
  have hsame := hselect (listKeepsCasts_namedPersons rfl)
  refine ⟨rfl, hsame, hcount fun counting hcounting => listKeepsCasts_namedPersons ?_, ?_⟩
  · obtain rfl := Except.ok.inj hcounting
    rfl
  · obtain ⟨c, hc, -⟩ := Result.map_eq_ok_iff.1 select_namedPersons
    exact (hcasts regular_namedPersons).1 c c hc (hsame.trans hc) rfl

/-- Persons of some age, by their declared type. -/
def agedType : Search := { agedPersons with documentType := personType.toValue }

set_option maxRecDepth 4000 in
/-- A declared type alone and in a list, with different statements: the list compares ages as
texts. -/
theorem agedType_listed_differs :
    (agedType.select sampleEnvironment none inNoOrder).map (·.text) =
        .ok ("SELECT * FROM documents WHERE (type = $1) AND " ++
          "((((content -> 'age'::text))::text)::numeric = $2)") ∧
      (agedType.listed.select sampleEnvironment none inNoOrder).map (·.text) =
        .ok "SELECT * FROM documents WHERE (type = $1) AND ((content ->> 'age'::text) = $2)" :=
  ⟨text_of_beq (by decide +kernel), text_of_beq (by decide +kernel)⟩

end Search

end DocumentSql

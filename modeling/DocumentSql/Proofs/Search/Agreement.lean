/-
Where two statements part.

Queries that are put together in the same way differ in their fragments only.  When these agree,
pair by pair, the statements are equal or part where the queries do, so that equal statements come
from equal queries (`Query.compile_agrees`).

The groups of a search and its selected expressions under two schemas agree in this sense: an
expression to group by begins with the parentheses of its cast, and a selected one is the
expression of its group (`groupItems_agree`, `fieldItems_agree`).
-/
import DocumentSql.Proofs.Filter.Schema
import DocumentSql.Proofs.Search.Query
import DocumentSql.Proofs.Search.Schema

namespace DocumentSql

open Sql

namespace Predicate

/-! ### Sequences -/

lemma chain_agrees {ps qs : List Predicate} {sep : String} {p q : Predicate}
    (hps : ∀ r ∈ ps, r.Sound) (hqs : ∀ r ∈ qs, r.Sound) (hsep : Glue sep)
    (h : List.Forall₂ Agrees ps qs) (hp : chain ps sep = .ok p) (hq : chain qs sep = .ok q) :
    p.Agrees q ∧ (p = q → ps = qs) := by
  by_cases hne : ps = qs
  · subst hne
    exact ⟨Or.inl (Except.ok.inj (hp.symm.trans hq)), fun _ => rfl⟩
  · obtain ⟨hall, heq⟩ := forall₂_filter h
    obtain ⟨hshapes, hshapesNe⟩ := forall₂_shapes hall (fun hf => hne (heq hf)) [] []
    have hdiverge : Diverge (shape p.text) (shape q.text) := by
      rw [shape_of_chain hps hsep hp, shape_of_chain hqs hsep hq]
      simpa using Diverge.intercalate hshapes hshapesNe
    exact ⟨Or.inr hdiverge, fun heq => absurd (by rw [heq]) hdiverge.ne⟩

/-- Two parts of sequences are the same text, or fragments that agree. -/
inductive Part.Agrees : Part → Part → Prop
  /-- The same text. -/
  | text (s : String) : Agrees (.text s) (.text s)
  /-- Fragments that agree. -/
  | predicate {p q : Predicate} (h : p.Agrees q) : Agrees (.predicate p) (.predicate q)

lemma Part.Agrees.refl (part : Part) : part.Agrees part := by
  cases part with
  | text s => exact .text s
  | predicate p => exact .predicate (Or.inl rfl)

/-- Fragments of related elements that agree pair by pair, and of which none are equal without
reason. -/
lemma forall₂_agree {α : Type} {R T : α → α → Prop} {P Q : α → Predicate → Prop} {xs ys : List α}
    {ps qs : List Predicate} (h : List.Forall₂ R xs ys) (hps : List.Forall₂ P xs ps)
    (hqs : List.Forall₂ Q ys qs)
    (hagree : ∀ {x y p q}, R x y → P x p → Q y q → p.Agrees q ∧ (p = q → T x y)) :
    List.Forall₂ Agrees ps qs ∧ (ps = qs → List.Forall₂ T xs ys) := by
  refine ⟨Result.forall₂_answers h hps hqs fun hxy hp hq => (hagree hxy hp hq).1, ?_⟩
  rintro rfl
  induction h generalizing ps with
  | nil => exact .nil
  | cons hxy _ ih =>
    cases hps with
    | cons hp hps =>
      cases hqs with
      | cons hq hqs => exact .cons ((hagree hxy hp hq).2 rfl) (ih hps hqs)

lemma ofParts_agree {parts parts' : List Part} {ps qs : List Predicate}
    (h : List.Forall₂ Part.Agrees parts parts') (hps : ofParts parts = .ok ps)
    (hqs : ofParts parts' = .ok qs) :
    List.Forall₂ Agrees ps qs ∧ (ps = qs → parts = parts') := by
  obtain ⟨hall, hequal⟩ := forall₂_agree (T := Eq) h (forall₂_ofParts hps) (forall₂_ofParts hqs)
    fun {part part' p q} hpart hp hq => by
      cases hpart with
      | text s => exact ⟨Or.inl (Except.ok.inj (hp.symm.trans hq)), fun _ => rfl⟩
      | predicate hagrees =>
        obtain rfl := Except.ok.inj hp
        obtain rfl := Except.ok.inj hq
        exact ⟨hagrees, fun h => by rw [h]⟩
  exact ⟨hall, fun h => List.forall₂_eq_eq_eq ▸ hequal h⟩

/-- Sequences of parts that agree make fragments that do, and equal ones only if they are equal. -/
theorem concat_agrees {parts parts' : List Part} {sep : String} {p q : Predicate}
    (hparts : ∀ part ∈ parts, part.IsSound) (hparts' : ∀ part ∈ parts', part.IsSound)
    (hsep : Glue sep) (h : List.Forall₂ Part.Agrees parts parts')
    (hp : concat parts sep = .ok p) (hq : concat parts' sep = .ok q) :
    p.Agrees q ∧ (p = q → parts = parts') := by
  obtain ⟨ps, hps, hp⟩ := Result.bind_eq_ok_iff.1 hp
  obtain ⟨qs, hqs, hq⟩ := Result.bind_eq_ok_iff.1 hq
  obtain ⟨hall, heq⟩ := ofParts_agree h hps hqs
  obtain ⟨hagrees, hlists⟩ := chain_agrees (ofParts_assembles hparts hps).1
    (ofParts_assembles hparts' hqs).1 hsep hall hp hq
  exact ⟨hagrees, fun h => heq (hlists h)⟩

end Predicate

namespace Query

/-! ### Statements -/

/-- Two queries that are put together in the same way: they may differ in fragments only, and
these agree. -/
structure Agrees (q q' : Query) : Prop where
  method : q.method = q'.method
  table : q.table = q'.table
  condition : q.condition.Agrees q'.condition
  fields : List.Forall₂ Predicate.Agrees q.fields q'.fields
  order : List.Forall₂ Predicate.Agrees q.order q'.order
  group : List.Forall₂ Predicate.Agrees q.group q'.group
  limit : q.limit = q'.limit
  offset : q.offset = q'.offset

variable {q q' : Query}

lemma selectList_agrees {p p' : Predicate} (hq : q.IsSound) (hq' : q'.IsSound) (h : q.Agrees q')
    (hp : q.selectList = .ok p) (hp' : q'.selectList = .ok p') : p.Agrees p' := by
  rw [selectList, ← h.method] at hp'
  rw [selectList] at hp
  cases hmethod : q.method with
  | count =>
    rw [hmethod] at hp hp'
    exact Or.inl (Except.ok.inj (hp.symm.trans hp'))
  | select =>
    rw [hmethod] at hp hp'
    exact (Predicate.chain_agrees hq.fields hq'.fields Predicate.glue_comma h.fields hp hp').1

lemma clause_agrees {keyword : String} {items items' : List Predicate}
    {parts parts' : List Predicate.Part} (hitems : ∀ p ∈ items, p.Sound)
    (hitems' : ∀ p ∈ items', p.Sound) (h : List.Forall₂ Predicate.Agrees items items')
    (hparts : clause keyword items = .ok parts) (hparts' : clause keyword items' = .ok parts') :
    List.Forall₂ Predicate.Part.Agrees parts parts' ∧ (parts = parts' → items = items') := by
  cases h with
  | nil =>
    obtain rfl := Except.ok.inj hparts
    obtain rfl := Except.ok.inj hparts'
    exact ⟨List.Forall₂.nil, fun _ => rfl⟩
  | cons hpq hrest =>
    obtain ⟨p, hp, hparts⟩ := Result.bind_eq_ok_iff.1 hparts
    obtain ⟨p', hp', hparts'⟩ := Result.bind_eq_ok_iff.1 hparts'
    obtain rfl := Except.ok.inj hparts
    obtain rfl := Except.ok.inj hparts'
    obtain ⟨hagrees, heq⟩ := Predicate.chain_agrees hitems hitems' Predicate.glue_comma
      (List.Forall₂.cons hpq hrest) hp hp'
    refine ⟨.cons (.text keyword) (.cons (.predicate hagrees) .nil), fun h => heq ?_⟩
    simpa using h

lemma whereClause_agrees (h : q.condition.Agrees q'.condition) :
    List.Forall₂ Predicate.Part.Agrees q.whereClause q'.whereClause ∧
      (q.whereClause = q'.whereClause → q.condition = q'.condition) := by
  unfold whereClause
  rw [← h.isEmpty_eq]
  split
  · next hempty =>
    have hempty' : q'.condition.isEmpty = true := h.isEmpty_eq ▸ hempty
    -- neither stands in the statement, and both are empty
    refine ⟨List.Forall₂.nil, fun _ => h.eq_of_text_eq ?_⟩
    rw [Predicate.isEmpty_iff.1 hempty, Predicate.isEmpty_iff.1 hempty']
  · exact ⟨.cons (.text "WHERE") (.cons (.predicate h) .nil), fun h => by simpa using h⟩

/-- Queries that are put together in the same way compile to the same text only if they have the
same condition, groups and orders. -/
theorem compile_agrees {c c' : CompiledQuery} (hq : q.IsSound) (hq' : q'.IsSound)
    (h : q.Agrees q') (hc : q.compile = .ok c) (hc' : q'.compile = .ok c')
    (htext : c.text = c'.text) :
    q.condition = q'.condition ∧ q.group = q'.group ∧ q.order = q'.order := by
  obtain ⟨fields, group, order, p, hc⟩ := exists_compiles hc
  obtain ⟨fields', group', order', p', hc'⟩ := exists_compiles hc'
  obtain rfl := hc.eq
  obtain rfl := hc'.eq
  have hselected := selectList_agrees hq hq' h hc.fields_eq hc'.fields_eq
  obtain ⟨hwhere, hcondition⟩ := whereClause_agrees h.condition
  obtain ⟨hgroups, hgroupEq⟩ := clause_agrees hq.group hq'.group h.group hc.group_eq hc'.group_eq
  obtain ⟨horders, horderEq⟩ := clause_agrees hq.order hq'.order h.order hc.order_eq hc'.order_eq
  -- clause by clause the parts agree, so equal texts have equal clauses
  have hfront : List.Forall₂ Predicate.Part.Agrees
      [.text "SELECT", .predicate fields, .text "FROM", .text q.table]
      [.text "SELECT", .predicate fields', .text "FROM", .text q'.table] := by
    rw [← h.table]
    exact .cons (.text _) (.cons (.predicate hselected) (.cons (.text _) (.cons (.text _) .nil)))
  have hrefl : ∀ parts : List Predicate.Part, List.Forall₂ Predicate.Part.Agrees parts parts :=
    fun parts => List.forall₂_same.2 fun part _ => .refl part
  have hclauses := List.rel_append (List.rel_append (List.rel_append hfront hwhere) hgroups) horders
  have hlast : q.limitClause = q'.limitClause ∧ q.offsetClause = q'.offsetClause := by
    simp only [limitClause, offsetClause, h.limit, h.offset, and_self]
  have hall : List.Forall₂ Predicate.Part.Agrees (q.parts fields group order)
      (q'.parts fields' group' order') := by
    rw [parts, parts, ← hlast.1, ← hlast.2]
    exact List.rel_append (List.rel_append hclauses (hrefl q.limitClause)) (hrefl q.offsetClause)
  obtain ⟨hagrees, heq⟩ := Predicate.concat_agrees (hc.isSound_parts hq) (hc'.isSound_parts hq')
    Predicate.glue_space hall hc.concat_eq hc'.concat_eq
  have hsame := heq (hagrees.eq_of_text_eq htext)
  simp only [parts, List.append_assoc] at hsame
  obtain ⟨-, hsame⟩ := List.append_inj hsame hfront.length_eq
  obtain ⟨hwhereEq, hsame⟩ := List.append_inj hsame hwhere.length_eq
  obtain ⟨hgroupSame, hsame⟩ := List.append_inj hsame hgroups.length_eq
  obtain ⟨horderSame, -⟩ := List.append_inj hsame horders.length_eq
  exact ⟨hcondition hwhereEq, hgroupEq hgroupSame, horderEq horderSame⟩

end Query

namespace Search

variable {s : Scope} {schema schema' : Value}

/-! ### Groups under two schemas -/

/-- A key without a cast that has different casts is a property, and the parentheses of the casts
part its expressions. -/
lemma groupItem_diverges {item : Value} {k : FieldKey} {p q : Predicate} (hs : s.IsPlain)
    (hk : groupKey item = .ok (k, .null))
    (hne : CastKind.ofKey s.entity schema k ≠ CastKind.ofKey s.entity schema' k)
    (hp : groupItem { s with schema := schema } item = .ok p)
    (hq : groupItem { s with schema := schema' } item = .ok q) :
    Diverge (shape p.text) (shape q.text) := by
  obtain ⟨path, rfl⟩ : ∃ path, k = .path path := by
    cases k with
    | path path => exact ⟨path, rfl⟩
    | _ => exact absurd (ofKey_congr_of_isReserved rfl _ _ _) hne
  obtain ⟨l, cast, r, c, hl, -, -, -, hr, hc, htext, -⟩ := groupItem_eq_ok hp
  obtain ⟨l', cast', r', c', hl', -, -, -, hr', hc', htext', -⟩ := groupItem_eq_ok hq
  obtain ⟨rfl, rfl⟩ : FieldKey.path path = l ∧ .null = cast := by simpa [hl] using hk.symm
  obtain ⟨rfl, rfl⟩ : FieldKey.path path = l' ∧ .null = cast' := by simpa [hl'] using hk.symm
  obtain rfl := Except.ok.inj (hr.symm.trans hr')
  obtain rfl := Except.ok.inj hc
  obtain rfl := Except.ok.inj hc'
  -- both are casts of one expression, that of the path
  have hexpr : r.text = navigate s.entity.container .json path := Predicate.text_of_make_nil hr
  obtain ⟨d, hd, hopens⟩ := Filter.opens_navigate hs.entity.container path
  rw [← hexpr] at hopens
  have hdiverge := Filter.diverge_of_kind_ne hd hopens (Filter.ofDeclared_ne_direct _)
    (Filter.ofDeclared_ne_direct _) (fun heq => hne (congrArg Except.ok heq)) ""
  rw [String.append_empty, String.append_empty] at hdiverge
  rw [htext, htext']
  exact hdiverge

lemma groupItem_agrees {item : Value} {p q : Predicate} (hs : s.IsPlain)
    (hp : groupItem { s with schema := schema } item = .ok p)
    (hq : groupItem { s with schema := schema' } item = .ok q) :
    p.Agrees q ∧ (p = q → SameGroupCasts s.entity schema schema' [item]) := by
  by_cases hsame : SameGroupCasts s.entity schema schema' [item]
  · rw [groupItem_congr (by simpa [SameGroupCasts] using hsame)] at hp
    exact ⟨Or.inl (Except.ok.inj (hp.symm.trans hq)), fun _ => hsame⟩
  · obtain ⟨k, hk, hne⟩ : ∃ k, groupKey item = .ok (k, .null) ∧
        CastKind.ofKey s.entity schema k ≠ CastKind.ofKey s.entity schema' k := by
      simpa [SameGroupCasts] using hsame
    have hdiverge := groupItem_diverges hs hk hne hp hq
    exact ⟨Or.inr hdiverge, fun heq => absurd (by rw [heq]) hdiverge.ne⟩

/-- Under two schemas the groups agree, and they are equal only if the keys have the same casts. -/
theorem groupItems_agree {items : List Value} {ps qs : List Predicate} (hs : s.IsPlain)
    (hps : groupItems { s with schema := schema } items = .ok ps)
    (hqs : groupItems { s with schema := schema' } items = .ok qs) :
    List.Forall₂ Predicate.Agrees ps qs ∧
      (ps = qs → SameGroupCasts s.entity schema schema' items) := by
  have hsame : List.Forall₂ (fun i j : Value => i = j) items items :=
    List.forall₂_same.2 fun _ _ => rfl
  obtain ⟨hall, hcasts⟩ := Predicate.forall₂_agree
    (T := fun item _ => SameGroupCasts s.entity schema schema' [item]) hsame
    (forall₂_groupItems hps) (forall₂_groupItems hqs) fun hij hp hq => by
      subst hij
      exact groupItem_agrees hs hp hq
  exact ⟨hall, fun h i hi => List.forall₂_same.1 (hcasts h) i hi i (by simp)⟩

/-! ### Selected expressions under two schemas -/

/-- Two keys of groups are the same, and their expressions agree. -/
def GroupsAgree (g g' : FieldKey × Predicate) : Prop := g.1 = g'.1 ∧ g.2.Agrees g'.2

lemma groupedKeys_agree {items : List Value} {ps qs : List Predicate}
    {groups groups' : List (FieldKey × Predicate)} (h : List.Forall₂ Predicate.Agrees ps qs)
    (hgroups : groupedKeys items ps = .ok groups) (hgroups' : groupedKeys items qs = .ok groups') :
    List.Forall₂ GroupsAgree groups groups' := by
  induction items generalizing ps qs groups groups' with
  | nil =>
    obtain rfl : [] = groups := Except.ok.inj hgroups
    obtain rfl : [] = groups' := Except.ok.inj hgroups'
    exact List.Forall₂.nil
  | cons item items ih =>
    cases h with
    | nil =>
      obtain rfl : [] = groups := Except.ok.inj hgroups
      obtain rfl : [] = groups' := Except.ok.inj hgroups'
      exact List.Forall₂.nil
    | cons hpq hrest =>
      obtain ⟨⟨k, cast⟩, hk, hgroups⟩ := Result.bind_eq_ok_iff.1 hgroups
      obtain ⟨rest, hgroupsRest, hgroups⟩ := Result.bind_eq_ok_iff.1 hgroups
      obtain ⟨⟨k', cast'⟩, hk', hgroups'⟩ := Result.bind_eq_ok_iff.1 hgroups'
      obtain ⟨rest', hgroupsRest', hgroups'⟩ := Result.bind_eq_ok_iff.1 hgroups'
      obtain rfl := Except.ok.inj hgroups
      obtain rfl := Except.ok.inj hgroups'
      obtain ⟨rfl, -⟩ : k = k' ∧ cast = cast' := by simpa [hk] using hk'
      exact List.Forall₂.cons ⟨rfl, hpq⟩ (ih hrest hgroupsRest hgroupsRest')

lemma find?_agree {groups groups' : List (FieldKey × Predicate)} (k : FieldKey)
    (h : List.Forall₂ GroupsAgree groups groups') (p : Predicate) :
    (((groups.find? fun g => g.1.name == k.name).map Prod.snd).getD p).Agrees
      (((groups'.find? fun g => g.1.name == k.name).map Prod.snd).getD p) := by
  induction h with
  | nil => exact Or.inl rfl
  | @cons g g' groups groups' hg _ ih =>
    rw [List.find?_cons, List.find?_cons, ← hg.1]
    split
    · exact hg.2
    · exact ih

lemma withText_agrees {p q r t : Predicate} {post : String} (hp : p.Sound) (hq : q.Sound)
    (hpost : Breaks post.toList) (h : p.Agrees q) (hr : p.withText (p.text ++ post) = .ok r)
    (ht : q.withText (q.text ++ post) = .ok t) : r.Agrees t := by
  rcases h with rfl | h
  · exact Or.inl (Except.ok.inj (hr.symm.trans ht))
  · right
    rw [Predicate.shape_of_make hr, Predicate.shape_of_make ht,
      shape_append hp.closed (Or.inr hpost), shape_append hq.closed (Or.inr hpost)]
    simpa using h.wrap [] (shape post) (shape post)

lemma fieldItem_agrees {groups groups' : List (FieldKey × Predicate)} {name : Value}
    {f f' : Predicate × FieldMap} (hs : s.IsPlain) (hname : name.KeysRead)
    (hgroups : ∀ g ∈ groups, g.2.Sound) (hgroups' : ∀ g ∈ groups', g.2.Sound)
    (h : List.Forall₂ GroupsAgree groups groups')
    (hf : fieldItem { s with schema := schema } groups name = .ok f)
    (hf' : fieldItem { s with schema := schema' } groups' name = .ok f') : f.1.Agrees f'.1 := by
  obtain ⟨k, hk, hf⟩ := Result.bind_eq_ok_iff.1 hf
  obtain ⟨p, hp, hf⟩ := Result.bind_eq_ok_iff.1 hf
  obtain ⟨k', hk', hf'⟩ := Result.bind_eq_ok_iff.1 hf'
  obtain ⟨p', hp', hf'⟩ := Result.bind_eq_ok_iff.1 hf'
  obtain rfl := Except.ok.inj (hk.symm.trans hk')
  obtain rfl := Except.ok.inj (hp.symm.trans hp')
  cases k with
  | path path =>
    obtain ⟨q, hq, hf⟩ := Result.bind_eq_ok_iff.1 hf
    obtain ⟨q', hq', hf'⟩ := Result.bind_eq_ok_iff.1 hf'
    obtain rfl := Except.ok.inj hf
    obtain rfl := Except.ok.inj hf'
    have hsound := (FieldKey.resolve_sound hs.procedures hs.entity (hname.parse hk) hp).1
    have hgrouped : ((groupedAs? groups (.path path)).getD p).Agrees
        ((groupedAs? groups' (.path path)).getD p) :=
      find?_agree (.path path) (List.forall₂_reverse_iff.2 h) p
    have hbreaks := breaks_append (s := " AS \"") (by decide) (by decide)
    rw [String.append_assoc, String.append_assoc] at hq hq'
    exact withText_agrees (groupedAs?_sound _ hgroups hsound) (groupedAs?_sound _ hgroups' hsound)
      (hbreaks _) hgrouped hq hq'
  | column c => exact Or.inl (by rw [← Except.ok.inj hf, ← Except.ok.inj hf'])
  | timestamp c => exact Or.inl (by rw [← Except.ok.inj hf, ← Except.ok.inj hf'])
  | all => exact Or.inl (by rw [← Except.ok.inj hf, ← Except.ok.inj hf'])
  | relations => exact Or.inl (by rw [Except.ok.inj (hf.symm.trans hf')])

/-- Under two schemas the selected expressions agree. -/
theorem fieldItems_agree {groups groups' : List (FieldKey × Predicate)} {names : List Value}
    {fs fs' : List (Predicate × FieldMap)} (hs : s.IsPlain) (hnames : ∀ v ∈ names, v.KeysRead)
    (hgroups : ∀ g ∈ groups, g.2.Sound) (hgroups' : ∀ g ∈ groups', g.2.Sound)
    (h : List.Forall₂ GroupsAgree groups groups')
    (hfs : fieldItems { s with schema := schema } groups names = .ok fs)
    (hfs' : fieldItems { s with schema := schema' } groups' names = .ok fs') :
    List.Forall₂ Predicate.Agrees (fs.map Prod.fst) (fs'.map Prod.fst) := by
  rw [List.forall₂_map_left_iff, List.forall₂_map_right_iff]
  have hsame : List.Forall₂ (fun v w : Value => v = w ∧ v.KeysRead) names names :=
    List.forall₂_same.2 fun v hv => ⟨rfl, hnames v hv⟩
  exact Result.forall₂_answers hsame (forall₂_fieldItems hfs) (forall₂_fieldItems hfs')
    fun hv hf hf' => by
      obtain ⟨rfl, hread⟩ := hv
      exact fieldItem_agrees hs hread hgroups hgroups' h hf hf'

end Search

end DocumentSql

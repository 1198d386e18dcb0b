/-
The statement of a query.

A query is written as a sequence of clauses, and a clause without items is left out.  The
statement holds the selected expressions, the condition, the expressions that it groups by and
those that it orders by, in this order and with nothing else that takes a parameter; its
placeholders are numbered from one (`Query.compile_assembles`).
-/
import DocumentSql.Proofs.Sql.Fragment
import DocumentSql.Search.Query

namespace DocumentSql

open Sql

namespace Query

/-- The expressions that a query selects: none, if it counts. -/
def selected (q : Query) : List Predicate :=
  match q.method with
  | .select => q.fields
  | .count => []

/-- The parts of a query do not disturb the reading of its statement. -/
structure IsSound (q : Query) : Prop where
  table : Inert q.table
  condition : q.condition.Sound
  fields : ∀ p ∈ q.fields, p.Sound
  order : ∀ p ∈ q.order, p.Sound
  group : ∀ p ∈ q.group, p.Sound
  limit : Inert q.limit.plainText
  offset : Inert q.offset.plainText

lemma selectList_assembles {q : Query} {p : Predicate} (hq : q.IsSound)
    (h : q.selectList = .ok p) : p.Sound ∧ p.Assembles q.selected := by
  unfold selectList at h
  unfold selected
  split at h
  · next hmethod =>
    rw [hmethod]
    have hp := Predicate.sound_of_make h (by decide)
    exact ⟨hp, hp.assembles_nil (Predicate.params_of_make h)⟩
  · next hmethod =>
    rw [hmethod]
    exact Predicate.chain_assembles hq.fields Predicate.glue_comma h

/-- A clause holds its items. -/
lemma clause_assembles {keyword : String} {items : List Predicate}
    {parts : List Predicate.Part} (hkeyword : Inert keyword) (hitems : ∀ p ∈ items, p.Sound)
    (h : clause keyword items = .ok parts) :
    (∀ part ∈ parts, part.IsSound) ∧ ∃ itemss : List (List Predicate),
      List.Forall₂ Predicate.Assembles (Predicate.partFragments parts) itemss ∧
        itemss.flatten = items := by
  unfold clause at h
  split at h
  · next hempty =>
    obtain rfl : [] = parts := Except.ok.inj h
    obtain rfl : items = [] := by simpa using hempty
    exact ⟨by simp, [], List.Forall₂.nil, rfl⟩
  · obtain ⟨p, hp, h⟩ := Result.bind_eq_ok_iff.1 h
    obtain rfl : [.text keyword, .predicate p] = parts := Except.ok.inj h
    obtain ⟨hsound, hassembles⟩ := Predicate.chain_assembles hitems Predicate.glue_comma hp
    refine ⟨?_, [items], List.Forall₂.cons hassembles List.Forall₂.nil, by simp⟩
    simp [Predicate.Part.IsSound, hkeyword.closed, hsound]

/-- The parts of the statement of a query, with its select list, groups and order as they are
compiled. -/
def parts (q : Query) (fields : Predicate) (group order : List Predicate.Part) :
    List Predicate.Part :=
  [.text "SELECT", .predicate fields, .text "FROM", .text q.table] ++ q.whereClause ++ group ++
    order ++ q.limitClause ++ q.offsetClause

/-- A query is compiled to a statement by way of its parts. -/
structure Compiles (q : Query) (c : CompiledQuery) (fields : Predicate)
    (group order : List Predicate.Part) (p : Predicate) : Prop where
  fields_eq : q.selectList = .ok fields
  group_eq : clause "GROUP BY" q.group = .ok group
  order_eq : clause "ORDER BY" q.order = .ok order
  concat_eq : Predicate.concat (q.parts fields group order) " " = .ok p
  eq : c = ⟨p.text, p.params, q.fieldMap⟩

lemma exists_compiles {q : Query} {c : CompiledQuery} (h : q.compile = .ok c) :
    ∃ fields group order p, q.Compiles c fields group order p := by
  obtain ⟨fields, hfields, h⟩ := Result.bind_eq_ok_iff.1 h
  obtain ⟨group, hgroup, h⟩ := Result.bind_eq_ok_iff.1 h
  obtain ⟨order, horder, h⟩ := Result.bind_eq_ok_iff.1 h
  obtain ⟨p, hp, h⟩ := Result.bind_eq_ok_iff.1 h
  exact ⟨fields, group, order, p, hfields, hgroup, horder, hp, (Except.ok.inj h).symm⟩

section Clauses

variable {q : Query} {c : CompiledQuery} {fields p : Predicate} {group order : List Predicate.Part}

/-- The parts of a statement are texts with closed literals and sound fragments. -/
lemma Compiles.isSound_parts (h : q.Compiles c fields group order p) (hq : q.IsSound) :
    ∀ part ∈ q.parts fields group order, Predicate.Part.IsSound part := by
  have hfields := (selectList_assembles hq h.fields_eq).1
  have hgroup := (clause_assembles (by decide) hq.group h.group_eq).1
  have horder := (clause_assembles (by decide) hq.order h.order_eq).1
  have hselect : Closed "SELECT".toList := by decide
  have hfrom : Closed "FROM".toList := by decide
  have hkeyword : Closed "WHERE".toList := by decide
  have hwhere : ∀ part ∈ q.whereClause, Predicate.Part.IsSound part := by
    unfold whereClause
    split
    · simp
    · simpa [Predicate.Part.IsSound, hq.condition] using hkeyword
  have hlimit : ∀ part ∈ q.limitClause, Predicate.Part.IsSound part := by
    unfold limitClause
    split
    · simp
    · simpa [Predicate.Part.IsSound] using
        closed_append (by decide : Closed "LIMIT ".toList) hq.limit.closed
  have hoffset : ∀ part ∈ q.offsetClause, Predicate.Part.IsSound part := by
    unfold offsetClause
    split
    · simpa [Predicate.Part.IsSound] using
        closed_append (by decide : Closed "OFFSET ".toList) hq.offset.closed
    · simp
  intro part hpart
  simp only [parts, List.mem_append, List.mem_cons, List.not_mem_nil, or_false] at hpart
  rcases hpart with (((((rfl | rfl | rfl | rfl) | h) | h) | h) | h) | h
  · exact hselect
  · exact hfields
  · exact hfrom
  · exact hq.table.closed
  · exact hwhere part h
  · exact hgroup part h
  · exact horder part h
  · exact hlimit part h
  · exact hoffset part h

lemma partTexts_whereClause (q : Query) (n : ℕ) : Predicate.partTexts n q.whereClause =
    if q.condition.isEmpty then [] else ["WHERE", q.condition.shifted n] := by
  unfold whereClause
  by_cases hempty : q.condition.isEmpty = true <;> simp [hempty, Predicate.partTexts]

lemma partFragments_whereClause (q : Query) : Predicate.partFragments q.whereClause =
    if q.condition.isEmpty then [] else [q.condition] := by
  unfold whereClause
  split <;> rfl

lemma allParams_whereClause (hq : q.IsSound) :
    Predicate.allParams (Predicate.partFragments q.whereClause) = q.condition.params := by
  rw [partFragments_whereClause]
  split
  · next hempty =>
    simp [Predicate.params_eq_nil_of_isEmpty hq.condition hempty, Predicate.allParams]
  · simp [Predicate.allParams]

/-- The limit and the offset take no parameters. -/
lemma partFragments_parts (q : Query) (fields : Predicate) (group order : List Predicate.Part) :
    Predicate.partFragments (q.parts fields group order) =
      fields :: (Predicate.partFragments q.whereClause ++
        (Predicate.partFragments group ++ Predicate.partFragments order)) := by
  have hlast : Predicate.partFragments (q.limitClause ++ q.offsetClause) = [] := by
    unfold limitClause offsetClause
    split <;> split <;> rfl
  rw [parts, List.append_assoc _ q.limitClause, Predicate.partFragments_append, hlast]
  simp [Predicate.partFragments_append, Predicate.partFragments]

end Clauses

/-- The statement of a query holds its parts in the order in which it names them. -/
theorem compile_assembles {q : Query} {c : CompiledQuery} (hq : q.IsSound)
    (h : q.compile = .ok c) :
    placeholders c.text = (List.range c.params.length).map (fun i => Nat.toDigits 10 (i + 1)) ∧
      (⟨c.text, c.params, []⟩ : Predicate).Assembles
        (q.selected ++ q.condition :: (q.group ++ q.order)) := by
  obtain ⟨fields, group, order, p, hc⟩ := exists_compiles h
  obtain rfl := hc.eq
  have hnumbers : placeholders p.text =
      (List.range p.params.length).map fun i => Nat.toDigits 10 (i + 1) := by
    obtain ⟨ps, -, hmake⟩ := Result.bind_eq_ok_iff.1 hc.concat_eq
    exact Predicate.placeholders_of_make hmake
  refine ⟨hnumbers, ?_⟩
  have hfields := (selectList_assembles hq hc.fields_eq).2
  obtain ⟨-, groupss, hgroup, hgroupFlat⟩ := clause_assembles (by decide) hq.group hc.group_eq
  obtain ⟨-, orderss, horder, horderFlat⟩ := clause_assembles (by decide) hq.order hc.order_eq
  have hrest := List.rel_append hgroup horder
  have hassembles :=
    (Predicate.concat_assembles (hc.isSound_parts hq) Predicate.glue_space hc.concat_eq).2
  rw [partFragments_parts, partFragments_whereClause] at hassembles
  split at hassembles
  · next hempty =>
    have hall := hassembles.trans (List.Forall₂.cons hfields hrest)
    rw [List.flatten_cons, List.flatten_append, hgroupFlat, horderFlat] at hall
    have hwith := Predicate.Assembles.insert_empty hq.condition hempty hall
    exact ⟨hwith.spliced, hwith.params_eq⟩
  · have hall := hassembles.trans (List.Forall₂.cons hfields
      (List.Forall₂.cons (Predicate.Assembles.refl q.condition) hrest))
    rw [List.flatten_cons, List.flatten_cons, List.flatten_append, hgroupFlat, horderFlat] at hall
    exact ⟨hall.spliced, hall.params_eq⟩

/-- The condition of a query stands in a statement behind the select list and the table, its
placeholders numbered behind those of the select list; an empty condition does not stand
there. -/
def FiltersIn (q : Query) (c : CompiledQuery) : Prop :=
  ∃ (fields : Predicate) (rest : List String) (after : List Value),
    q.selectList = .ok fields ∧
    c.text = String.intercalate " "
      (Predicate.partTexts 0 [.text "SELECT", .predicate fields, .text "FROM", .text q.table] ++
        (if q.condition.isEmpty then []
          else ["WHERE", q.condition.shifted fields.params.length]) ++ rest) ∧
    c.params = fields.params ++ q.condition.params ++ after

/-- The statement of a query has the condition of the query. -/
theorem compile_filtersIn {q : Query} {c : CompiledQuery} (hq : q.IsSound)
    (h : q.compile = .ok c) : q.FiltersIn c := by
  obtain ⟨fields, group, order, p, hc⟩ := exists_compiles h
  obtain rfl := hc.eq
  have hparts := hc.isSound_parts hq
  have htext := Predicate.text_of_concat hparts Predicate.glue_space hc.concat_eq
  have hparams :=
    (Predicate.concat_assembles hparts Predicate.glue_space hc.concat_eq).2.params_eq
  have hfront : Predicate.allParams (Predicate.partFragments
      [.text "SELECT", .predicate fields, .text "FROM", .text q.table]) = fields.params := by
    simp [Predicate.partFragments, Predicate.allParams]
  -- what stands behind the condition does not matter
  obtain ⟨last, hlast⟩ : ∃ last, q.parts fields group order =
      ([.text "SELECT", .predicate fields, .text "FROM", .text q.table] ++ q.whereClause) ++ last :=
    ⟨group ++ order ++ q.limitClause ++ q.offsetClause, by simp only [parts, List.append_assoc]⟩
  rw [hlast, Predicate.partTexts_append, Predicate.partTexts_append, hfront, Nat.zero_add,
    partTexts_whereClause] at htext
  rw [hlast, Predicate.partFragments_append, Predicate.partFragments_append, Predicate.allParams,
    List.flatMap_append, List.flatMap_append] at hparams
  exact ⟨fields, _, _, hc.fields_eq, htext,
    by rw [← hfront, ← allParams_whereClause hq]; exact hparams⟩

end Query

end DocumentSql

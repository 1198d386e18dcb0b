/-
Names and definitions of indexes.

An index over a property of the data container or a column has a canonical name of lower-case
letters, digits and underscores, and an expression; its definition is the statement that creates
it, written with the table as it is named or qualified by a schema (`IsIndexable.definition_eq`).
-/
import DocumentSql.Proofs.Key.Plain
import DocumentSql.Index.Sync

namespace DocumentSql

open Sql

/-! ### Names -/

/-- The characters of the name of an index. -/
def IsIndexChar (c : Char) : Prop := isSlugChar c = true ∨ c = '_'

lemma isIndexChar_of_mem_slugChars {inRun : Bool} {cs : List Char} {c : Char}
    (h : c ∈ slugChars inRun cs) : IsIndexChar c := by
  induction cs generalizing inRun with
  | nil => simp [slugChars] at h
  | cons d cs ih =>
    rw [slugChars] at h
    split at h
    · next hd =>
      rcases List.mem_cons.1 h with rfl | h
      · exact Or.inl hd
      · exact ih h
    · split at h
      · exact ih h
      · rcases List.mem_cons.1 h with rfl | h
        · exact Or.inr rfl
        · exact ih h

lemma isIndexChar_of_mem_slug {s : String} {c : Char} (h : c ∈ (slug s).toList) :
    IsIndexChar c :=
  isIndexChar_of_mem_slugChars (by simpa [slug] using h)

lemma IsIndexChar.ne {c d : Char} (h : IsIndexChar c) (hd : isSlugChar d = false)
    (hd' : d ≠ '_') : c ≠ d := by
  rintro rfl
  rcases h with h | h
  · simp [h] at hd
  · exact hd' h

lemma isIndexChar_of_mem_intercalate {parts : List String}
    (hparts : ∀ s ∈ parts, ∀ c ∈ s.toList, IsIndexChar c) :
    ∀ c ∈ (String.intercalate "_" parts).toList, IsIndexChar c := by
  intro c hc
  rcases mem_or_exists_of_mem_intercalate hc with hc | ⟨s, hs, hc⟩
  · exact Or.inr (by simpa using hc)
  · exact hparts s hs c hc

namespace FieldKey

/-- A column that a text names holds no dollar sign. -/
lemma no_dollar_of_isRead {k : FieldKey} (hk : k.IsRead) {c : String}
    (h : k = .column c ∨ k = .timestamp c) : '$' ∉ c.toList := by
  rcases h with rfl | rfl
  · intro hmem
    rcases mem_of_isColumnName (column_of_isRead hk).1 _ hmem with hc | hc <;>
      exact absurd hc (by decide)
  · have hnone : ∀ t ∈ timestampColumns, '$' ∉ t.toList := by decide
    exact hnone c (timestamp_of_isRead hk)

lemma no_dollar_navigate {container : String} (hcontainer : '$' ∉ container.toList)
    (access : Access) {path : List String} (hpath : ∀ part ∈ path, Inert part) :
    '$' ∉ (navigate container access path).toList := by
  unfold navigate
  split
  · next name =>
    have hname := (hpath name (by simp)).no_dollar
    cases access <;> simp [Access.member, hcontainer, hname]
  · have hnames := ((by decide : Inert ",").intercalate hpath).no_dollar
    cases access <;> simp [Access.path, hcontainer, hnames, -String.toList_intercalate]

end FieldKey

/-- A text without dollar signs has no placeholders. -/
lemma countPlaceholders_of_no_dollar {s : String} (h : '$' ∉ s.toList) :
    countPlaceholders s = 0 := by
  rw [countPlaceholders, tokens_eq_scan, List.countP_eq_zero]
  exact fun t ht => by simpa using not_isMark_of_not_mem h t ht

/-- A text without placeholders is a fragment without parameters. -/
lemma Predicate.make_of_count {s : String} (h : countPlaceholders s = 0) (origin : Members) :
    Predicate.make s [] origin = .ok ⟨s, [], origin⟩ := by
  have hsame : renumber s 0 = s := renumber_of_count_eq_zero h 0
  rw [make_eq_ok_iff.2 ⟨h, rfl⟩, hsame]

/-! ### Indexes that can be declared -/

/-- The key is a property of a data container, nothing in the name of which is taken for a
placeholder, or a column of the entity. -/
def FieldKey.IsField (e : Entity) : FieldKey → Prop
  | .path components => countPlaceholders (navigate e.container .json components) = 0
  | .column c => e.hasColumn c = true
  | .timestamp c => e.hasColumn c = true
  | .relations => False
  | .all => False

/-- A property is a field of an entity whose container has no dollar sign in its name. -/
lemma FieldKey.isField_path {e : Entity} {components : List String}
    (hread : (FieldKey.path components).IsRead) (hcontainer : '$' ∉ e.container.toList) :
    (FieldKey.path components).IsField e :=
  countPlaceholders_of_no_dollar (no_dollar_navigate hcontainer .json (inert_of_isRead hread))

namespace IndexSpec

variable {s : IndexSpec} {procedures : Procedures}

/-- The index is over a property of the data container or a column of the entity, and the column
before it, if there is one, belongs to the entity. -/
structure IsIndexable (s : IndexSpec) : Prop where
  field : ∃ k, FieldKey.parse s.field = .ok k ∧ k.IsRead ∧ k.IsField s.entity
  typeField : s.typeField = .null ∨ ∃ c, s.typeField.asText? = some c ∧ s.entity.hasColumn c = true

/-- The statement that creates an index of a name over an expression of a table. -/
def createText (unique : Bool) (name table expr : String) : String :=
  "CREATE " ++ (if unique then "UNIQUE " else "") ++ "INDEX " ++ name ++ " ON " ++ table ++
    " USING btree (" ++ expr ++ ")"

namespace IsIndexable

lemma check_eq (h : s.IsIndexable) : s.check = .ok () := by
  rw [check]
  rcases h.typeField with hnull | ⟨c, hc, hcolumn⟩
  · simp [hnull, Value.isNull]
  · have hnull : s.typeField.isNull = false := by
      cases hs : s.typeField <;> first | rfl | simp [hs, Value.asText?] at hc
    rw [hnull, hc]
    simp [hcolumn]

/-- The field has an expression, and a cast. -/
lemma exists_resolved (h : s.IsIndexable) (procedures : Procedures) :
    ∃ k p kind, s.resolved procedures = .ok (k, p) ∧
      CastKind.ofKey s.entity s.schema k = .ok kind := by
  obtain ⟨k, hparse, hread, hfield⟩ := h.field
  have hresolved : ∀ {text : String} {origin : Members},
      FieldKey.Denotes s.entity false k text origin → countPlaceholders text = 0 → k ≠ .all →
      k ≠ .relations → s.resolved procedures = .ok (k, ⟨text, [], origin⟩) := by
    intro text origin hdenotes hcount hall hrelations
    have hp : k.resolve procedures s.entity false (.list []) = .ok ⟨text, [], origin⟩ := by
      rw [FieldKey.resolve_of_ne hrelations, hdenotes.resolveColumn_eq,
        Predicate.make_of_count hcount]
    rw [resolved, hparse]
    cases k with
    | all => exact absurd rfl hall
    | _ => simp [bind, Except.bind, hp]
  cases k with
  | path components =>
    exact ⟨_, _, _, hresolved (.path components) hfield (by simp) (by simp), rfl⟩
  | column c =>
    have hcolumn : s.entity.hasColumn c = true := hfield
    have hcount := countPlaceholders_of_no_dollar (FieldKey.no_dollar_of_isRead hread (Or.inl rfl))
    exact ⟨_, _, .direct, hresolved (.column hcolumn) hcount (by simp) (by simp),
      by simp [CastKind.ofKey, hcolumn]⟩
  | timestamp c =>
    have hcolumn : s.entity.hasColumn c = true := hfield
    have hcount := countPlaceholders_of_no_dollar (FieldKey.no_dollar_of_isRead hread (Or.inr rfl))
    exact ⟨_, _, .direct, hresolved (.timestamp hcolumn rfl) hcount (by simp) (by simp),
      by simp [CastKind.ofKey, hcolumn]⟩
  | relations => exact absurd hfield id
  | all => exact absurd hfield id

/-- The index has a canonical name and an expression. -/
theorem exists_name (h : s.IsIndexable) (procedures : Procedures) :
    ∃ name expr, s.name procedures = .ok name ∧ s.expression procedures = .ok expr := by
  obtain ⟨k, p, kind, hresolved, hkind⟩ := h.exists_resolved procedures
  have hexpr : ∃ expr, s.expression procedures = .ok expr := by
    rw [expression, hresolved]
    simp [bind, Except.bind, hkind]
  obtain ⟨expr, hexpr⟩ := hexpr
  exact ⟨_, expr, by rw [name, hresolved]; rfl, hexpr⟩

end IsIndexable

/-- The definition is the statement that creates the index. -/
lemma definition_eq {name expr : String} (hname : s.name procedures = .ok name)
    (hexpr : s.expression procedures = .ok expr) (schemaName : Value) :
    s.definition procedures schemaName =
      .ok (createText s.unique name (s.qualifiedTable schemaName) expr) := by
  rw [definition, hname, hexpr]
  rfl

lemma definitions_eq {name expr : String} (hname : s.name procedures = .ok name)
    (hexpr : s.expression procedures = .ok expr) (schemaName : Value) :
    s.definitions procedures schemaName =
      .ok [createText s.unique name s.entity.table expr,
        createText s.unique name (s.qualifiedTable schemaName) expr] := by
  rw [definitions, definition_eq hname hexpr, definition_eq hname hexpr]
  rfl

/-- The name consists of lower-case letters, digits and underscores, and it is not empty. -/
theorem isIndexChar_of_name {name : String} (h : s.name procedures = .ok name) :
    name ≠ "" ∧ ∀ c ∈ name.toList, IsIndexChar c := by
  obtain ⟨⟨k, p⟩, -, h⟩ := Result.bind_eq_ok_iff.1 h
  obtain rfl := Except.ok.inj h
  refine ⟨by simp, fun c hc => ?_⟩
  rw [String.toList_append, List.mem_append] at hc
  rcases hc with hc | hc
  · refine isIndexChar_of_mem_intercalate (fun t ht => ?_) c hc
    simp only [List.mem_append, List.mem_singleton, Option.mem_toList, Option.map_eq_some_iff] at ht
    rcases ht with (rfl | ⟨d, -, rfl⟩) | rfl <;> exact fun _ => isIndexChar_of_mem_slug
  · simp only [String.reduceToList, List.mem_cons, List.not_mem_nil, or_false] at hc
    rcases hc with rfl | rfl | rfl | rfl | rfl | rfl <;> first | exact Or.inr rfl | exact Or.inl rfl

end IndexSpec

end DocumentSql

/-
What an insert keeps of an object.

An insert has one placeholder for each column of the row of an object, numbered in order
(`Statement.insertRow_eq_ok`).  What the parameters are decoded to are the values of the row
(`Statement.decodes_of_encode`), and these are all that the object gives: under each column its
value, and under the data container its plain members over an explicit value
(`Statement.insert_lossless`).
-/
import DocumentSql.Proofs.Json.Reading
import DocumentSql.Proofs.Key.Plain
import DocumentSql.Proofs.Row.Update
import DocumentSql.Proofs.Sql.Clause

namespace DocumentSql

open Sql

namespace Row

open Members (getText?)

variable {e : Entity} {ms : Members} {row : Row}

/-- The names of the columns of an entity and of its data container are plain identifiers. -/
structure HasPlainColumns (e : Entity) : Prop where
  columns : ∀ c, e.hasColumn c = true → IsPlainName c
  container : IsPlainName e.container

lemma HasPlainColumns.of_isPlain (he : e.IsPlain) : HasPlainColumns e :=
  ⟨fun _ hc => he.of_hasColumn hc, he.container⟩

lemma HasPlainColumns.of_mem (he : HasPlainColumns e) (h : ofMembers e ms = .ok row)
    {c : String × Value} (hc : c ∈ row) : IsPlainName c.1 := by
  rcases column_of_mem_ofMembers h hc with hcolumn | hcontainer
  · exact he.columns c.1 hcolumn
  · exact hcontainer ▸ he.container

/-- A row holds what an object gives, and nothing else: under the key of each column its value, and
in the data container the plain members, over the members of an explicit value. -/
structure Keeps (e : Entity) (ms : Members) (row : Row) : Prop where
  /-- No column stands twice. -/
  distinct : row.IsDistinct
  /-- The columns have the values that the object gives for them. -/
  column : ∀ c, c ≠ e.container → get? row c = getText? ms ("$" ++ c)
  /-- Without plain keys, so has the data container. -/
  explicit : givesPlain ms = false → get? row e.container = getText? ms ("$" ++ e.container)
  /-- With plain keys it is a mapping, of these members and those of an explicit value that the
  object gives for no plain key. -/
  gathered : givesPlain ms = true → ∃ ns, get? row e.container = some (.dict ns) ∧
    Members.IsKeyed ns ∧ ∀ s, getText? ns s = (property? ms (.text s)).or
      (getText? (membersOf (getText? ms ("$" ++ e.container))) s)

lemma map_normalize_getText? (hms : (Value.dict ms).IsJson) (s : String) :
    (getText? ms s).map Value.normalize = getText? ms s := by
  cases hv : getText? ms s with
  | none => rfl
  | some v => rw [Option.map_some, (hms.getText? hv).normalize_eq]

/-- The row of a JSON object keeps the object. -/
lemma keeps_of_ofMembers (hms : (Value.dict ms).IsJson) (h : ofMembers e ms = .ok row) :
    Keeps e ms row := by
  have hkeyed := (Value.isJson_dict.1 hms).1
  have hexplicit : explicit? e ms = getText? ms ("$" ++ e.container) :=
    map_normalize_getText? hms _
  -- a JSON value is its own plain form, so what the row holds is what the object gives
  refine ⟨isDistinct_ofMembers hkeyed h, fun c hc => ?_, fun hplain => ?_, fun hplain => ?_⟩
  · rw [get?_ofMembers h hc, map_normalize_getText? hms]
  · rw [get?_container h hplain, hexplicit]
  · obtain ⟨ns, hns⟩ := exists_get?_container h hplain
    have hjson := isJson_of_ofMembers hms h hns
    refine ⟨ns, hns, (Value.isJson_dict.1 hjson).1, fun s => ?_⟩
    have hcontainer := inContainer?_ofMembers hkeyed h s
    rw [inContainer?, hns, membersOf, hexplicit, plain?_eq, map_normalize_getText? hms]
      at hcontainer
    exact hcontainer

end Row

namespace Statement

open Members (getText?)

variable {e : Entity} {ms : Members} {row : Row} {s : Statement}

/-! ### Parameters -/

/-- A parameter stands for a value: for a list or a mapping as its JSON text, for any other value
as it is. -/
def Decodes (p v : Value) : Prop :=
  if v.isStructured then ∃ t, p = .text t ∧ Json.read? t = some v else p = v

lemma decodes_of_encode {v p : Value} (hv : v.IsJson) (h : encode v = .ok p) : Decodes p v := by
  unfold encode at h
  simp only [hv.normalize_eq] at h
  unfold Decodes
  split at h
  · next hstructured =>
    rw [if_pos hstructured]
    obtain ⟨t, ht, hread⟩ := Json.exists_write hv
    rw [ht] at h
    exact ⟨t, (Except.ok.inj h).symm, hread⟩
  · next hplain =>
    rw [if_neg hplain]
    exact (Except.ok.inj h).symm

lemma forall₂_encodeAll {vs ps : List Value} (h : encodeAll vs = .ok ps) :
    List.Forall₂ (fun v p => encode v = .ok p) vs ps :=
  Result.forall₂_of_each (g := encodeAll) rfl (fun _ _ => rfl) h

lemma decodes_of_encodeAll {vs ps : List Value} (hvs : ∀ v ∈ vs, v.IsJson)
    (h : encodeAll vs = .ok ps) : List.Forall₂ Decodes ps vs :=
  (Value.forall₂_mono_mem (forall₂_encodeAll h) fun v hv _ _ hp =>
    decodes_of_encode (hvs v hv) hp).flip

/-! ### The text -/

/-- The text of an insert into a table, its placeholders numbered. -/
def numberedInsert (table : String) (columns : List String) : String :=
  "INSERT INTO " ++ table ++ " (" ++ String.intercalate ", " columns ++ ") VALUES (" ++
    String.intercalate ", " (columns.mapIdx fun i _ => "$" ++ toString (i + 1)) ++
    ") RETURNING *"

/-- Numbering the text of an insert numbers its values. -/
lemma renumber_insertText {table : String} {columns : List String}
    (hcolumns : ∀ c ∈ columns, IsPlainName c)
    (hcount : countPlaceholders (insertText table columns) = columns.length) :
    renumber (insertText table columns) 0 = numberedInsert table columns := by
  have hnames : Inert (String.intercalate ", " columns ++ ") VALUES (") :=
    (Inert.intercalate (by decide) fun c hc => (hcolumns c hc).inert).append (by decide)
  have hmarks := Renumbers.intercalate (fun c (_ : c ∈ columns) n => Renumbers.mark n) 0
  have hend : Renumbers columns.length ") RETURNING *" ") RETURNING *" 0 :=
    Renumbers.of_inert (by decide) _
  have hvalues : Settled (String.intercalate ", " columns ++ ") VALUES (").toList :=
    settled_append (by decide) (by decide) _
  have hopen : Settled ("INSERT INTO " ++ table ++ " (").toList :=
    settled_append (by decide) (by decide) _
  have hbreaks : Breaks ") RETURNING *".toList := by decide
  simp only [Nat.zero_add] at hmarks
  -- only the values have placeholders; the names stand in front of them with none
  have hlist := (Renumbers.of_inert hnames 0).append hmarks (Or.inl hvalues)
  have hall := (hlist.append (by simpa using hend) (Or.inr hbreaks)).behind (Or.inl hopen)
  have hbare : columns.map (fun _ => "$") = columns.mapIdx fun _ _ => "$" := by
    simp [List.mapIdx_eq_ofFn]
  delta insertText at hcount ⊢
  delta numberedInsert
  rw [hbare] at hcount ⊢
  simp only [String.append_assoc, Nat.zero_add, Nat.add_zero] at hall hcount ⊢
  exact hall hcount

lemma length_encodeAll {vs ps : List Value} (h : encodeAll vs = .ok ps) :
    ps.length = vs.length :=
  (forall₂_encodeAll h).length_eq.symm

/-- The insert of a row that is not empty. -/
lemma insertRow_eq_ok (hne : row ≠ []) (hcolumns : ∀ c ∈ row, IsPlainName c.1)
    (h : insertRow e row = .ok s) :
    s.text = numberedInsert e.table (row.map Prod.fst) ∧
      encodeAll (row.map Prod.snd) = .ok s.params := by
  rw [insertRow, if_neg (by simpa using hne)] at h
  obtain ⟨params, hparams, h⟩ := Result.bind_eq_ok_iff.1 h
  obtain ⟨p, hp, h⟩ := Result.bind_eq_ok_iff.1 h
  obtain rfl := Except.ok.inj h
  obtain ⟨hcount, rfl⟩ := Predicate.make_eq_ok_iff.1 hp
  have hnames : ∀ c ∈ row.map Prod.fst, IsPlainName c := List.forall_mem_map.2 hcolumns
  refine ⟨renumber_insertText hnames ?_, hparams⟩
  rw [hcount, length_encodeAll hparams, List.length_map, List.length_map]

/-! ### Inserts of objects -/

lemma ofMembers_ne_nil (hne : ms ≠ []) (h : Row.ofMembers e ms = .ok row) : row ≠ [] := by
  obtain ⟨columns, data, hpartition, ⟨hplain, rfl⟩ | ⟨-, given, -, rfl⟩⟩ := Row.ofMembers_eq_ok h
  · obtain ⟨⟨k, v⟩, ms, rfl⟩ := List.exists_cons_of_ne_nil hne
    cases Row.partitions_of_eq_ok hpartition with
    | property hs hproperty =>
      simp [Row.givesPlain, Row.isPropertyKey_eq hs, hproperty] at hplain
    | column => simp
  · intro hnil
    have hget : Row.get? (Row.put e.container (.dict (Members.merge given data)) columns)
        e.container = none := by
      rw [hnil]
      rfl
    simp at hget

/-- An insert loses nothing and adds nothing.  An empty object has the row of the defaults.  For
any other one the statement has one placeholder for each column, numbered in order, no column
stands twice, and what the parameters are decoded to is all that the object gives: its values under
the columns, and in the data container its plain members over those of an explicit mapping, where
nothing counts as an empty one. -/
theorem insert_lossless (he : Row.HasPlainColumns e) (hms : (Value.dict ms).IsJson)
    (h : insert e (.dict ms) = .ok s) :
    ms = [] ∧ s.text = "INSERT INTO " ++ e.table ++ " DEFAULT VALUES RETURNING *" ∧
        s.params = [] ∨
      ms ≠ [] ∧ ∃ row : Row, row ≠ [] ∧ s.text = numberedInsert e.table (row.map Prod.fst) ∧
        List.Forall₂ Decodes s.params (row.map Prod.snd) ∧ Row.Keeps e ms row := by
  obtain ⟨row, hrow, h⟩ := Result.bind_eq_ok_iff.1 h
  by_cases hne : ms = []
  · subst hne
    obtain rfl : [] = row := Except.ok.inj hrow
    obtain rfl := Except.ok.inj h
    exact Or.inl ⟨rfl, rfl, rfl⟩
  · have hrowNe := ofMembers_ne_nil hne hrow
    have hkeeps := Row.keeps_of_ofMembers hms hrow
    obtain ⟨htext, hparams⟩ := insertRow_eq_ok hrowNe (fun c hc => he.of_mem hrow hc) h
    refine Or.inr ⟨hne, row, hrowNe, htext, decodes_of_encodeAll ?_ hparams, hkeeps⟩
    intro v hv
    obtain ⟨c, hc, rfl⟩ := List.mem_map.1 hv
    exact Row.isJson_of_ofMembers hms hrow (hkeeps.distinct.get?_of_mem hc)

/-- A type with an explicit data container and a plain key for one of its members. -/
def sizedType : Members :=
  [(.text "note", .text "a"), (.text "$name", .text "Person"),
    (.text "$meta", .dict [(.text "note", .text "b"), (.text "size", .int 1)])]

lemma isJson_sizedType : (Value.dict sizedType).IsJson := by
  have hkeyed : sizedType.IsKeyed := by
    constructor <;> simp [sizedType, Value.asText?]
  have hmeta : Members.IsKeyed [(.text "note", .text "b"), (.text "size", .int 1)] := by
    constructor <;> simp [Value.asText?]
  exact Value.isJson_dict.2 ⟨hkeyed, by
    simp [sizedType, Value.IsJson, Value.MembersJson, hmeta]⟩

lemma insert_sizedType : (insert .type (.dict sizedType)).map (·.text) =
    .ok "INSERT INTO types (name, meta) VALUES ($1, $2) RETURNING *" :=
  Result.map_eq_ok_of_beq (by decide +kernel)

/-- The plain member stands over the one of the explicit container, whose other member is kept. -/
theorem sizedType_inserted :
    Row.HasPlainColumns .type ∧ (Value.dict sizedType).IsJson ∧
      ∃ s row ns, insert .type (.dict sizedType) = .ok s ∧
        s.text = numberedInsert "types" (row.map Prod.fst) ∧
        List.Forall₂ Decodes s.params (row.map Prod.snd) ∧
        Row.get? row "name" = some (.text "Person") ∧ Row.get? row "meta" = some (.dict ns) ∧
        getText? ns "note" = some (.text "a") ∧ getText? ns "size" = some (.int 1) := by
  have he : Row.HasPlainColumns .type :=
    .of_isPlain (Entity.isPlain_of_mem_builtIn _ (by simp [Entity.builtIn]))
  obtain ⟨s, hs, -⟩ := Result.map_eq_ok_iff.1 insert_sizedType
  rcases insert_lossless he isJson_sizedType hs with ⟨hnil, -⟩ | ⟨-, row, -, htext, hparams, hkeeps⟩
  · simp [sizedType] at hnil
  · obtain ⟨ns, hns, -, hmembers⟩ := hkeeps.gathered rfl
    exact ⟨he, isJson_sizedType, s, row, ns, hs, htext, hparams, hkeeps.column "name" (by decide),
      hns, hmembers "note", hmembers "size"⟩

end Statement

end DocumentSql

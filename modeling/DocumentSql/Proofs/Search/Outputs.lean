/-
The output columns of a search.

A search tells by its field map under which names its rows answer, and which logical key each of
them answers.  The map is filled while the keys are rendered one by one; a key may be listed twice,
and the key of all columns overlaps those of single ones.  Still its names are the names that the
select list gives its columns, each once: that of a reserved key is the key without its dollar sign,
and that of a property is the key behind the container and a dot, which no column has in its name.
So the names tell the keys and the keys the names, and a key of the map that is selected again
gives its column the name that it has (`Search.select_outputs`).
-/
import DocumentSql.Proofs.Index.Spec
import DocumentSql.Proofs.Key.Grammar
import DocumentSql.Proofs.Search.Grouping
import DocumentSql.Proofs.Value.Named

namespace DocumentSql

open Sql

/-! ### The names that a select list gives -/

namespace Text

/-- What stands before does not matter to the last occurrence of a part. -/
lemma cutLast_append_of_eq_some {part ds before after : List Char}
    (h : cutLast part ds = some (before, after)) (cs : List Char) :
    cutLast part (cs ++ ds) = some (cs ++ before, after) := by
  induction cs with
  | nil => exact h
  | cons c cs ih => rw [List.cons_append, cutLast, ih, List.cons_append]

end Text

namespace Search

/-- The name that stands for a column: without the quotes around it. -/
def unquoted (cs : List Char) : String :=
  match cs with
  | '"' :: cs => String.ofList (cs.takeWhile (· != '"'))
  | cs => String.ofList cs

/-- The names of the columns that an item of a select list gives: the stored columns for a star, the
name that is written behind `AS`, and else the item itself. -/
def outputNames (stored : List String) (item : List Char) : List String :=
  if item = ['*'] then stored
  else match Text.cutLast " AS ".toList item with
    | some (_, name) => [unquoted name]
    | none => [unquoted item]

lemma outputNames_named {name : List Char} (hblank : ' ' ∉ name)
    (stored : List String) (expr : List Char) :
    outputNames stored (expr ++ " AS ".toList ++ name) = [unquoted name] := by
  have hop : ' ' ∉ "AS".toList := by decide
  have hcut : Text.cutLast " AS ".toList (" AS ".toList ++ name) = some ([], name) := by
    simpa [Text.spaced] using Text.cutLast_spaced hop hop (List.not_mem_nil (a := ' ')) hblank
  have hne : expr ++ " AS ".toList ++ name ≠ ['*'] := by
    intro heq
    have hlength := congrArg List.length heq
    simp at hlength
    omega
  rw [outputNames, if_neg hne, List.append_assoc, Text.cutLast_append_of_eq_some hcut]

lemma bare_of_no_dollar {s : String} (h : '$' ∉ s.toList) : bare s = s.toList := by
  have hbare := bareFrom_append_of_no_dollar h []
  rwa [List.append_nil, bareFrom, List.append_nil] at hbare

/-- A name behind `AS` names the column. -/
lemma outputNames_bare_named {name : String} (hdollar : '$' ∉ name.toList)
    (hblank : ' ' ∉ name.toList) (stored : List String) (expr : String) :
    bare (expr ++ " AS " ++ name) ≠ [] ∧
      outputNames stored (bare (expr ++ " AS " ++ name)) = [unquoted name.toList] := by
  have hsep : Predicate.Separates " AS " := ⟨⟨' ', rfl, by decide⟩, by decide⟩
  rw [Predicate.bare_append_append hsep, bare_of_no_dollar hdollar, outputNames_named hblank]
  simp

lemma unquoted_quoted {name : String} (h : '"' ∉ name.toList) :
    unquoted ("\"" ++ name ++ "\"").toList = name := by
  have hlist : ("\"" ++ name ++ "\"").toList = '"' :: (name.toList ++ ['"']) := by simp
  have hall : ∀ c ∈ name.toList, (c != '"') = true := by
    intro c hc
    rw [bne_iff_ne]
    rintro rfl
    exact h hc
  rw [hlist, unquoted, List.takeWhile_append_of_pos hall]
  simp

/-- A name of a column is the name that it gives. -/
lemma outputNames_plain {c : String} (h : IsPlainName c) (stored : List String) :
    bare c ≠ [] ∧ outputNames stored (bare c) = [c] := by
  have hchars := h.isNameChar
  have hno : ∀ d : Char, FieldKey.isNameChar d = false → d ∉ c.toList := by
    intro d hd hmem
    rw [hchars d hmem] at hd
    cases hd
  have hstar : c.toList ≠ ['*'] := fun heq => hno '*' (by decide) (by simp [heq])
  have hquote : unquoted c.toList = c := by
    unfold unquoted
    split
    · next cs heq => exact absurd (by simp [heq]) (hno '"' (by decide))
    · rw [String.ofList_toList]
  have hne : c.toList ≠ [] := by
    intro hnil
    rw [IsPlainName, hnil] at h
    cases h
  rw [bare_of_no_dollar h.inert.no_dollar, outputNames, if_neg hstar,
    Text.cutLast_of_no_blank rfl (hno ' ' (by decide)), hquote]
  exact ⟨hne, rfl⟩

/-! ### The columns that answer keys -/

/-- A selected key of an entity gives a column of a name, which answers a logical key: a reserved
key under its name without the dollar sign, a property behind the name of the container, and the key
of all columns under the name of each. -/
inductive Answers (e : Entity) : FieldKey → String → String → Prop
  | column (c : String) : Answers e (.column c) c ("$" ++ c)
  | timestamp (c : String) : Answers e (.timestamp c) c ("$" ++ c)
  | relations : Answers e .relations "documents" "$documents"
  | all {c : String} (hc : c ∈ e.columns) : Answers e .all c ("$" ++ c)
  | path (components : List String) :
    Answers e (.path components) (e.container ++ "." ++ String.intercalate "." components)
      (String.intercalate "." components)

lemma mem_outputs_iff {e : Entity} {k : FieldKey} {n l : String} :
    (n, l) ∈ outputs e k ↔ Answers e k n l := by
  constructor
  · intro h
    cases k with
    | all =>
      obtain ⟨c, hc, heq⟩ := List.mem_map.1 h
      obtain ⟨rfl, rfl⟩ := Prod.mk.inj heq
      exact .all hc
    | _ =>
      obtain ⟨rfl, rfl⟩ := Prod.mk.inj (List.mem_singleton.1 h)
      constructor
  · rintro (_ | _ | _ | hc | _)
    case all => exact List.mem_map_of_mem hc
    all_goals exact List.mem_singleton.2 rfl

/-- The key was read from a text, and the column that it names is one of the entity. -/
structure IsSelectable (e : Entity) (k : FieldKey) : Prop where
  isRead : k.IsRead
  column {c : String} (hk : k = .column c ∨ k = .timestamp c) : c ∈ e.columns

variable {s : Scope} {groups : List (FieldKey × Predicate)} {v : Value} {k : FieldKey}
  {f : Predicate × FieldMap}

/-- The name of a property holds letters, digits, underscores, hyphens, dots and line ends. -/
lemma isComponentChar_of_pathName {components : List String}
    (h : FieldKey.IsRead (.path components)) :
    ∀ c ∈ (String.intercalate "." components).toList, FieldKey.IsComponentChar c := by
  obtain ⟨t, ht⟩ := h
  have hname : String.intercalate "." components = t := FieldKey.name_of_ofText? ht
  obtain ⟨t', hpath, heq⟩ := FieldKey.isPath_of_isRead ⟨t, ht⟩
  have hname' : String.intercalate "." components = t' := by
    rw [heq]
    exact Text.joined_split '.' t'
  rw [hname']
  exact FieldKey.isComponentChar_of_isPath hpath

lemma not_mem_pathAlias {e : Entity} (he : e.IsPlain) {components : List String}
    (h : FieldKey.IsRead (.path components)) {d : Char} (hname : FieldKey.isNameChar d = false)
    (hcomponent : ¬ FieldKey.IsComponentChar d) :
    d ∉ (pathAlias e (.path components)).toList := by
  intro hmem
  have hsplit : d ∈ e.container.toList ∨ d = '.' ∨
      d ∈ (String.intercalate "." components).toList := by
    simpa [pathAlias, FieldKey.name, or_assoc] using hmem
  rcases hsplit with hmem | rfl | hmem
  · rw [he.container.isNameChar d hmem] at hname
    cases hname
  · exact hcomponent (Or.inr (Or.inl rfl))
  · exact hcomponent (isComponentChar_of_pathName h d hmem)

/-- What is named by the quoted name of a property gives a column of that name. -/
lemma outputNames_pathAlias {e : Entity} (he : e.IsPlain) {components : List String}
    (h : FieldKey.IsRead (.path components)) (columns : List String) (t : String) :
    bare (t ++ " AS \"" ++ pathAlias e (.path components) ++ "\"") ≠ [] ∧
      outputNames columns (bare (t ++ " AS \"" ++ pathAlias e (.path components) ++ "\"")) =
        [pathAlias e (.path components)] := by
  have hno : ∀ d, FieldKey.isNameChar d = false → ¬ FieldKey.IsComponentChar d →
      d ∉ (pathAlias e (.path components)).toList := fun d => not_mem_pathAlias he h
  have hquoted : ∀ d, d ≠ '"' → FieldKey.isNameChar d = false → ¬ FieldKey.IsComponentChar d →
      d ∉ ("\"" ++ pathAlias e (.path components) ++ "\"").toList := by
    intro d hd hname hcomponent
    simp [hd, hno d hname hcomponent]
  have htext : t ++ " AS \"" ++ pathAlias e (.path components) ++ "\"" =
      t ++ " AS " ++ ("\"" ++ pathAlias e (.path components) ++ "\"") := by
    simp [← String.toList_inj]
  have hnamed := outputNames_bare_named
    (hquoted '$' (by decide) (by decide) (by unfold FieldKey.IsComponentChar; decide))
    (hquoted ' ' (by decide) (by decide) (by unfold FieldKey.IsComponentChar; decide)) columns t
  rwa [← htext,
    unquoted_quoted (hno '"' (by decide) (by unfold FieldKey.IsComponentChar; decide))] at hnamed

/-- An item of a select list gives the columns of a key their names. -/
structure Gives (e : Entity) (k : FieldKey) (p : Predicate) : Prop where
  ne_nil : bare p.text ≠ []
  names_eq : outputNames e.columns (bare p.text) = (outputs e k).map Prod.fst

/-- A selected key gives its columns their names, and maps them so. -/
lemma outputs_of_fieldItem (he : s.entity.IsPlain) (hk : FieldKey.parse v = .ok k)
    (hread : k.IsRead) (h : fieldItem s groups v = .ok f) :
    f.2 = outputs s.entity k ∧ IsSelectable s.entity k ∧ Gives s.entity k f.1 := by
  obtain ⟨k', hk', h⟩ := Result.bind_eq_ok_iff.1 h
  obtain rfl := Except.ok.inj (hk.symm.trans hk')
  obtain ⟨p, hp, h⟩ := Result.bind_eq_ok_iff.1 h
  have hcolumn : ∀ c, (k = .column c ∨ k = .timestamp c) →
      p.text = c ∧ c ∈ s.entity.columns := fun c hc => FieldKey.column_of_resolve hc hp
  have hselectable : IsSelectable s.entity k := ⟨hread, fun {c} hc => (hcolumn c hc).2⟩
  cases k with
  | column c =>
    obtain rfl := Except.ok.inj h
    obtain ⟨rfl, hmem⟩ := hcolumn c (Or.inl rfl)
    obtain ⟨hne, hnames⟩ := outputNames_plain (he.columns p.text hmem) s.entity.columns
    exact ⟨rfl, hselectable, hne, hnames⟩
  | timestamp c =>
    obtain rfl := Except.ok.inj h
    obtain ⟨rfl, hmem⟩ := hcolumn c (Or.inr rfl)
    obtain ⟨hne, hnames⟩ := outputNames_plain (he.columns p.text hmem) s.entity.columns
    exact ⟨rfl, hselectable, hne, hnames⟩
  | all =>
    obtain rfl := Except.ok.inj h
    have htext : p.text = "*" := Predicate.text_of_make_nil hp
    have hbare : bare p.text = ['*'] := by rw [htext]; rfl
    refine ⟨rfl, hselectable, by simp [hbare], ?_⟩
    simp [hbare, outputNames, outputs, Function.comp_def]
  | relations =>
    obtain ⟨q, hq, h⟩ := Result.bind_eq_ok_iff.1 h
    obtain rfl := Except.ok.inj h
    have hnamed := outputNames_bare_named (show '$' ∉ FieldKey.relationsColumn.toList by decide)
      (by decide) s.entity.columns p.text
    rw [← Predicate.bare_of_make hq] at hnamed
    exact ⟨rfl, hselectable, hnamed.1, hnamed.2⟩
  | path components =>
    obtain ⟨q, hq, h⟩ := Result.bind_eq_ok_iff.1 h
    obtain rfl := Except.ok.inj h
    have hnamed := outputNames_pathAlias he hread s.entity.columns
      ((groupedAs? groups (.path components)).getD p).text
    rw [← Predicate.bare_of_make hq] at hnamed
    exact ⟨rfl, hselectable, hnamed.1, hnamed.2⟩

/-! ### Names and keys tell each other -/

/-- A column that is given answers a key that begins with a dollar sign and goes on with its name,
or its name is a key behind the container and a dot. -/
lemma Answers.cases {e : Entity} {n l : String} (h : Answers e k n l) (hk : IsSelectable e k) :
    (l = "$" ++ n ∧ n ∈ "documents" :: e.columns) ∨
      (n = e.container ++ "." ++ l ∧ '$' ∉ l.toList) := by
  cases h with
  | column c => exact Or.inl ⟨rfl, List.mem_cons_of_mem _ (hk.column (Or.inl rfl))⟩
  | timestamp c => exact Or.inl ⟨rfl, List.mem_cons_of_mem _ (hk.column (Or.inr rfl))⟩
  | relations => exact Or.inl ⟨rfl, List.mem_cons_self⟩
  | all hc => exact Or.inl ⟨rfl, List.mem_cons_of_mem _ hc⟩
  | path components =>
    refine Or.inr ⟨rfl, fun hmem => ?_⟩
    exact (isComponentChar_of_pathName hk.isRead _ hmem).ne.2 rfl

/-- Two columns have one name exactly if they answer one logical key. -/
lemma Answers.name_eq_iff {e : Entity} (he : e.IsPlain) {k' : FieldKey} {n n' l l' : String}
    (h : Answers e k n l) (hk : IsSelectable e k) (h' : Answers e k' n' l')
    (hk' : IsSelectable e k') : n = n' ↔ l = l' := by
  have hdot : ∀ n ∈ "documents" :: e.columns, '.' ∉ n.toList := by
    intro n hn hmem
    rcases List.mem_cons.1 hn with rfl | hn
    · revert hmem
      decide
    · have hchar := (he.columns n hn).isNameChar '.' hmem
      revert hchar
      decide
  rcases h.cases hk with ⟨rfl, hn⟩ | ⟨rfl, hl⟩ <;> rcases h'.cases hk' with ⟨rfl, hn'⟩ | ⟨rfl, hl'⟩
  · simp
  · -- a reserved key begins with a dollar sign, and the name of its column has no dot
    refine iff_of_false ?_ ?_
    · rintro rfl
      exact hdot _ hn (by simp)
    · rintro rfl
      exact hl' (by simp)
  · refine iff_of_false ?_ ?_
    · rintro rfl
      exact hdot _ hn' (by simp)
    · rintro rfl
      exact hl (by simp)
  · simp

/-! ### Field maps -/

namespace FieldMap

variable {m : FieldMap} {column key : String}

lemma sets_put : Named.Sets put where
  nil _ _ := rfl
  cons column key a m := by
    rw [put]
    by_cases h : a.1 = column <;> simp [h]

/-- Setting a column for a key that it has already, if it has any, adds the pair. -/
lemma mem_put_iff (h : ∀ a ∈ m, a.1 = column → a.2 = key) {a : String × String} :
    a ∈ put column key m ↔ a = (column, key) ∨ a ∈ m := by
  induction m with
  | nil => simp [put]
  | cons b m ih =>
    have hrest := ih fun a ha => h a (List.mem_cons_of_mem b ha)
    rw [put]
    split
    · next hb =>
      have hb : b.1 = column := by simpa using hb
      have hpair : (b.1, key) = b := by rw [← h b List.mem_cons_self hb]
      have hpair' : (column, key) = b := hb ▸ hpair
      rw [hpair, hpair', List.mem_cons]
      tauto
    · rw [List.mem_cons, hrest, List.mem_cons]
      tauto

/-- Columns that are set, each for one key, make a map of exactly these pairs. -/
lemma putAll_spec {extra : FieldMap}
    (h : ∀ a ∈ extra, ∀ b ∈ extra, a.1 = b.1 → a.2 = b.2) :
    ((putAll extra []).map Prod.fst).Nodup ∧ ∀ a, a ∈ putAll extra [] ↔ a ∈ extra := by
  suffices hfold : ∀ m : FieldMap, (m.map Prod.fst).Nodup →
      (∀ a ∈ m ++ extra, ∀ b ∈ m ++ extra, a.1 = b.1 → a.2 = b.2) →
      ((putAll extra m).map Prod.fst).Nodup ∧ ∀ a, a ∈ putAll extra m ↔ a ∈ m ∨ a ∈ extra by
    simpa using hfold [] List.nodup_nil (by simpa using h)
  clear h
  induction extra with
  | nil => exact fun m hm _ => ⟨hm, by simp [putAll]⟩
  | cons e extra ih =>
    intro m hm hone
    have hput : ∀ a, a ∈ put e.1 e.2 m ↔ a = e ∨ a ∈ m := fun a =>
      mem_put_iff fun b hb heq => hone b (by simp [hb]) e (by simp) heq
    obtain ⟨hnodup, hmem⟩ := ih (put e.1 e.2 m) (sets_put.nodup hm e.1 e.2) (by
      intro a ha b hb
      refine hone a ?_ b ?_
      · rw [List.mem_append, hput] at ha
        simp only [List.mem_append, List.mem_cons]
        tauto
      · rw [List.mem_append, hput] at hb
        simp only [List.mem_append, List.mem_cons]
        tauto)
    refine ⟨hnodup, fun a => (hmem a).trans ?_⟩
    rw [hput, List.mem_cons]
    tauto

end FieldMap

/-! ### The fields of a search -/

/-- A key that a value names is selected as the value is. -/
lemma fieldItem_congr {w : Value} (h : FieldKey.parse v = FieldKey.parse w) (s : Scope)
    (groups : List (FieldKey × Predicate)) : fieldItem s groups v = fieldItem s groups w := by
  rw [fieldItem, fieldItem, h]

/-- The related documents are selected whenever there are any. -/
lemma exists_documents_field {t : Traits} {documents : List Value} (hcount : t.count = false)
    (hne : documents.isEmpty = false) :
    ∃ w ∈ selectedKeys t documents, FieldKey.parse w = FieldKey.parse (.text "$documents") := by
  unfold selectedKeys
  split
  · exact ⟨.text "$documents", by simp, rfl⟩
  · next hcond =>
    have hany : t.fields.any (fun f => f.same (.text "$documents")) = true := by
      simpa [hcount, hne] using hcond
    obtain ⟨w, hw, hsame⟩ := List.any_eq_true.1 hany
    have htext : w.asText? = some "$documents" := by
      simpa [Value.same_of_asText?_right (show (Value.text "$documents").asText? = _ from rfl)]
        using hsame
    have hparse : FieldKey.parse (.text "$documents") = .ok .relations := rfl
    exact ⟨w, hw, hparse ▸ (FieldKey.parse_eq_ok_iff htext).2 rfl⟩

/-- The key of the map of a built-in entity is read, and gives the column its name again. -/
lemma exists_key_of_answers {e : Entity} (he : e ∈ Entity.builtIn) {n l : String}
    (h : Answers e k n l) (hk : IsSelectable e k) :
    ∃ k', FieldKey.ofText? l = some k' ∧ outputs e k' = [(n, l)] ∧
      (k' = k ∨ ∃ c ∈ e.columns, k' = .column c ∨ k' = .timestamp c) := by
  obtain ⟨t, ht⟩ := hk.isRead
  have hname := FieldKey.name_of_ofText? ht
  cases h with
  | all hc =>
    have hread : ∀ e ∈ Entity.builtIn, ∀ c ∈ e.columns, FieldKey.ofText? ("$" ++ c) =
        some (if FieldKey.timestampColumns.contains c then .timestamp c else .column c) := by
      decide
    refine ⟨_, hread e he n hc, ?_, Or.inr ⟨n, hc, ?_⟩⟩
    · split <;> rfl
    · split
      · exact Or.inr rfl
      · exact Or.inl rfl
  | column c => exact ⟨_, by rw [← ht, ← hname]; rfl, rfl, Or.inl rfl⟩
  | timestamp c => exact ⟨_, by rw [← ht, ← hname]; rfl, rfl, Or.inl rfl⟩
  | relations => exact ⟨_, by rw [← ht, ← hname]; rfl, rfl, Or.inl rfl⟩
  | path components => exact ⟨_, by rw [← ht, ← hname]; rfl, rfl, Or.inl rfl⟩

/-- Selected keys give their columns their names, and map them so. -/
lemma outputs_of_fieldItems (he : s.entity.IsPlain) {names : List Value}
    {fields : List (Predicate × FieldMap)} (hnames : ∀ name ∈ names, Filter.NamesRead name)
    (h : fieldItems s groups names = .ok fields) :
    ∃ keys, List.Forall₂ (fun name k => FieldKey.parse name = .ok k) names keys ∧
      (∀ k ∈ keys, IsSelectable s.entity k) ∧
      fields.flatMap Prod.snd = keys.flatMap (outputs s.entity) ∧
      List.Forall₂ (Gives s.entity) keys (fields.map Prod.fst) := by
  have heach := forall₂_fieldItems h
  clear h
  induction heach with
  | nil => exact ⟨[], .nil, by simp, rfl, .nil⟩
  | @cons name f names fields hf _ ih =>
    obtain ⟨keys, hkeys, hselectable, hmaps, hitems⟩ :=
      ih fun v hv => hnames v (List.mem_cons_of_mem name hv)
    obtain ⟨k, hk, -⟩ := Result.bind_eq_ok_iff.1 hf
    obtain ⟨hmap, hselect, hitem⟩ :=
      outputs_of_fieldItem he hk (hnames name List.mem_cons_self k hk) hf
    refine ⟨k :: keys, .cons hk hkeys, ?_, ?_, .cons hitem hitems⟩
    · simpa [hselect] using hselectable
    · rw [List.flatMap_cons, List.flatMap_cons, hmap, hmaps]

/-- A map that is filled by keys has one entry for each name that they give, and no other ones. -/
lemma putAll_outputs {e : Entity} (he : e.IsPlain) {keys : List FieldKey}
    (hkeys : ∀ k ∈ keys, IsSelectable e k) :
    ((FieldMap.putAll (keys.flatMap (outputs e)) []).map Prod.fst).Nodup ∧
      ∀ n l, (n, l) ∈ FieldMap.putAll (keys.flatMap (outputs e)) [] ↔
        ∃ k ∈ keys, Answers e k n l := by
  have hone : ∀ a ∈ keys.flatMap (outputs e), ∀ b ∈ keys.flatMap (outputs e),
      a.1 = b.1 → a.2 = b.2 := by
    intro a ha b hb heq
    obtain ⟨k, hk, ha⟩ := List.mem_flatMap.1 ha
    obtain ⟨k', hk', hb⟩ := List.mem_flatMap.1 hb
    exact ((mem_outputs_iff.1 ha).name_eq_iff he (hkeys k hk) (mem_outputs_iff.1 hb)
      (hkeys k' hk')).1 heq
  obtain ⟨hnodup, hmem⟩ := FieldMap.putAll_spec hone
  refine ⟨hnodup, fun n l => ?_⟩
  rw [hmem, List.mem_flatMap]
  simp only [mem_outputs_iff]

/-- A key of the map can be selected again. -/
lemma fieldItem_again (he : s.entity ∈ Entity.builtIn) {n l : String}
    (hk : FieldKey.parse v = .ok k) (hselect : IsSelectable s.entity k)
    (hf : fieldItem s groups v = .ok f) (h : Answers s.entity k n l) :
    ∃ f', fieldItem s groups (.text l) = .ok f' ∧ f'.2 = [(n, l)] := by
  have hplain := Entity.isPlain_of_mem_builtIn _ he
  obtain ⟨k', hread, houtputs, hcases⟩ := exists_key_of_answers he h hselect
  have hk' : FieldKey.parse (.text l) = .ok k' := (FieldKey.parse_eq_ok_iff rfl).2 hread
  rcases hcases with rfl | ⟨c, hc, hcolumn⟩
  · refine ⟨f, ?_, ?_⟩
    · rw [fieldItem_congr (hk'.trans hk.symm), hf]
    · rw [(outputs_of_fieldItem hplain hk hselect.isRead hf).1, houtputs]
  · have hhas : s.entity.hasColumn c = true := by simpa [Entity.hasColumn] using hc
    have hcount := countPlaceholders_of_no_dollar (hplain.columns c hc).inert.no_dollar
    refine ⟨(⟨c, [], [(.text "key", .text c)]⟩, outputs s.entity k'), ?_, houtputs⟩
    have hdenotes : FieldKey.Denotes s.entity false k' c [(.text "key", .text c)] := by
      rcases hcolumn with rfl | rfl
      · exact .column hhas
      · exact .timestamp hhas rfl
    rw [fieldItem, hk']
    rcases hcolumn with rfl | rfl
    all_goals
      exact Result.bind_eq_ok_iff.2 ⟨_, rfl, Result.bind_eq_ok_iff.2
        ⟨_, hdenotes.resolveColumn_eq.trans (Predicate.make_of_count hcount _), rfl⟩⟩

/-! ### Statements -/

/-- The field map of a statement whose select list renders keys of an entity: it has the names that
the items of the list give, each once, and each for the logical key as which it was selected; and
the names and the logical keys tell each other. -/
structure NamesOutputs (e : Entity) (keys : List FieldKey) (items : List Predicate)
    (m : FieldMap) : Prop where
  nodup : (m.map Prod.fst).Nodup
  mem_iff : ∀ n l, (n, l) ∈ m ↔ ∃ k ∈ keys, Answers e k n l
  rendered : List.Forall₂ (fun k p => ∀ n,
    n ∈ outputNames e.columns (bare p.text) ↔ ∃ l, Answers e k n l) keys items
  names_iff : ∀ n, n ∈ m.map Prod.fst ↔ ∃ p ∈ items, n ∈ outputNames e.columns (bare p.text)
  name_eq_iff : ∀ a ∈ m, ∀ b ∈ m, a.1 = b.1 ↔ a.2 = b.2

lemma namesOutputs_of_gives {e : Entity} (he : e.IsPlain) {keys : List FieldKey}
    {items : List Predicate} (hkeys : ∀ k ∈ keys, IsSelectable e k)
    (hitems : List.Forall₂ (Gives e) keys items) :
    NamesOutputs e keys items (FieldMap.putAll (keys.flatMap (outputs e)) []) := by
  obtain ⟨hnodup, hmem⟩ := putAll_outputs he hkeys
  have hrendered : List.Forall₂ (fun k p => ∀ n,
      n ∈ outputNames e.columns (bare p.text) ↔ ∃ l, Answers e k n l) keys items := by
    refine hitems.imp fun k p hp n => ?_
    simp [hp.names_eq, mem_outputs_iff]
  refine ⟨hnodup, hmem, hrendered, fun n => ?_, ?_⟩
  · have hname : n ∈ (FieldMap.putAll (keys.flatMap (outputs e)) []).map Prod.fst ↔
        ∃ k ∈ keys, ∃ l, Answers e k n l := by
      simp only [List.mem_map, Prod.exists, exists_and_right, exists_eq_right, hmem]
      tauto
    rw [hname]
    clear hmem hnodup hkeys hname hitems
    induction hrendered with
    | nil => simp
    | cons hp _ ih => simp only [List.mem_cons, exists_eq_or_imp, ih, hp n]
  · rintro ⟨n, l⟩ ha ⟨n', l'⟩ hb
    obtain ⟨k, hk, ha⟩ := (hmem n l).1 ha
    obtain ⟨k', hk', hb⟩ := (hmem n' l').1 hb
    exact ha.name_eq_iff he (hkeys k hk) hb (hkeys k' hk')

/-- The items of a select list, with commas between them, if there are any. -/
def commaList (items : List Predicate) : List (List Char) :=
  if items.isEmpty then [] else [", ".toList.intercalate (items.map fun p => bare p.text)]

/-- The items stand in the statement behind `SELECT` and before the table. -/
def ListedIn (table : String) (items : List Predicate) (c : CompiledQuery) : Prop :=
  ∃ rest, bare c.text = [' '].intercalate
    ("SELECT".toList :: (commaList items ++ "FROM".toList :: table.toList :: rest))

/-- A select list without empty items is printed with all of them. -/
lemma listedIn_of_compile {q : Query} {c : CompiledQuery} (hmethod : q.method = .select)
    (htable : IsPlainName q.table) (hitems : ∀ p ∈ q.fields, bare p.text ≠ [])
    (h : q.compile = .ok c) : ListedIn q.table q.fields c := by
  obtain ⟨fields, group, order, hfields, -, -, htext⟩ := Query.compile_whereIn h
  rw [Query.selectList, hmethod] at hfields
  have hsep : Predicate.Separates ", " := ⟨⟨',', rfl, by decide⟩, by decide⟩
  have hlist : bare fields.text = ", ".toList.intercalate (q.fields.map fun p => bare p.text) := by
    rw [Predicate.bare_chain hsep hfields, List.filter_eq_self.2 fun p hp => ?_]
    simpa using Predicate.bare_ne_nil_iff.1 (hitems p hp)
  have hbare : bare q.table = q.table.toList := bare_of_no_dollar htable.inert.no_dollar
  have hne : q.table.toList ≠ [] := by
    intro hnil
    rw [IsPlainName, hnil] at htable
    cases htable
  have hparts : Predicate.bareParts [.text "SELECT", .predicate fields, .text "FROM",
      .text q.table] =
        "SELECT".toList :: (commaList q.fields ++ ["FROM".toList, q.table.toList]) := by
    have hselect : bare "SELECT" = "SELECT".toList := rfl
    have hfrom : bare "FROM" = "FROM".toList := rfl
    cases hitem : q.fields with
    | nil =>
      rw [hitem] at hlist
      simp [Predicate.bareParts, Predicate.Part.bare, hlist, hbare, hselect, hfrom, hne, commaList]
    | cons p ps =>
      have hp : bare p.text ≠ [] := hitems p (by simp [hitem])
      have hfirst : [',', ' '].intercalate (bare p.text :: ps.map fun p => bare p.text) ≠ [] := by
        cases ps <;> simp [List.intercalate_cons_cons, hp]
      rw [hitem] at hlist
      simp [Predicate.bareParts, Predicate.Part.bare, hbare, hselect, hfrom, hne, commaList, hfirst,
        hlist]
  refine ⟨(q.whereText.elim [] fun condition => ["WHERE".toList, condition]) ++
    Predicate.bareParts (group ++ order ++ q.limitClause ++ q.offsetClause), ?_⟩
  rw [htext, hparts]
  simp only [List.cons_append, List.append_assoc, List.nil_append]

/-- A single key is selected, with the related documents if there are any. -/
lemma exists_fieldItems_again {t : Traits} {documents : List Value}
    {fields : List (Predicate × FieldMap)} {name : Value} (hcount : t.count = false)
    (heach : List.Forall₂ (fun name f => fieldItem s groups name = .ok f)
      (selectedKeys t documents) fields) (hf : fieldItem s groups name = .ok f) :
    ∃ fs, fieldItems s groups (selectedKeys { t with fields := [name] } documents) =
      .ok (f :: fs) := by
  rw [selectedKeys]
  split
  · next hcond =>
    have hne : documents.isEmpty = false := by
      simp only [Bool.and_eq_true, Bool.not_eq_true'] at hcond
      exact hcond.1.1
    obtain ⟨w, hw, hparse⟩ := exists_documents_field hcount hne
    obtain ⟨g, -, hg⟩ := Result.exists_of_forall₂ heach hw
    rw [fieldItem_congr hparse] at hg
    refine ⟨[g], ?_⟩
    simp only [List.singleton_append, fieldItems, hf, hg]
    rfl
  · refine ⟨[], ?_⟩
    simp only [fieldItems, hf]
    rfl

lemma fieldMap_of_compile {q : Query} {c : CompiledQuery} (h : q.compile = .ok c) :
    c.fieldMap = q.fieldMap := by
  obtain ⟨_, -, h⟩ := Result.bind_eq_ok_iff.1 h
  obtain ⟨_, -, h⟩ := Result.bind_eq_ok_iff.1 h
  obtain ⟨_, -, h⟩ := Result.bind_eq_ok_iff.1 h
  obtain ⟨_, -, h⟩ := Result.bind_eq_ok_iff.1 h
  rw [← Except.ok.inj h]

/-- A logical key that a selected key answers is selected in its place, and its column has the name
that it had. -/
lemma outputs_again {t : Traits} {documents : List Value} {fields : List (Predicate × FieldMap)}
    {keys : List FieldKey} {n l : String} (he : s.entity ∈ Entity.builtIn)
    (hcount : t.count = false)
    (hfields : fieldItems s groups (selectedKeys t documents) = .ok fields)
    (hkeys : List.Forall₂ (fun name k => FieldKey.parse name = .ok k) (selectedKeys t documents)
      keys)
    (hk : k ∈ keys) (hselect : IsSelectable s.entity k) (h : Answers s.entity k n l) :
    ∃ p fs, fieldItems s groups (selectedKeys { t with fields := [.text l] } documents) =
        .ok (p :: fs) ∧
      outputNames s.entity.columns (bare p.1.text) = [n] ∧
      (n, l) ∈ FieldMap.putAll ((p :: fs).flatMap Prod.snd) [] := by
  have hplain := Entity.isPlain_of_mem_builtIn _ he
  have heach := forall₂_fieldItems hfields
  obtain ⟨name, hname, hparse⟩ := Result.exists_of_forall₂ hkeys.flip hk
  obtain ⟨f, -, hf⟩ := Result.exists_of_forall₂ heach hname
  obtain ⟨p, hp, hmap⟩ := fieldItem_again he hparse hselect hf h
  obtain ⟨fs, hfs⟩ := exists_fieldItems_again hcount heach hp
  refine ⟨p, fs, hfs, ?_, ?_⟩
  · obtain ⟨k', hk', -⟩ := Result.bind_eq_ok_iff.1 hp
    obtain ⟨houtputs, -, hgives⟩ :=
      outputs_of_fieldItem hplain hk' (Filter.namesRead_text l k' hk') hp
    rw [hgives.names_eq, ← houtputs, hmap]
    rfl
  · obtain ⟨keys', -, hselectable, hmaps, -⟩ := outputs_of_fieldItems hplain
      (namesRead_selectedKeys (t := { t with fields := [.text l] })
        (by simpa using Filter.namesRead_text l) documents) hfs
    have hmem : (n, l) ∈ keys'.flatMap (outputs s.entity) := by
      rw [← hmaps, List.flatMap_cons, hmap]
      exact List.mem_append_left _ List.mem_cons_self
    obtain ⟨k', hk', hmem⟩ := List.mem_flatMap.1 hmem
    rw [hmaps]
    exact ((putAll_outputs hplain hselectable).2 n l).2 ⟨k', hk', mem_outputs_iff.1 hmem⟩

/-- The field map of a search of a built-in entity that selects: its names are exactly those of the
items of the printed select list, each once and for the logical key as which it was selected, and
names and logical keys tell each other.  A logical key of the map that is selected again is read,
and gives its column the name that it has in the map. -/
theorem select_outputs {env : Environment} {s : Search} {lookup : Option TypeLookup}
    {traits : TraitsArgument} {t : Traits} {c : CompiledQuery} (hs : s.entity ∈ Entity.builtIn)
    (ht : traits.resolve env.defaults = .ok t) (hcount : t.count = false)
    (hread : ∀ name ∈ t.fields, Filter.NamesRead name) (h : s.select env lookup traits = .ok c) :
    ∃ (documents : List Value) (keys : List FieldKey) (items : List Predicate),
      List.Forall₂ (fun name k => FieldKey.parse name = .ok k) (selectedKeys t documents) keys ∧
      ListedIn s.entity.table items c ∧ NamesOutputs s.entity keys items c.fieldMap ∧
      ∀ m ∈ c.fieldMap, ∃ q p ps,
        s.build env lookup { t with fields := [.text m.2] } = .ok q ∧ q.fields = p :: ps ∧
        outputNames s.entity.columns (bare p.text) = [m.1] ∧ m ∈ q.fieldMap := by
  have hplain := Entity.isPlain_of_mem_builtIn _ hs
  obtain ⟨u, hu, h⟩ := Result.bind_eq_ok_iff.1 h
  obtain rfl := Except.ok.inj (hu.symm.trans ht)
  obtain ⟨q, hq, hc⟩ := Result.bind_eq_ok_iff.1 h
  obtain ⟨type, documents, groups, fields, -, -, -, hfields, hitems, hmethod, htable, hmap,
    hagain⟩ := fields_of_select hcount hq
  generalize hscope : s.scope env type documents = scope at hfields hagain
  have hentity : scope.entity = s.entity := hscope ▸ rfl
  rw [← hentity] at hs hplain
  obtain ⟨keys, hkeys, hselectable, hmaps, hgives⟩ :=
    outputs_of_fieldItems hplain (namesRead_selectedKeys hread documents) hfields
  have houtputs := namesOutputs_of_gives hplain hselectable hgives
  rw [← hmaps, ← hmap, ← fieldMap_of_compile hc, ← hitems] at houtputs
  rw [← hitems] at hgives
  refine ⟨documents, keys, q.fields, hkeys, ?_, hentity ▸ houtputs, ?_⟩
  · rw [← htable]
    refine listedIn_of_compile hmethod (htable ▸ hentity ▸ hplain.table) (fun p hp => ?_) hc
    obtain ⟨k, -, hk⟩ := Result.exists_of_forall₂ hgives.flip hp
    exact hk.ne_nil
  · rintro ⟨n, l⟩ hm
    obtain ⟨k, hk, hanswers⟩ := (houtputs.mem_iff n l).1 hm
    obtain ⟨p, fs, hfs, hname, hmem⟩ :=
      outputs_again hs hcount hfields hkeys hk (hselectable k hk) hanswers
    exact ⟨_, p.1, fs.map Prod.fst, hagain [.text l] (p :: fs) hfs, rfl, hentity ▸ hname, hmem⟩

/-- All columns, one of them again, and a property. -/
def starredColumns : TraitsArgument :=
  .given (.dict [(.text "fields", .list [.text "$*", .text "$id", .text "a"]),
    (.text "order", .list [])])

/-- Libraries of code. -/
def allLibs : Search := ⟨.lib, .null, .null⟩

lemma resolve_starredColumns :
    ∃ t, starredColumns.resolve sampleEnvironment.defaults = .ok t ∧ t.count = false ∧
      t.fields = [.text "$*", .text "$id", .text "a"] :=
  ⟨_, rfl, rfl, rfl⟩

set_option maxRecDepth 4000 in
lemma select_starredColumns :
    (allLibs.select sampleEnvironment none starredColumns).map (fun c => (c.text, c.fieldMap)) =
      .ok ("SELECT *, id, (meta -> 'a'::text) AS \"meta.a\" FROM libs",
        [("id", "$id"), ("name", "$name"), ("content", "$content"), ("meta", "$meta"),
          ("created", "$created"), ("modified", "$modified"), ("meta.a", "a")]) :=
  Result.map_eq_ok_of_beq (by decide +kernel)

/-- Each column is in the map once, and the property is selected again under its name. -/
theorem starredColumns_outputs :
    ∃ t c, allLibs.entity ∈ Entity.builtIn ∧
      starredColumns.resolve sampleEnvironment.defaults = .ok t ∧ t.count = false ∧
      (∀ name ∈ t.fields, Filter.NamesRead name) ∧
      allLibs.select sampleEnvironment none starredColumns = .ok c ∧
      c.text = "SELECT *, id, (meta -> 'a'::text) AS \"meta.a\" FROM libs" ∧
      ("meta.a", "a") ∈ c.fieldMap ∧ (c.fieldMap.map Prod.fst).Nodup ∧
      ∃ q p ps, allLibs.build sampleEnvironment none { t with fields := [.text "a"] } = .ok q ∧
        q.fields = p :: ps ∧ outputNames Entity.lib.columns (bare p.text) = ["meta.a"] := by
  obtain ⟨t, ht, hcount, hfields⟩ := resolve_starredColumns
  obtain ⟨c, hc, hshown⟩ := Result.map_eq_ok_iff.1 select_starredColumns
  obtain ⟨htext, hmap⟩ := Prod.mk.inj hshown
  have hmem : ("meta.a", "a") ∈ c.fieldMap := by simp [hmap]
  have hread : ∀ name ∈ t.fields, Filter.NamesRead name := by
    rw [hfields]
    intro name hname
    simp only [List.mem_cons, List.not_mem_nil, or_false] at hname
    rcases hname with rfl | rfl | rfl <;> exact Filter.namesRead_text _
  have hentity : allLibs.entity ∈ Entity.builtIn := by decide
  obtain ⟨documents, keys, items, -, -, houtputs, hagain⟩ :=
    select_outputs hentity ht hcount hread hc
  obtain ⟨q, p, ps, hq, hp, hname, -⟩ := hagain _ hmem
  exact ⟨t, c, hentity, ht, hcount, hread, hc, htext, hmem, houtputs.nodup, q, p, ps, hq, hp, hname⟩

end Search

end DocumentSql

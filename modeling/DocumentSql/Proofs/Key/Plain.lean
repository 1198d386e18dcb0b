/-
Keys and names without quotes.

The names of tables and columns enter a statement as they are, and the components of a path stand
inside a quoted literal.  Neither disturbs the reading of the text around it: names are plain
identifiers, and a key that was read from a text has only letters, digits, underscores, hyphens
and a line end in its components.  So the expression of a key has closed literals, and it has a
parameter for each of its placeholders (`resolve_sound`).
-/
import DocumentSql.Proofs.Sql.Fragment
import DocumentSql.Key.Resolve

namespace DocumentSql

open Sql

namespace FieldKey

lemma ne_of_isNameChar {c : Char} (h : isNameChar c = true) : c ≠ '\'' ∧ c ≠ '$' := by
  constructor <;> rintro rfl <;> revert h <;> decide

lemma ne_of_isPathChar {c : Char} (h : isPathChar c = true) : c ≠ '\'' ∧ c ≠ '$' := by
  constructor <;> rintro rfl <;> revert h <;> decide

lemma isNameChar_of_isNameStart {c : Char} (h : isNameStart c = true) : isNameChar c = true := by
  simp only [isNameStart, isNameChar, Char.isAlphanum, Bool.or_eq_true] at h ⊢
  tauto

end FieldKey

/-! ### Plain names -/

/-- The characters are those of a plain identifier of SQL: letters and digits of ASCII and
underscores, and no digit at the start. -/
def isPlainName : List Char → Bool
  | [] => false
  | c :: cs => FieldKey.isNameStart c && cs.all FieldKey.isNameChar

/-- The text is a plain identifier of SQL. -/
def IsPlainName (s : String) : Prop := isPlainName s.toList = true

instance (s : String) : Decidable (IsPlainName s) := inferInstanceAs (Decidable (_ = true))

lemma isNameChar_of_isPlainName {cs : List Char} (h : isPlainName cs = true) :
    ∀ c ∈ cs, FieldKey.isNameChar c = true := by
  cases cs with
  | nil => simp
  | cons d ds =>
    rw [isPlainName, Bool.and_eq_true, List.all_eq_true] at h
    intro c hc
    rcases List.mem_cons.1 hc with rfl | hc
    · exact FieldKey.isNameChar_of_isNameStart h.1
    · exact h.2 c hc

namespace IsPlainName

variable {s : String}

lemma isNameChar (h : IsPlainName s) : ∀ c ∈ s.toList, FieldKey.isNameChar c = true :=
  isNameChar_of_isPlainName h

lemma inert (h : IsPlainName s) : Inert s :=
  ⟨fun hc => (FieldKey.ne_of_isNameChar (h.isNameChar _ hc)).1 rfl,
    fun hc => (FieldKey.ne_of_isNameChar (h.isNameChar _ hc)).2 rfl⟩

end IsPlainName

/-- The names that an entity brings into a statement are plain identifiers. -/
structure Entity.IsPlain (e : Entity) : Prop where
  table : IsPlainName e.table
  columns : ∀ c ∈ e.columns, IsPlainName c
  container : IsPlainName e.container
  discriminator : ∀ c ∈ e.discriminator, IsPlainName c

lemma Entity.IsPlain.of_hasColumn {e : Entity} (he : e.IsPlain) {c : String}
    (h : e.hasColumn c = true) : IsPlainName c :=
  he.columns c (by simpa [hasColumn] using h)

/-- All built-in entities have plain names. -/
theorem Entity.isPlain_of_mem_builtIn : ∀ e ∈ builtIn, e.IsPlain := by
  intro e he
  have hcolumns : ∀ e ∈ builtIn, ∀ c ∈ e.columns, IsPlainName c := by decide
  have hnames : ∀ e ∈ builtIn, IsPlainName e.table ∧ IsPlainName e.container ∧
      ∀ c ∈ e.discriminator, IsPlainName c := by decide
  exact ⟨(hnames e he).1, hcolumns e he, (hnames e he).2.1, (hnames e he).2.2⟩

/-- The names of the procedures hold no literals and no placeholders. -/
structure Procedures.IsInert (p : Procedures) : Prop where
  dispatch : Inert p.dispatch
  relations : Inert p.relations

lemma Procedures.isInert_standard : standard.IsInert :=
  ⟨by decide, by decide⟩

/-! ### Keys that are read from texts -/

namespace Text

lemma mem_of_mem_splitAll {sep : Char} {cs part : List Char} (h : part ∈ splitAll sep cs) :
    ∀ c ∈ part, c ∈ cs := by
  induction cs generalizing part with
  | nil =>
    obtain rfl : part = [] := by simpa [splitAll] using h
    simp
  | cons d cs ih =>
    intro c hc
    rw [splitAll] at h
    split at h
    · rcases List.mem_cons.1 h with rfl | h
      · simp at hc
      · exact List.mem_cons_of_mem d (ih h c hc)
    · split at h
      · obtain rfl : part = [d] := by simpa using h
        simp_all
      · next p ps hsplit =>
        rcases List.mem_cons.1 h with rfl | h
        · rcases List.mem_cons.1 hc with rfl | hc
          · simp
          · exact List.mem_cons_of_mem d (ih (by rw [hsplit]; simp) c hc)
        · exact List.mem_cons_of_mem d (ih (by rw [hsplit]; simp [h]) c hc)

lemma mem_splitAll_or_eq (sep : Char) {cs : List Char} {c : Char} (h : c ∈ cs) :
    c = sep ∨ ∃ part ∈ splitAll sep cs, c ∈ part := by
  induction cs with
  | nil => simp at h
  | cons d cs ih =>
    rw [splitAll]
    rcases List.mem_cons.1 h with rfl | h
    · split
      · next heq => exact Or.inl (by simpa using heq)
      · right
        split <;> simp
    · rcases ih h with hsep | ⟨part, hpart, hc⟩
      · exact Or.inl hsep
      · right
        split
        · exact ⟨part, by simp [hpart], hc⟩
        · split
          · next hnil => simp [hnil] at hpart
          · next p ps hsplit =>
            rw [hsplit] at hpart
            rcases List.mem_cons.1 hpart with rfl | hpart
            · exact ⟨d :: part, by simp, by simp [hc]⟩
            · exact ⟨part, by simp [hpart], hc⟩

end Text

namespace FieldKey

lemma mem_dropLineEnd_or_eq {cs : List Char} {c : Char} (h : c ∈ cs) :
    c = '\n' ∨ c ∈ dropLineEnd cs := by
  unfold dropLineEnd
  split
  · next hlast =>
    obtain ⟨ds, rfl⟩ : ∃ ds, cs = ds ++ ['\n'] :=
      List.getLast?_eq_some_iff.1 (by simpa using hlast)
    rcases List.mem_append.1 h with h | h
    · exact Or.inr (by simpa using h)
    · exact Or.inl (by simpa using h)
  · exact Or.inr h

lemma dropLineEnd_of_not_mem {cs : List Char} (h : '\n' ∉ cs) : dropLineEnd cs = cs := by
  rw [dropLineEnd, if_neg]
  intro hlast
  exact h (List.mem_of_getLast? (by simpa using hlast))

lemma mem_of_isColumnName {cs : List Char} (h : isColumnName cs = true) :
    ∀ c ∈ cs, isNameChar c = true ∨ c = '\n' := by
  intro c hc
  rcases mem_dropLineEnd_or_eq hc with rfl | hc
  · exact Or.inr rfl
  · exact Or.inl (isNameChar_of_isPlainName h c hc)

/-- A character that a component of a path may hold. -/
def IsComponentChar (c : Char) : Prop := isPathChar c = true ∨ c = '.' ∨ c = '\n'

lemma IsComponentChar.ne {c : Char} (h : IsComponentChar c) : c ≠ '\'' ∧ c ≠ '$' := by
  rcases h with h | rfl | rfl
  · exact ne_of_isPathChar h
  · decide
  · decide

lemma isComponentChar_of_isPath {cs : List Char} (h : isPath cs = true) :
    ∀ c ∈ cs, IsComponentChar c := by
  intro c hc
  rcases mem_dropLineEnd_or_eq hc with rfl | hc
  · exact Or.inr (Or.inr rfl)
  · rcases Text.mem_splitAll_or_eq '.' hc with rfl | ⟨part, hpart, hc⟩
    · exact Or.inr (Or.inl rfl)
    · have hcomponent := List.all_eq_true.1 h part hpart
      simp only [isComponent, Bool.and_eq_true, List.all_eq_true] at hcomponent
      exact Or.inl (hcomponent.2 c hc)

/-- The key that a text names: behind a dollar sign all columns, the related documents, moments and
columns, and a path otherwise. -/
inductive Names : String → FieldKey → Prop
  | all : Names "$*" all
  | relations : Names ("$" ++ relationsColumn) relations
  | timestamp {name : String} (h : name ∈ timestampColumns) : Names ("$" ++ name) (timestamp name)
  | column {name : String} (h : isColumnName name.toList = true)
    (hmoment : name ∉ timestampColumns) : Names ("$" ++ name) (column name)
  | path {s : String} (hs : s.toList.head? ≠ some '$') (h : isPath s.toList = true) :
    Names s (path (Text.split '.' s))

lemma names_of_ofText? {s : String} {k : FieldKey} (h : ofText? s = some k) : Names s k := by
  unfold ofText? at h
  split at h
  · next rest hs =>
    obtain rfl : s = "$" ++ String.ofList rest := by
      rw [← String.toList_inj]
      simp [hs]
    simp only [beq_iff_eq, List.contains_iff_mem] at h
    split_ifs at h with hall hrelations hmoment hname
    all_goals obtain rfl := Option.some.inj h
    · rw [hall]
      exact .all
    · rw [hrelations]
      exact .relations
    · exact .timestamp hmoment
    · exact .column (by simpa using hname) hmoment
  · next cs hdollar =>
    split_ifs at h with hpath
    obtain rfl := Option.some.inj h
    refine .path (fun hhead => ?_) hpath
    obtain ⟨rest, hrest⟩ := List.head?_eq_some_iff.1 hhead
    exact hdollar rest hrest

/-- The key is one that a text names. -/
def IsRead (k : FieldKey) : Prop := ∃ s, ofText? s = some k

lemma isPath_of_isRead {path : List String} (h : IsRead (.path path)) :
    ∃ s, isPath s.toList = true ∧ path = Text.split '.' s := by
  obtain ⟨s, hs⟩ := h
  cases names_of_ofText? hs with
  | path _ hpath => exact ⟨s, hpath, rfl⟩

/-- A column that a text names holds no moments. -/
lemma column_of_isRead {c : String} (h : IsRead (.column c)) :
    isColumnName c.toList = true ∧ c ∉ timestampColumns := by
  obtain ⟨s, hs⟩ := h
  cases names_of_ofText? hs with
  | column hname hmoment => exact ⟨hname, hmoment⟩

lemma timestamp_of_isRead {c : String} (h : IsRead (.timestamp c)) : c ∈ timestampColumns := by
  obtain ⟨s, hs⟩ := h
  cases names_of_ofText? hs with
  | timestamp hmoment => exact hmoment

lemma isComponentChar_of_isRead {path : List String} (h : IsRead (.path path)) :
    ∀ part ∈ path, ∀ c ∈ part.toList, IsComponentChar c := by
  obtain ⟨s, hpath, rfl⟩ := isPath_of_isRead h
  intro part hpart c hc
  obtain ⟨ds, hds, rfl⟩ := List.mem_map.1 hpart
  exact isComponentChar_of_isPath hpath c (Text.mem_of_mem_splitAll hds c (by simpa using hc))

/-- The components of a key that was read have only characters of components. -/
lemma not_mem_of_isRead {path : List String} (h : IsRead (.path path)) {c : Char}
    (hc : ¬ IsComponentChar c) : ∀ part ∈ path, c ∉ part.toList := fun part hpart hmem =>
  hc (isComponentChar_of_isRead h part hpart c hmem)

lemma no_blank_of_isRead {path : List String} (h : IsRead (.path path)) :
    ∀ part ∈ path, ' ' ∉ part.toList :=
  not_mem_of_isRead h (by unfold IsComponentChar; decide)

lemma inert_of_isRead {path : List String} (h : IsRead (.path path)) :
    ∀ part ∈ path, Inert part := fun part hpart =>
  ⟨fun hc => (isComponentChar_of_isRead h part hpart _ hc).ne.1 rfl,
    fun hc => (isComponentChar_of_isRead h part hpart _ hc).ne.2 rfl⟩

/-- What parsing gives was read from a text, if it was not given in parsed form. -/
lemma isRead_of_parse {v : Value} {k : FieldKey} (hv : ∀ l, v = .key l → l.IsRead)
    (h : parse v = .ok k) : k.IsRead := by
  unfold parse at h
  split at h
  · next l =>
    obtain rfl : l = k := by simpa using h
    exact hv l rfl
  · split at h
    · simp at h
    · next s _ =>
      split at h
      · next l hl =>
        obtain rfl : l = k := by simpa using h
        exact ⟨s, hl⟩
      · simp at h

/-! ### Expressions of keys -/

lemma inert_name {k : FieldKey} {path : List String} (hk : k = .path path) (h : k.IsRead) :
    Inert k.name := by
  subst hk
  exact Inert.intercalate (by decide) (inert_of_isRead h)

lemma count_navigate {container : String} (access : Access) {path : List String}
    (hcontainer : Inert container) (hpath : ∀ part ∈ path, Inert part) :
    (navigate container access path).toList.count '\'' = 2 := by
  have hno := List.count_eq_zero_of_not_mem hcontainer.no_quote
  unfold navigate
  split
  · next name =>
    have hname := List.count_eq_zero_of_not_mem (hpath name (by simp)).no_quote
    cases access <;> simp [Access.member, hno, hname]
  · have hnames := List.count_eq_zero_of_not_mem
      ((by decide : Inert ",").intercalate hpath).no_quote
    cases access <;>
      simp only [Access.path, String.toList_append, List.count_append, hno, hnames] <;> decide

lemma closed_navigate {container : String} (access : Access) {path : List String}
    (hcontainer : Inert container) (hpath : ∀ part ∈ path, Inert part) :
    Closed (navigate container access path).toList := by
  rw [Closed, count_navigate access hcontainer hpath]

/-! ### The fragment of a key -/

section Fragment

variable {procedures : Procedures} {e : Entity} {epoch : Bool} {documents : Value} {k : FieldKey}
  {p : Predicate} {text : String} {origin : Members}

/-- The text of the fragment of a key of an entity, and what the fragment tells of the key: for the
related documents that of their own column. -/
inductive Denotes (e : Entity) (epoch : Bool) : FieldKey → String → Members → Prop
  | path (components : List String) :
    Denotes e epoch (.path components) (navigate e.container .json components)
      [(.text "data_container", .text e.container), (.text "key", .text (path components).name)]
  | all : Denotes e epoch .all "*" [(.text "key", .text "*")]
  | relations : Denotes e epoch .relations relationsColumn [(.text "key", .text relationsColumn)]
  | column {c : String} (hc : e.hasColumn c = true) :
    Denotes e epoch (.column c) c [(.text "key", .text c)]
  | timestamp {c : String} (hc : e.hasColumn c = true) (hepoch : epoch = false) :
    Denotes e epoch (.timestamp c) c [(.text "key", .text c)]
  /-- A moment in milliseconds. -/
  | milliseconds {c : String} (hc : e.hasColumn c = true) (hepoch : epoch = true) :
    Denotes e epoch (.timestamp c) ("extract(epoch from " ++ c ++ ")*1000")
      [(.text "key", .text c)]

lemma Denotes.resolveColumn_eq (h : Denotes e epoch k text origin) :
    k.resolveColumn e epoch = Predicate.make text [] origin := by
  cases h with
  | path | all | relations => rfl
  | column hc => simp [resolveColumn, hc]
  | timestamp hc hepoch => simp [resolveColumn, hc, hepoch]
  | milliseconds hc hepoch => simp [resolveColumn, hc, hepoch]

/-- A key has no fragment for want of a column only. -/
lemma exists_denotes_or (e : Entity) (epoch : Bool) (k : FieldKey) :
    (∃ text origin, Denotes e epoch k text origin) ∨
      k.resolveColumn e epoch = .error (.noColumnForKey e.name (.text k.name)) := by
  cases k with
  | path components => exact Or.inl ⟨_, _, .path components⟩
  | all => exact Or.inl ⟨_, _, .all⟩
  | relations => exact Or.inl ⟨_, _, .relations⟩
  | column c =>
    by_cases hc : e.hasColumn c = true
    · exact Or.inl ⟨_, _, .column hc⟩
    · exact Or.inr (by simp [resolveColumn, hc])
  | timestamp c =>
    by_cases hc : e.hasColumn c = true
    · cases epoch with
      | false => exact Or.inl ⟨_, _, .timestamp hc rfl⟩
      | true => exact Or.inl ⟨_, _, .milliseconds hc rfl⟩
    · exact Or.inr (by simp [resolveColumn, hc])

lemma exists_denotes (h : k.resolveColumn e epoch = .ok p) :
    ∃ text origin, Denotes e epoch k text origin ∧ Predicate.make text [] origin = .ok p := by
  rcases exists_denotes_or e epoch k with ⟨text, origin, hk⟩ | herror
  · exact ⟨text, origin, hk, hk.resolveColumn_eq ▸ h⟩
  · simp [herror] at h

lemma params_of_resolveColumn (h : k.resolveColumn e epoch = .ok p) : p.params = [] := by
  obtain ⟨text, origin, -, hmake⟩ := exists_denotes h
  exact Predicate.params_of_make hmake

lemma resolve_of_ne (hk : k ≠ .relations) :
    k.resolve procedures e epoch documents = k.resolveColumn e epoch := by
  cases k with
  | relations => exact absurd rfl hk
  | _ => rfl

/-- The related documents are called for with the relations as the parameter. -/
lemma exists_text_of_resolve_relations
    (h : FieldKey.relations.resolve procedures e epoch documents = .ok p) :
    ∃ text, Predicate.make (procedures.relations ++ "(row_to_json(" ++ e.table ++ ".*), $::json)")
      [.text text] [(.text "key", .text relationsColumn)] = .ok p := by
  rw [resolve] at h
  obtain ⟨rs, -, h⟩ := Result.bind_eq_ok_iff.1 h
  obtain ⟨text, -, h⟩ := Result.bind_eq_ok_iff.1 h
  exact ⟨text, h⟩

/-- A column stands for itself where moments are not counted in milliseconds. -/
lemma column_of_resolve {c : String} (hk : k = .column c ∨ k = .timestamp c)
    (h : k.resolve procedures e false documents = .ok p) : p.text = c ∧ c ∈ e.columns := by
  have hne : k ≠ .relations := by rcases hk with rfl | rfl <;> simp
  rw [resolve_of_ne hne] at h
  obtain ⟨text, origin, hdenotes, hmake⟩ := exists_denotes h
  have hcolumn : text = c ∧ e.hasColumn c = true := by
    rcases hk with rfl | rfl
    · cases hdenotes with
      | column hc => exact ⟨rfl, hc⟩
    · cases hdenotes with
      | timestamp hc => exact ⟨rfl, hc⟩
      | milliseconds _ hepoch => simp at hepoch
  exact ⟨(Predicate.text_of_make_nil hmake).trans hcolumn.1,
    by simpa [Entity.hasColumn] using hcolumn.2⟩

/-- The expression of a key without parameters has closed literals and no placeholders. -/
theorem resolveColumn_sound (he : e.IsPlain) (hk : k.IsRead) (h : k.resolveColumn e epoch = .ok p) :
    p.Sound ∧ p.params = [] := by
  obtain ⟨text, origin, hdenotes, hmake⟩ := exists_denotes h
  refine ⟨Predicate.sound_of_make hmake ?_, Predicate.params_of_make hmake⟩
  cases hdenotes with
  | path => exact closed_navigate .json he.container.inert (inert_of_isRead hk)
  | all | relations => decide
  | column hc => exact (he.of_hasColumn hc).inert.closed
  | timestamp hc => exact (he.of_hasColumn hc).inert.closed
  | milliseconds hc =>
    exact ((Inert.append (by decide) (he.of_hasColumn hc).inert).append (by decide)).closed

/-- The expression of a key has closed literals and a parameter for each placeholder. Only the
related documents have one. -/
theorem resolve_sound (hprocedures : procedures.IsInert) (he : e.IsPlain) (hk : k.IsRead)
    (h : k.resolve procedures e epoch documents = .ok p) :
    p.Sound ∧ (k ≠ .relations → p.params = []) := by
  by_cases hrel : k = .relations
  · subst hrel
    obtain ⟨text, hmake⟩ := exists_text_of_resolve_relations h
    refine ⟨Predicate.sound_of_make hmake (closed_of_not_mem ?_), fun hne => absurd rfl hne⟩
    simp [hprocedures.relations.no_quote, he.table.inert.no_quote]
  · obtain ⟨hsound, hparams⟩ := resolveColumn_sound he hk (resolve_of_ne hrel ▸ h)
    exact ⟨hsound, fun _ => hparams⟩

end Fragment

end FieldKey

end DocumentSql

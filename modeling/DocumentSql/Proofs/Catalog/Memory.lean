/-
What a catalog in memory answers, and what it holds after a statement.

A catalog is known by the definitions that it holds under names (`MemoryCatalog.held`).  Asking
for an index leaves them as they are; creating an index sets what is held under its name, and
dropping it removes that, and nothing else changes.
-/
import DocumentSql.Proofs.Index.Spec
import DocumentSql.Proofs.Value.Members
import DocumentSql.Catalog.Memory

namespace DocumentSql

namespace MemoryCatalog

/-- What is held under a name. -/
abbrev Holdings := String → Option Value

/-- The definitions that a catalog holds. -/
def held (m : MemoryCatalog) : Holdings := fun name => Members.getText? m.indexes name

/-! ### Words of statements -/

lemma after?_append_of_ne {c : Char} {as : List Char} (p bs : List Char) (hc : c ≠ ' ')
    (has : c ∉ as) : Text.after? (' ' :: c :: p) (as ++ ' ' :: bs) = none ∨ as = [] := by
  cases as with
  | nil => exact Or.inr rfl
  | cons a as =>
    left
    rw [List.cons_append, Text.after?]
    split
    · cases as with
      | nil => simp [Text.after?, hc]
      | cons b as =>
        have hne : c ≠ b := by
          rintro rfl
          simp at has
        simp [Text.after?, hne]
    · rfl

/-- The first separator stands behind a text that does not hold its first letter. -/
lemma cutFirst?_separator {as : List Char} (has : 'O' ∉ as) (bs : List Char) :
    cutFirst? separator (as ++ separator ++ bs) = some (as, bs) := by
  have hseparator : separator = ' ' :: 'O' :: ['N', ' '] := by simp [separator]
  rw [hseparator]
  induction as with
  | nil => simp [cutFirst?, Text.after?]
  | cons a as ih =>
    have hnone := (after?_append_of_ne ['N', ' '] ('O' :: 'N' :: ' ' :: bs) (by decide)
      has).resolve_right (by simp)
    simp only [List.cons_append, List.append_assoc, List.nil_append] at hnone ⊢
    rw [cutFirst?, hnone]
    have hrest := ih fun hmem => has (List.mem_cons_of_mem a hmem)
    simp only [List.cons_append, List.append_assoc, List.nil_append] at hrest
    rw [hrest]
    rfl

/-- The last word of a text is what stands behind its last blank. -/
lemma lastWord_append {as word : List Char} (hne : word ≠ []) (hword : ' ' ∉ word) :
    lastWord (as ++ ' ' :: word) = word := by
  obtain ⟨c, cs, hcs⟩ := List.exists_cons_of_ne_nil (List.reverse_ne_nil_iff.2 hne)
  have hc : c ≠ ' ' := by
    rintro rfl
    exact hword (List.mem_reverse.1 (hcs ▸ List.mem_cons_self))
  have hall : ∀ d ∈ word.reverse, (d != ' ') = true := by
    intro d hd
    rw [bne_iff_ne]
    rintro rfl
    exact hword (List.mem_reverse.1 hd)
  have hreverse : (as ++ ' ' :: word).reverse = word.reverse ++ ' ' :: as.reverse := by simp
  have hkept : (word.reverse ++ ' ' :: as.reverse).dropWhile (· == ' ') =
      word.reverse ++ ' ' :: as.reverse := by
    rw [hcs, List.cons_append, List.dropWhile_cons_of_neg (by simpa using hc)]
  rw [lastWord, hreverse, hkept, List.takeWhile_append_of_pos hall,
    List.takeWhile_cons_of_neg (by simp), List.append_nil, List.reverse_reverse]

/-! ### Statements -/

variable {m : MemoryCatalog} {name : String}

lemma getText?_without (ms : Members) (name key : String) :
    Members.getText? (without ms (.text name)) key =
      if key = name then none else Members.getText? ms key := by
  have hsame : ∀ i : Value × Value, i.1.same (.text name) = (i.1.asText? == some name) :=
    fun i => Value.same_text i.1 name
  simp only [without, hsame]
  induction ms with
  | nil => simp
  | cons i ms ih =>
    rw [List.filter_cons, Members.getText?_cons]
    by_cases hi : i.1.asText? = some name
    · rw [if_neg (by simp [hi]), ih, hi]
      by_cases hkey : key = name
      · simp [hkey]
      · have hne : ¬ name = key := fun h => hkey h.symm
        simp [hkey, hne]
    · rw [if_pos (by simpa using hi), Members.getText?_cons, ih]
      by_cases hkey : key = name
      · subst hkey
        simp [hi]
      · simp [hkey]

/-- Asking whether there is an index. -/
lemma execute_exists (schema : Value) :
    execute Catalog.existsText [schema, .text name] m =
      (.ok (if (m.held name).isSome then [[(.text "exists", .int 1)]] else []),
        m.record Catalog.existsText [schema, .text name]) := by
  have hbegins : begins "SELECT 1 FROM pg_indexes" Catalog.existsText = true := by decide
  simp only [execute, answer, hbegins, if_true]
  rfl

/-- Asking for the definition of an index. -/
lemma execute_definition (schema : Value) :
    execute Catalog.definitionText [schema, .text name] m =
      (.ok (match m.held name with
        | some d => [[(.text "indexdef", d)]]
        | none => []), m.record Catalog.definitionText [schema, .text name]) := by
  have hfirst : begins "SELECT 1 FROM pg_indexes" Catalog.definitionText = false := by decide
  have hbegins : begins "SELECT indexdef" Catalog.definitionText = true := by decide
  simp only [execute, answer, hfirst, hbegins, if_true, Bool.false_eq_true, if_false]
  rfl

/-- The catalog without the index of a name. -/
def dropped (m : MemoryCatalog) (text name : String) : MemoryCatalog :=
  { m.record text [] with indexes := without m.indexes (.text name) }

@[simp] lemma held_dropped (text : String) (key : String) :
    (m.dropped text name).held key = if key = name then none else m.held key :=
  getText?_without m.indexes name key

/-- Dropping an index. -/
lemma execute_drop {words : String}
    (hwords : words = "DROP INDEX " ∨ words = "DROP INDEX IF EXISTS ") (hne : name ≠ "")
    (hname : ' ' ∉ name.toList) :
    execute (words ++ name) [] m = (.ok [], m.dropped (words ++ name) name) := by
  have hword : lastWord (words ++ name).toList = name.toList := by
    have hsplit : ∃ cs, (words ++ name).toList = cs ++ ' ' :: name.toList := by
      rcases hwords with rfl | rfl
      · exact ⟨"DROP INDEX".toList, by simp⟩
      · exact ⟨"DROP INDEX IF EXISTS".toList, by simp⟩
    obtain ⟨cs, hcs⟩ := hsplit
    rw [hcs]
    exact lastWord_append (by simpa using hne) hname
  have hbegins : begins "SELECT 1 FROM pg_indexes" (words ++ name) = false ∧
      begins "SELECT indexdef" (words ++ name) = false ∧
      begins "SELECT indexname" (words ++ name) = false ∧
      begins "SELECT * FROM types" (words ++ name) = false ∧
      begins "DROP INDEX" (words ++ name) = true := by
    rcases hwords with rfl | rfl <;> simp [begins, List.isPrefixOf]
  obtain ⟨h₁, h₂, h₃, h₄, h₅⟩ := hbegins
  simp only [execute, answer, h₁, h₂, h₃, h₄, h₅, hword, if_true, Bool.false_eq_true, if_false,
    String.ofList_toList]
  rfl

/-- The table as a definition reports it. -/
def reportedTable (m : MemoryCatalog) (table : String) : String :=
  match m.form with
  | .qualify => m.schemaName ++ "." ++ table
  | _ => table

/-- The catalog with a definition under a name. -/
def created (m : MemoryCatalog) (text name definition : String) : MemoryCatalog :=
  { m.record text [] with indexes := Members.insert (.text name) (.text definition) m.indexes }

@[simp] lemma held_created (text definition key : String) :
    (m.created text name definition).held key =
      if key = name then some (.text definition) else m.held key := by
  have hkey : Members.getText? (Members.insert (.text name) (.text definition) m.indexes) key =
      if name = key then some (.text definition) else Members.getText? m.indexes key := by
    simpa [Value.asText?] using
      Members.getText?_insert (.text name) (.text definition) m.indexes key
  simp only [held, created, hkey, eq_comm (a := name)]

@[simp] lemma held_record (text : String) (params : List Value) :
    (m.record text params).held = m.held := rfl

end MemoryCatalog

namespace IndexSpec

open MemoryCatalog

lemma createText_eq (unique : Bool) (name table expr : String) :
    (createText unique name table expr).toList =
      ((if unique then "CREATE UNIQUE INDEX" else "CREATE INDEX").toList ++ ' ' :: name.toList) ++
        separator ++ (table ++ " USING btree (" ++ expr ++ ")").toList := by
  cases unique <;> simp [createText, separator]

/-- A name is the last word before the table of the statement that creates an index. -/
lemma cutFirst?_createText {name : String} (hname : ∀ c ∈ name.toList, IsIndexChar c)
    (unique : Bool) (table expr : String) :
    cutFirst? separator (createText unique name table expr).toList =
      some ((if unique then "CREATE UNIQUE INDEX" else "CREATE INDEX").toList ++ ' ' :: name.toList,
        (table ++ " USING btree (" ++ expr ++ ")").toList) := by
  rw [createText_eq]
  refine cutFirst?_separator ?_ _
  have hno : 'O' ∉ name.toList := fun h => (hname _ h).ne (by decide) (by decide) rfl
  cases unique <;> simpa using hno

/-- Creating an index. -/
lemma execute_create {m : MemoryCatalog} {name : String}
    (hform : m.form = .plain ∨ m.form = .qualify) (hname : ∀ c ∈ name.toList, IsIndexChar c)
    (hne : name ≠ "") (unique : Bool) (table expr : String) :
    execute (createText unique name table expr) [] m =
      (.ok [], m.created (createText unique name table expr) name
        (createText unique name (m.reportedTable table) expr)) := by
  have hcut := cutFirst?_createText hname unique table expr
  have hcreated : createdName (createText unique name table expr) = name := by
    have hblank : ' ' ∉ name.toList := fun h => (hname _ h).ne (by decide) (by decide) rfl
    rw [createdName, hcut]
    dsimp only
    rw [lastWord_append (by simpa using hne) hblank, String.ofList_toList]
  have hreported : (m.record (createText unique name table expr) []).reported?
      (createText unique name table expr) =
        some (createText unique name (m.reportedTable table) expr) := by
    rcases hform with hform | hform
    · simp only [reported?, record, reportedTable, hform]
    · simp only [reported?, record, reportedTable, hform, hcut, Option.some.injEq]
      rw [← String.toList_inj, createText_eq]
      simp
  have hbegins : begins "SELECT 1 FROM pg_indexes" (createText unique name table expr) = false ∧
      begins "SELECT indexdef" (createText unique name table expr) = false ∧
      begins "SELECT indexname" (createText unique name table expr) = false ∧
      begins "SELECT * FROM types" (createText unique name table expr) = false ∧
      begins "DROP INDEX" (createText unique name table expr) = false ∧
      begins "CREATE" (createText unique name table expr) = true := by
    cases unique <;> simp [begins, createText, List.isPrefixOf]
  obtain ⟨h₁, h₂, h₃, h₄, h₅, h₆⟩ := hbegins
  simp only [execute, answer, h₁, h₂, h₃, h₄, h₅, h₆, hreported, hcreated, if_true,
    Bool.false_eq_true, if_false]
  rfl

end IndexSpec

end DocumentSql

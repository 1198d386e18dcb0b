/-
Tables as filters.

A row of a table is the conjunction of the equalities of its cells, and the table the disjunction
of its rows.  When every cell can be compared with its column, the table compiles, and its
condition, read back, is met exactly when all cells of some row are (`condition_table`).  So a
document that matches a table matches every table with more rows.

A table without rows is no disjunction of nothing, which nothing meets: like an empty list it
imposes no condition, and what has none finds every row (`emptyTable_unrestricted`).
-/
import DocumentSql.Proofs.Filter.Meaning
import DocumentSql.Proofs.Filter.Schema

namespace DocumentSql

open Sql

namespace Predicate

/-- The condition is met under truth values of its atoms. The empty one is, as a statement without
a condition finds every row. -/
def IsMet (p : Predicate) (atoms : List Atom) : Prop :=
  p.isEmpty = true ∨ conditionValue (bare p.text) atoms = some true

lemma Reads.isMet_iff {p : Predicate} {atoms : List Atom} {b : Bool}
    (h : p.Reads atoms (some b)) : p.IsMet atoms ↔ b = true := by
  cases h with
  | condition hp hread =>
    have hvalue := hread.conditionValue_eq
    simp [IsMet, hp, hvalue]

lemma Operator.combine_map_some (op : Operator) {bs : List Bool} (h : bs ≠ []) :
    op.combine (bs.map some) = some (op.eval bs) := by
  have hall : (bs.map some).reduceOption = bs := by
    simp [List.reduceOption, List.filterMap_map]
  rw [combine, hall]
  cases bs with
  | nil => exact absurd rfl h
  | cons b bs => rfl

end Predicate

namespace Filter

/-! ### Cells -/

/-- The equality of a column with a cell, as a fragment of its own. A cell is given with the name
of its column. -/
def cellFragment (s : Scope) (cell : Value × Value) : Result Predicate := do
  let f ← comparison cell.1 cell.2
  compile s f

/-- The equalities of cells, in order. -/
def cellFragments (s : Scope) (cells : Members) : List Predicate :=
  cells.filterMap fun cell => (cellFragment s cell).toOption

/-- The equalities of cells as atoms, under a truth value for each of them. -/
def cellAtoms (s : Scope) (truth : Value × Value → Bool) (cells : Members) : List Atom :=
  cells.filterMap fun cell =>
    (cellFragment s cell).toOption.map fun p => (bare p.text, truth cell)

/-- The cells of a table, row by row. -/
def tableCells (columns : List String) (rows : List (List Value)) : Members :=
  rows.flatMap (rowMembers columns)

/-- A table with a column, with a cell in each row for every column, and with nothing but cells
that can be compared: their columns are keys of the entity, and their values have plain forms. -/
structure IsComparable (s : Scope) (columns : List String) (rows : List (List Value)) : Prop where
  columns_ne_nil : columns ≠ []
  length_eq : ∀ row ∈ rows, row.length = columns.length
  compared : ∀ cell ∈ tableCells columns rows, ∃ p, cellFragment s cell = .ok p

variable {s : Scope} {columns : List String} {row : List Value} {rows : List (List Value)}
  {truth : Value × Value → Bool}

lemma tableCells_cons (columns : List String) (row : List Value) (rows : List (List Value)) :
    tableCells columns (row :: rows) = rowMembers columns row ++ tableCells columns rows := rfl

lemma cellAtoms_append (cells cells' : Members) :
    cellAtoms s truth (cells ++ cells') = cellAtoms s truth cells ++ cellAtoms s truth cells' := by
  simp [cellAtoms]

lemma cellFragments_cons {cell : Value × Value} {p : Predicate} (h : cellFragment s cell = .ok p)
    (cells : Members) : cellFragments s (cell :: cells) = p :: cellFragments s cells := by
  simp [cellFragments, h, Except.toOption]

lemma cellAtoms_cons {cell : Value × Value} {p : Predicate} (h : cellFragment s cell = .ok p)
    (cells : Members) : cellAtoms s truth (cell :: cells) =
      [(bare p.text, truth cell)] ++ cellAtoms s truth cells := by
  simp [cellAtoms, h, Except.toOption]

lemma namesRead_of_mem_rowMembers {cell : Value × Value} (h : cell ∈ rowMembers columns row) :
    NamesRead cell.1 := by
  obtain ⟨c, -, hc⟩ := List.mem_map.1 (List.of_mem_zip h).1
  exact hc ▸ namesRead_text c

lemma rowMembers_ne_nil (hcolumns : columns ≠ []) (h : row.length = columns.length) :
    rowMembers columns row ≠ [] := by
  refine List.ne_nil_of_length_pos ?_
  have hpos := List.length_pos_of_ne_nil hcolumns
  simpa [rowMembers, h] using hpos

/-- A comparison resolves its key without the procedures of the server. -/
lemma compile_comparison_procedures (procedures : Procedures) {name v : Value} {f : Filter}
    (h : comparison name v = .ok f) : compile s f = compile { s with procedures } f := by
  obtain ⟨k, w, -, -, ⟨⟨path, rfl⟩, rfl⟩ | ⟨⟨c, rfl | rfl⟩, rfl⟩⟩ := comparison_eq_ok h <;> rfl

/-- The equality of a cell is a fragment that can be joined with others, and read among them. -/
lemma cellFragment_spec (hs : s.entity.IsPlain) {cell : Value × Value} (hname : NamesRead cell.1)
    {p : Predicate} (h : cellFragment s cell = .ok p) :
    p.Sound ∧ p.isEmpty = false ∧ WellNested p.text.toList := by
  obtain ⟨f, hf, hp⟩ := Result.bind_eq_ok_iff.1 h
  -- the procedures of the server need not be plain, as no comparison uses them
  rw [compile_comparison_procedures .standard hf] at hp
  have hplain : Scope.IsPlain { s with procedures := .standard } :=
    ⟨hs, Procedures.isInert_standard⟩
  have hnested : Scope.IsWellNested { s with procedures := .standard } :=
    ⟨hs.isWellNested, Procedures.isWellNested_standard⟩
  obtain ⟨k, w, hk, -, ⟨-, rfl⟩ | ⟨-, rfl⟩⟩ := comparison_eq_ok hf
  · exact ⟨compileProperty_sound hplain (hname k hk) hp, isEmpty_compileProperty hp,
      wellNested_compileProperty hnested (hname k hk) hp⟩
  · exact ⟨compileColumn_sound hplain (hname k hk) hp, isEmpty_compileColumn hp,
      wellNested_compileColumn hnested (hname k hk) hp⟩

/-! ### Rows -/

/-- Cells that can be compared compile to their equalities, one behind the other. -/
lemma exists_comparisons (hs : s.entity.IsPlain) {cells : Members}
    (hnames : ∀ cell ∈ cells, NamesRead cell.1)
    (hcells : ∀ cell ∈ cells, ∃ p, cellFragment s cell = .ok p) :
    ∃ fs, comparisons cells = .ok fs ∧ compileAll s fs = .ok (cellFragments s cells) ∧
      fs.length = cells.length ∧ (∀ p ∈ cellFragments s cells, p.Sound) ∧
      ∀ truth, Predicate.AllRead (cellFragments s cells) (cellAtoms s truth cells)
        ((cells.map truth).map some) := by
  induction cells with
  | nil => exact ⟨[], rfl, rfl, rfl, by simp [cellFragments], fun truth => .nil⟩
  | cons cell cells ih =>
    obtain ⟨p, hcell⟩ := hcells cell (by simp)
    obtain ⟨f, hf, hp⟩ := Result.bind_eq_ok_iff.1 hcell
    obtain ⟨hsound, hne, hnested⟩ := cellFragment_spec hs (hnames cell (by simp)) hcell
    obtain ⟨fs, hfs, hps, hlength, hsounds, hread⟩ :=
      ih (fun c hc => hnames c (by simp [hc])) fun c hc => hcells c (by simp [hc])
    rw [cellFragments_cons hcell]
    refine ⟨f :: fs, ?_, ?_, by simp [hlength], ?_, fun truth => ?_⟩
    · simp [comparisons, hf, hfs, bind, Except.bind]
    · simp [compileAll, hp, hps, Except.map]
    · simpa using ⟨hsound, hsounds⟩
    · rw [cellAtoms_cons hcell]
      have hatom := Operand.isRead_atom ((wellNested_bare_iff p.text).2 hnested) (truth cell)
      exact .cons (.condition hne hatom) (hread truth)

/-- A row compiles to the conjunction of the equalities of its cells. -/
lemma exists_row (hs : s.entity.IsPlain) (hrow : rowMembers columns row ≠ [])
    (hcells : ∀ cell ∈ rowMembers columns row, ∃ p, cellFragment s cell = .ok p) :
    ∃ f p, ofMembers .and (rowMembers columns row) = .ok (some f) ∧ compile s f = .ok p ∧
      p.Sound ∧ p.Assembles (cellFragments s (rowMembers columns row)) ∧
      ∀ truth, p.Reads (cellAtoms s truth (rowMembers columns row))
        (some ((rowMembers columns row).all truth)) := by
  obtain ⟨fs, hfs, hps, hlength, hsounds, hread⟩ :=
    exists_comparisons hs (fun _ => namesRead_of_mem_rowMembers) hcells
  obtain ⟨p, hp⟩ := Predicate.exists_join .and hsounds
  obtain ⟨hsound, hassembles⟩ := Predicate.join_assembles hsounds hp
  refine ⟨all fs, p, ?_, by simp [compile, hps, hp], hsound, hassembles, fun truth => ?_⟩
  · cases fs with
    | nil => exact absurd (List.length_eq_zero_iff.1 hlength.symm) hrow
    | cons f fs => simp [ofMembers, hfs, Except.map, joined]
  · have hmet := (hread truth).join hp
    rw [Predicate.Operator.combine_map_some .and (by simpa using hrow)] at hmet
    simpa [Predicate.Operator.eval, List.all_map] using hmet

/-! ### Tables -/

lemma IsComparable.tail (h : IsComparable s columns (row :: rows)) :
    IsComparable s columns rows where
  columns_ne_nil := h.columns_ne_nil
  length_eq r hr := h.length_eq r (by simp [hr])
  compared cell hcell := h.compared cell (by simp [tableCells_cons, hcell])

lemma IsComparable.sublist {rows' : List (List Value)} (h : IsComparable s columns rows)
    (hsub : rows'.Sublist rows) : IsComparable s columns rows' where
  columns_ne_nil := h.columns_ne_nil
  length_eq r hr := h.length_eq r (hsub.subset hr)
  compared cell hcell := by
    obtain ⟨r, hr, hcell⟩ := List.mem_flatMap.1 hcell
    exact h.compared cell (List.mem_flatMap.2 ⟨r, hsub.subset hr, hcell⟩)

lemma IsComparable.append {rows' : List (List Value)} (h : IsComparable s columns rows)
    (h' : IsComparable s columns rows') : IsComparable s columns (rows ++ rows') where
  columns_ne_nil := h.columns_ne_nil
  length_eq r hr := (List.mem_append.1 hr).elim (h.length_eq r) (h'.length_eq r)
  compared cell hcell := by
    rw [tableCells, List.flatMap_append, List.mem_append] at hcell
    exact hcell.elim (h.compared cell) (h'.compared cell)

/-- The rows of a table compile to the conjunctions of their cells, one behind the other. -/
lemma exists_ofRows (hs : s.entity.IsPlain) (h : IsComparable s columns rows) :
    ∃ fs ps, ofRows columns rows = .ok fs ∧ compileAll s fs = .ok ps ∧
      fs.length = rows.length ∧ (∀ p ∈ ps, p.Sound) ∧
      List.Forall₂ Predicate.Assembles ps
        (rows.map fun row => cellFragments s (rowMembers columns row)) ∧
      ∀ truth, Predicate.AllRead ps (cellAtoms s truth (tableCells columns rows))
        ((rows.map fun row => (rowMembers columns row).all truth).map some) := by
  induction rows with
  | nil => exact ⟨[], [], rfl, rfl, rfl, by simp, .nil, fun truth => .nil⟩
  | cons row rows ih =>
    have hrow := rowMembers_ne_nil h.columns_ne_nil (h.length_eq row (by simp))
    obtain ⟨f, p, hf, hp, hsound, hassembles, hread⟩ :=
      exists_row hs hrow fun cell hcell => h.compared cell (by simp [tableCells_cons, hcell])
    obtain ⟨fs, ps, hfs, hps, hlength, hsounds, hall, hreads⟩ := ih h.tail
    refine ⟨f :: fs, p :: ps, ?_, ?_, by simp [hlength], ?_, .cons hassembles hall,
      fun truth => ?_⟩
    · simp [ofRows, hf, hfs, bind, Except.bind]
    · simp [compileAll, hp, hps, Except.map]
    · simpa using ⟨hsound, hsounds⟩
    · rw [tableCells_cons, cellAtoms_append]
      exact .cons (hread truth) (hreads truth)

/-- A table compiles. With rows, its condition is met when all cells of one of them are; without
rows there is none. -/
lemma exists_condition_frame (r : FunctionRegistry) (hs : s.entity.IsPlain) {m : Value}
    {op : Predicate.Operator} (hm : matchOperator m = .ok op) (h : IsComparable s columns rows) :
    ∃ p, condition r s m (.frame columns rows) = .ok p ∧ (rows = [] → p = Predicate.empty) ∧
      p.Assembles (cellFragments s (tableCells columns rows)) ∧
      (rows ≠ [] → ∀ truth, p.IsMet (cellAtoms s truth (tableCells columns rows)) ↔
        ∃ row ∈ rows, ∀ cell ∈ rowMembers columns row, truth cell = true) := by
  obtain ⟨fs, ps, hfs, hps, hlength, hsounds, hall, hreads⟩ := exists_ofRows hs h
  obtain ⟨p, hp⟩ := Predicate.exists_join .or hsounds
  have hassembles := (Predicate.join_assembles hsounds hp).2.trans hall
  have hcondition : condition r s m (.frame columns rows) = .ok p := by
    -- joining no rows gives the empty fragment, and so does having no filter
    have hcompile : compile? s (joined? .or fs) = .ok p := by
      cases fs with
      | nil =>
        obtain rfl := Except.ok.inj hps
        exact hp
      | cons f fs => simp [compile?, joined, compile, hps, hp]
    simp [condition, parse, hm, hfs, hcompile, bind, Except.bind, Except.map]
  refine ⟨p, hcondition, ?_, ?_, fun hrows truth => ?_⟩
  · rintro rfl
    obtain rfl := List.length_eq_zero_iff.1 hlength
    obtain rfl := Except.ok.inj hps
    exact (Except.ok.inj hp).symm
  · have hcells : cellFragments s (tableCells columns rows) =
        (rows.map fun row => cellFragments s (rowMembers columns row)).flatten := by
      rw [cellFragments, tableCells, List.filterMap_flatMap, List.flatMap_def]
      rfl
    rwa [hcells]
  · have hmet := (hreads truth).join hp
    rw [Predicate.Operator.combine_map_some .or (by simpa using hrows)] at hmet
    rw [hmet.isMet_iff]
    simp [Predicate.Operator.eval]

/-- A table that has rows is the disjunction of them, and each row the conjunction of its cells:
the condition holds the equalities of the cells with their parameters, and is met, under any truth
values of them, exactly when those of some row are all true. So rows that are appended keep what
matched, and what matches some of the rows matches all of them. -/
theorem condition_table (r : FunctionRegistry) {s : Scope} (hs : s.entity.IsPlain) {m : Value}
    {op : Predicate.Operator} (hm : matchOperator m = .ok op) {columns : List String}
    {rows : List (List Value)} (h : IsComparable s columns rows) :
    ∃ p, condition r s m (.frame columns rows) = .ok p ∧ (rows = [] → p = Predicate.empty) ∧
      p.Assembles (cellFragments s (tableCells columns rows)) ∧
      (rows ≠ [] → ∀ truth, p.IsMet (cellAtoms s truth (tableCells columns rows)) ↔
        ∃ row ∈ rows, ∀ cell ∈ rowMembers columns row, truth cell = true) ∧
      (∀ more, rows ≠ [] → IsComparable s columns more →
        ∃ q, condition r s m (.frame columns (rows ++ more)) = .ok q ∧
          ∀ truth, p.IsMet (cellAtoms s truth (tableCells columns rows)) →
            q.IsMet (cellAtoms s truth (tableCells columns (rows ++ more)))) ∧
      ∀ kept, kept ≠ [] → kept.Sublist rows →
        ∃ q, condition r s m (.frame columns kept) = .ok q ∧
          ∀ truth, q.IsMet (cellAtoms s truth (tableCells columns kept)) →
            p.IsMet (cellAtoms s truth (tableCells columns rows)) := by
  obtain ⟨p, hp, hnone, hassembles, hmet⟩ := exists_condition_frame r hs hm h
  refine ⟨p, hp, hnone, hassembles, hmet, fun more hrows hmore => ?_, fun kept hkept hsub => ?_⟩
  · obtain ⟨q, hq, -, -, hmet'⟩ := exists_condition_frame r hs hm (h.append hmore)
    refine ⟨q, hq, fun truth hholds => ?_⟩
    obtain ⟨row, hrow, hcells⟩ := (hmet hrows truth).1 hholds
    exact (hmet' (by simp [hrows]) truth).2 ⟨row, by simp [hrow], hcells⟩
  · obtain ⟨q, hq, -, -, hmet'⟩ := exists_condition_frame r hs hm (h.sublist hsub)
    have hrows : rows ≠ [] := by
      rintro rfl
      exact hkept (List.sublist_nil.1 hsub)
    refine ⟨q, hq, fun truth hholds => ?_⟩
    obtain ⟨row, hrow, hcells⟩ := (hmet' hkept truth).1 hholds
    exact (hmet hrows truth).2 ⟨row, hsub.subset hrow, hcells⟩

/-- A table of two persons, by number and name. -/
def personTable : List (List Value) := [[.int 1, .text "Ann"], [.int 2, .text "Bob"]]

lemma isComparable_personTable : IsComparable documentScope ["$id", "name"] personTable where
  columns_ne_nil := by simp
  length_eq := by simp [personTable]
  compared := by
    have hcells : ∀ cell ∈ tableCells ["$id", "name"] personTable,
        (cellFragment documentScope cell).isOk = true := by decide +kernel
    exact fun cell hcell => exists_of_isOk (hcells cell hcell)

lemma text_personTable : (condition [] documentScope (.text "all")
    (.frame ["$id", "name"] personTable)).map (·.text) =
      .ok ("((id = $1) AND ((content ->> 'name'::text) = $2)) OR " ++
        "((id = $3) AND ((content ->> 'name'::text) = $4))") :=
  Result.map_eq_ok_of_beq (by decide +kernel)

/-- Both cells of a person must match, for one of the persons. -/
theorem personTable_alternatives :
    IsComparable documentScope ["$id", "name"] personTable ∧
      ∃ p, condition [] documentScope (.text "all") (.frame ["$id", "name"] personTable) = .ok p ∧
        p.text = "((id = $1) AND ((content ->> 'name'::text) = $2)) OR " ++
          "((id = $3) AND ((content ->> 'name'::text) = $4))" ∧
        ∀ truth, p.IsMet (cellAtoms documentScope truth
            (tableCells ["$id", "name"] personTable)) ↔
          ∃ row ∈ personTable, ∀ cell ∈ rowMembers ["$id", "name"] row, truth cell = true := by
  have hentity : documentScope.entity.IsPlain :=
    Entity.isPlain_of_mem_builtIn _ (by simp [documentScope, Entity.builtIn])
  obtain ⟨p, hp, -, -, hmet, -⟩ :=
    condition_table [] hentity (m := .text "all") rfl isComparable_personTable
  obtain ⟨q, hq, htext⟩ := Result.map_eq_ok_iff.1 text_personTable
  obtain rfl := Except.ok.inj (hp.symm.trans hq)
  exact ⟨isComparable_personTable, p, hp, htext, hmet (by simp [personTable])⟩

/-- A table without rows imposes no condition, so what it finds need not match any row. Without its
only row a table finds more, and with it less: the condition of the table with the row is not met
when its only equality is not true. -/
theorem emptyTable_unrestricted :
    ∃ p q, condition [] documentScope (.text "all") (.frame ["$id"] []) = .ok p ∧
      condition [] documentScope (.text "all") (.frame ["$id"] [[.int 1]]) = .ok q ∧
      p.IsMet (cellAtoms documentScope (fun _ => false) (tableCells ["$id"] [])) ∧
      ¬ q.IsMet (cellAtoms documentScope (fun _ => false) (tableCells ["$id"] [[.int 1]])) := by
  refine ⟨Predicate.empty, ⟨"id = $1", [.int 1], []⟩, rfl, by rfl, Or.inl rfl, ?_⟩
  have hatoms : cellAtoms documentScope (fun _ => false) (tableCells ["$id"] [[.int 1]]) =
      [("id = $".toList, false)] := by rfl
  rw [hatoms, Predicate.IsMet]
  decide +kernel

end Filter

end DocumentSql

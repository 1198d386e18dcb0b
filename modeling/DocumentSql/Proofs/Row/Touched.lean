/-
What an update leaves alone.

A column that a patch does not address has one value before and after the patch
(`Row.get?_after_of_not_addresses`), and a value without NaN is not told from itself by the
comparison of columns (`Row.not_columnDiffers_self`).  So an update assigns only to columns that
the patch addresses, in a statement that has one numbered placeholder for each of them and a last
one for the row (`Statement.update_touches`).
-/
import DocumentSql.Proofs.Row.Identity
import DocumentSql.Proofs.Row.Insert
import DocumentSql.Proofs.Row.NanFree

namespace DocumentSql

open Sql

namespace Row

open Members (getText? merge)

variable {e : Entity} {stored patch ms : Members} {before after : Row} {column : String}
  {v : Value}

/-! ### Columns that are not addressed -/

lemma isPropertyKey_of_same {k l : Value} (h : k.same l = true) :
    isPropertyKey k = isPropertyKey l := by
  have htext : k.asText? = l.asText? := by
    cases hk : k.asText? with
    | some s =>
      have hl : l.asText? = some s := by simpa [Value.same_of_asText? hk] using h
      exact hl.symm
    | none =>
      cases hl : l.asText? with
      | none => rfl
      | some t => simp [Value.same_of_asText?_right hl, hk] at h
  rw [isPropertyKey, isPropertyKey, htext]

lemma plainMembers_insert {k : Value} (hk : isPropertyKey k = false) (v : Value) (ms : Members) :
    plainMembers (Members.insert k v ms) = plainMembers ms := by
  unfold plainMembers
  congr 1
  induction ms with
  | nil => simp [Members.insert, hk]
  | cons m ms ih =>
    rw [Members.insert]
    split
    · next hm => simp [isPropertyKey_of_same hm, hk]
    · rw [List.filter_cons, List.filter_cons, ih]

/-- Merging a patch without plain keys leaves the plain members of an object as they are. -/
lemma plainMembers_merge (h : givesPlain patch = false) (ms : Members) :
    plainMembers (merge ms patch) = plainMembers ms := by
  induction patch generalizing ms with
  | nil => rfl
  | cons m patch ih =>
    obtain ⟨hm, hrest⟩ := Bool.or_eq_false_iff.1 (by simpa only [givesPlain, List.any_cons] using h)
    rw [show merge ms (m :: patch) = merge (Members.insert m.1 m.2 ms) patch from rfl,
      ih hrest, plainMembers_insert hm]

/-- With plain keys, under the data container stand the plain members over what is given for it. -/
lemma exists_container_of_givesPlain {row : Row} (h : ofMembers e ms = .ok row)
    (hplain : givesPlain ms = true) :
    ∃ given, containerMembers ((explicit? e ms).getD .null) = .ok given ∧
      get? row e.container = some (.dict (merge given (plainMembers ms))) := by
  obtain ⟨columns, data, hpartition, ⟨hno, -⟩ | ⟨-, given, hgiven, rfl⟩⟩ := ofMembers_eq_ok h
  · simp [hplain] at hno
  · refine ⟨given, hgiven, ?_⟩
    rw [get?_put, if_pos rfl, data_of_partition hpartition]

/-- A column that the patch does not address keeps its value. -/
theorem get?_after_of_not_addresses (hpatch : patch.IsUnique)
    (hbefore : ofMembers e stored = .ok before)
    (hafter : ofMembers e (merge stored patch) = .ok after)
    (h : addresses e patch column = false) : get? after column = get? before column := by
  obtain ⟨hgives, hplain⟩ := Bool.or_eq_false_iff.1 h
  have hnone : getText? patch ("$" ++ column) = none := by
    simpa [gives, getText?] using hgives
  have hsame : getText? (merge stored patch) ("$" ++ column) = getText? stored ("$" ++ column) := by
    rw [Members.getText?_merge_of_isUnique stored hpatch, hnone, Option.none_or]
  by_cases hne : column = e.container
  · subst hne
    -- the container is made of its own value and of the plain members, and neither is patched
    have hpatchPlain : givesPlain patch = false := by
      rw [beq_self_eq_true, Bool.true_and] at hplain
      exact hplain
    have hmembers := plainMembers_merge hpatchPlain stored
    have hexplicit : explicit? e (merge stored patch) = explicit? e stored := by
      rw [explicit?, hsame, explicit?]
    have hgivesPlain : givesPlain (merge stored patch) = givesPlain stored := by
      rw [givesPlain_eq, hmembers, givesPlain_eq]
    cases hstored : givesPlain stored with
    | false =>
      rw [get?_container hafter (hgivesPlain.trans hstored), get?_container hbefore hstored,
        hexplicit]
    | true =>
      obtain ⟨given, hgiven, hcontainer⟩ := exists_container_of_givesPlain hbefore hstored
      obtain ⟨given', hgiven', hcontainer'⟩ :=
        exists_container_of_givesPlain hafter (hgivesPlain.trans hstored)
      rw [hexplicit, hgiven] at hgiven'
      rw [hcontainer', hcontainer, hmembers, Except.ok.inj hgiven']
  · rw [get?_ofMembers hafter hne, get?_ofMembers hbefore hne, hsame]

/-! ### Values that stay the same -/

lemma not_memberDiffers_self (hstored : (Value.dict stored).NanFree) (hms : (Value.dict ms).NanFree)
    {m : Value × Value} (hm : m ∈ ms) : memberDiffers e stored patch ms m = false := by
  obtain ⟨hunique, hparts⟩ := Value.nanFree_dict.1 hms
  obtain ⟨hkey, hvalue⟩ := hparts m hm
  have hproperty : ((property? stored m.1).getD .null).differsFromItself = false := by
    unfold property?
    split
    · cases hv : Members.get? stored m.1 with
      | none => rfl
      | some v => exact (Members.nanFree_get? hstored hv).not_differsFromItself
    · rfl
  rw [memberDiffers, hunique.get?_of_mem hm hkey.same_self, Bool.and_eq_false_iff]
  right
  dsimp only
  split
  · exact hproperty
  · exact hvalue.not_differs_self

lemma not_containerDiffers_self (hstored : (Value.dict stored).NanFree) (hv : v.NanFree) :
    containerDiffers e stored patch v v = false := by
  unfold containerDiffers
  split
  · next ns =>
    obtain ⟨hunique, hparts⟩ := Value.nanFree_dict.1 hv
    have hlacks : ns.any (Value.lacksPartner ns) = false := by
      refine Value.any_lacksPartner_eq_false_iff.2 fun n hn _ => ?_
      rw [hunique.get?_of_mem hn (hparts n hn).1.same_self]
      rfl
    rw [hlacks, Bool.or_false, List.any_eq_false]
    exact fun n hn => by simp [not_memberDiffers_self hstored hv hn]
  · exact hv.not_differs_self

/-- The comparison of columns does not tell a value from itself. -/
theorem not_columnDiffers_self (hstored : (Value.dict stored).NanFree) (hv : v.NanFree) :
    columnDiffers e stored patch column v v = false := by
  unfold columnDiffers
  split
  · split
    · exact not_containerDiffers_self hstored hv
    · exact hv.not_differs_self
  · split
    · rw [not_containerDiffers_self hstored hv, Bool.and_false]
    · cases hraw : getText? stored ("$" ++ column) with
      | none => rfl
      | some w => exact (Members.nanFree_get? hstored hraw).not_differsFromItself

lemma isDistinct_of_isUnique {row : Row} (hms : ms.IsUnique) (h : ofMembers e ms = .ok row) :
    row.IsDistinct := by
  obtain ⟨p, hpartition, -⟩ := Result.bind_eq_ok_iff.1 h
  exact isDistinct_ofMembers (isKeyed_of_partition hms hpartition) h

/-- The changed columns are columns of the patched object that the patch addresses, and none is
the identifier. -/
theorem addresses_of_mem_changes (hstored : (Value.dict stored).NanFree)
    (hpatch : (Value.dict patch).NanFree) (hbefore : ofMembers e stored = .ok before)
    (hafter : ofMembers e (merge stored patch) = .ok after) {c : String × Value}
    (hc : c ∈ changes e stored patch before after) :
    get? after c.1 = some c.2 ∧ c.1 ≠ "id" ∧ addresses e patch c.1 = true := by
  obtain ⟨hmem, hchanged⟩ := List.mem_filter.1 hc
  obtain ⟨hid, hdiffers⟩ := Bool.and_eq_true_iff.1 hchanged
  have hunique := Members.isUnique_merge (Value.nanFree_dict.1 hstored).1 patch
  have hget : get? after c.1 = some c.2 := (isDistinct_of_isUnique hunique hafter).get?_of_mem hmem
  refine ⟨hget, by simpa using hid, ?_⟩
  by_contra hnot
  -- a column that is not addressed has this value before too, and no value differs from itself
  have hbeforeGet : get? before c.1 = some c.2 := by
    rw [← get?_after_of_not_addresses (Value.nanFree_dict.1 hpatch).1 hbefore hafter
      (by simpa using hnot), hget]
  have hv := nanFree_of_ofMembers hstored hbefore hbeforeGet
  simp [hbeforeGet, not_columnDiffers_self hstored hv] at hdiffers

end Row

namespace Statement

open Members (merge)
open Row (identifyMembers addresses)

variable {e : Entity} {stored patch : Members} {changes : Row} {column c : String} {v : Value}
  {s : Statement}

/-! ### The text -/

/-- An assignment to a column, its placeholder numbered behind others. -/
def numberedAssignment (n : ℕ) (c : String) : String := c ++ " = " ++ ("$" ++ toString (n + 1))

/-- The condition on the row of an update, its placeholder numbered behind others. -/
def numberedTarget (n : ℕ) (c : String) : String :=
  "WHERE " ++ numberedAssignment n c ++ " RETURNING *"

/-- The text of an update of a table, its placeholders numbered: those of the columns in order, and
then that of the row. -/
def numberedUpdate (table : String) (columns : List String) (column : String) : String :=
  "UPDATE " ++ table ++ " SET" ++
    (" " ++ String.intercalate ", " (columns.mapIdx numberedAssignment) ++
      (" " ++ numberedTarget columns.length column))

lemma renumbers_assignment (hc : IsPlainName c) {mark : String} {n : ℕ}
    (h : Renumbers n mark ("$" ++ toString (n + 1)) 1) :
    Renumbers n (c ++ " = " ++ mark) (numberedAssignment n c) 1 := by
  have hequals : Inert (c ++ " = ") := hc.inert.append (by decide)
  have hsettled : Settled (c ++ " = ").toList :=
    settled_append (by decide) (by decide) c
  simpa [numberedAssignment] using (Renumbers.of_inert hequals n).append h (Or.inl hsettled)

lemma breaks_blank (t : String) : Breaks (" " ++ t).toList :=
  breaks_append (by decide) (by decide) t

lemma renumbers_target (hc : IsPlainName c) {mark : String} {n : ℕ}
    (h : Renumbers n mark ("$" ++ toString (n + 1)) 1) :
    Renumbers n ("WHERE " ++ (c ++ " = " ++ mark) ++ " RETURNING *") (numberedTarget n c) 1 := by
  have hwhere : Renumbers n "WHERE " "WHERE " 0 := .of_inert (by decide) n
  have hend : Renumbers (n + 1) " RETURNING *" " RETURNING *" 0 :=
    .of_inert (by decide) _
  have hsettled : Settled "WHERE ".toList := by decide
  have hfirst := hwhere.append (renumbers_assignment hc h) (Or.inl hsettled)
  have hall := hfirst.append (by simpa using hend) (Or.inr (breaks_blank "RETURNING *"))
  simpa [numberedTarget] using hall

/-- The assignments of an update are numbered in order. -/
lemma shiftedTexts_assignments (hcolumns : ∀ c ∈ changes, IsPlainName c.1) {ps : List Predicate}
    (h : assignments changes = .ok ps) (n : ℕ) : Predicate.shiftedTexts n ps =
      (changes.map Prod.fst).mapIdx fun i c => numberedAssignment (n + i) c := by
  induction changes generalizing ps n with
  | nil =>
    obtain rfl := Except.ok.inj h
    rfl
  | cons c changes ih =>
    obtain ⟨w, hw, h⟩ := Result.bind_eq_ok_iff.1 h
    obtain ⟨p, hp, h⟩ := Result.bind_eq_ok_iff.1 h
    obtain ⟨qs, hqs, h⟩ := Result.bind_eq_ok_iff.1 h
    obtain rfl := Except.ok.inj h
    have hplain := hcolumns c (by simp)
    obtain ⟨-, rfl⟩ := Predicate.make_eq_ok_iff.1 hp
    -- the placeholder is numbered in the assignment first, and then among the others
    have hbare := renumbers_assignment hplain (Renumbers.mark 0)
    have hshifted := renumbers_assignment hplain (Renumbers.numberedMark 1 n)
    have hsplit : c.1 ++ " = $" = c.1 ++ " = " ++ "$" := by
      rw [String.append_assoc]
      rfl
    have hfirst : renumber (renumber (c.1 ++ " = $") 0) n = numberedAssignment n c.1 := by
      rw [hsplit]
      exact (congrArg (renumber · (n : ℤ)) hbare.renumber).trans hshifted.renumber
    rw [Predicate.shiftedTexts, Predicate.shifted, hfirst, List.map_cons, List.mapIdx_cons,
      ih (fun d hd => hcolumns d (List.mem_cons_of_mem c hd)) hqs]
    simp [Nat.add_assoc, Nat.add_comm 1]

lemma renumbers_assignments {columns : List String} (h : ∀ c ∈ columns, IsPlainName c) :
    Renumbers 0 (String.intercalate ", " (columns.mapIdx numberedAssignment))
      (String.intercalate ", " (columns.mapIdx numberedAssignment)) columns.length := by
  have hall := Renumbers.intercalate (f := numberedAssignment) (g := numberedAssignment)
    (fun c hc n => renumbers_assignment (h c hc) (.numberedMark (n + 1) n)) 0
  simpa using hall

/-- The assignments of an update, with commas between them. -/
lemma text_of_assigned (hcolumns : ∀ c ∈ changes, IsPlainName c.1) {ps : List Predicate}
    {p : Predicate} (hps : assignments changes = .ok ps) (h : Predicate.chain ps ", " = .ok p) :
    p.text = String.intercalate ", " ((changes.map Prod.fst).mapIdx numberedAssignment) := by
  obtain ⟨hfilter, -⟩ := assignments_eq_ok hps
  have hnames : ∀ c ∈ changes.map Prod.fst, IsPlainName c := List.forall_mem_map.2 hcolumns
  have hmake : Predicate.make (String.intercalate ", "
      (Predicate.shiftedTexts 0 (ps.filter (!·.isEmpty))))
      (Predicate.allParams (ps.filter (!·.isEmpty))) [] = .ok p := h
  rw [hfilter, shiftedTexts_assignments hcolumns hps] at hmake
  obtain ⟨-, rfl⟩ := Predicate.make_eq_ok_iff.1 hmake
  simpa using (renumbers_assignments hnames).renumber

/-- The condition on the row, behind the assignments. -/
lemma text_of_target (hc : IsPlainName c) {p : Predicate}
    (h : Predicate.ofText ("WHERE " ++ c ++ " = $ RETURNING *") [v] = .ok p) (n : ℕ) :
    p.shifted n = numberedTarget n c := by
  obtain ⟨-, rfl⟩ := Predicate.make_eq_ok_iff.1 h
  have hbare := renumbers_target hc (Renumbers.mark 0)
  have hshifted := renumbers_target hc (Renumbers.numberedMark 1 n)
  have hsplit : "WHERE " ++ c ++ " = $ RETURNING *" =
      "WHERE " ++ (c ++ " = " ++ "$") ++ " RETURNING *" := by
    simp only [String.append_assoc, -String.reduceAppend]
    rfl
  rw [Predicate.shifted, hsplit]
  exact (congrArg (renumber · (n : ℤ)) hbare.renumber).trans hshifted.renumber

/-- The text of an update is numbered as it is. -/
lemma renumber_numberedUpdate {table : String} {columns : List String}
    (hcolumns : ∀ c ∈ columns, IsPlainName c) (hcolumn : IsPlainName column)
    (hcount : countPlaceholders (numberedUpdate table columns column) = columns.length + 1) :
    renumber (numberedUpdate table columns column) 0 = numberedUpdate table columns column := by
  have hblank : ∀ n, Renumbers n " " " " 0 := Renumbers.of_inert (by decide)
  have hsettled : Settled " ".toList := by decide
  have htarget : Renumbers columns.length (numberedTarget columns.length column)
      (numberedTarget columns.length column) 1 :=
    renumbers_target hcolumn (.numberedMark _ columns.length)
  have hassigned := (hblank 0).append (renumbers_assignments hcolumns) (Or.inl hsettled)
  have hend := (hblank columns.length).append htarget (Or.inl hsettled)
  have hall := hassigned.append (by simpa using hend) (Or.inr (breaks_blank _))
  simp only [Nat.zero_add] at hall
  exact hall.behind (Or.inr (by rw [String.append_assoc]; exact breaks_blank _)) hcount

/-- The update of columns with plain names. -/
lemma updateRow_eq_ok (hcolumns : ∀ c ∈ changes, IsPlainName c.1) (hcolumn : IsPlainName column)
    (hne : changes ≠ []) (h : updateRow e changes column v = .ok s) :
    s.text = numberedUpdate e.table (changes.map Prod.fst) column ∧
      ∃ ps, encodeAll (changes.map Prod.snd) = .ok ps ∧ s.params = ps ++ [v] := by
  refine ⟨?_, (updateRow_assigns hne h).params⟩
  obtain ⟨ps, q, assigned, target, p, hps, hq, hassigned, htarget, hkept, hchain, rfl⟩ :=
    exists_fragments hne h
  have hnames : ∀ c ∈ changes.map Prod.fst, IsPlainName c := List.forall_mem_map.2 hcolumns
  have hlength : assigned.params.length = (changes.map Prod.fst).length := by
    rw [length_encodeAll (assigned_eq_ok hne hps hassigned).2.2, List.length_map, List.length_map]
  have hnone : q.params = [] := Predicate.params_of_make hq
  have hlast : target.params = [v] := Predicate.params_of_make htarget
  -- each fragment stands in the text with its placeholders numbered behind those before it
  have htable : q.shifted 0 = "UPDATE " ++ e.table ++ " SET" := by
    rw [Predicate.shifted, Predicate.text_of_make_nil hq]
    exact Predicate.renumber_of_count_eq_zero (Predicate.make_eq_ok_iff.1 hq).1 0
  have hassign : assigned.shifted 0 =
      String.intercalate ", " ((changes.map Prod.fst).mapIdx numberedAssignment) := by
    rw [Predicate.shifted, text_of_assigned hcolumns hps hassigned]
    exact (renumbers_assignments hnames).renumber
  have htexts : String.intercalate " " (Predicate.shiftedTexts 0 [q, assigned, target]) =
      numberedUpdate e.table (changes.map Prod.fst) column := by
    have htarget := text_of_target hcolumn htarget (changes.map Prod.fst).length
    simp only [Predicate.shiftedTexts, hnone, hlength, List.length_nil, Nat.add_zero,
      Nat.zero_add, Nat.cast_zero, htable, hassign, htarget, numberedUpdate,
      String.intercalate_cons_cons, String.intercalate_singleton, String.append_assoc]
  have hmake : Predicate.make (String.intercalate " " (Predicate.shiftedTexts 0
      ([q, assigned, target].filter (!·.isEmpty))))
      (Predicate.allParams ([q, assigned, target].filter (!·.isEmpty))) [] = .ok p := hchain
  rw [hkept, htexts] at hmake
  obtain ⟨hcount, rfl⟩ := Predicate.make_eq_ok_iff.1 hmake
  refine renumber_numberedUpdate hnames hcolumn (hcount.trans ?_)
  simp [Predicate.allParams, hnone, hlast, hlength]

/-! ### Updates -/

/-- The statement assigns to columns that a patch addresses, none twice and never to the
identifier, the values that they have in the patched row, and to no other ones; one placeholder for
each of them is numbered in order, and the last one is that of the row. -/
structure Touches (e : Entity) (patch : Members) (after changes : Row) (column : String)
    (v : Value) (s : Statement) : Prop where
  ne_nil : changes ≠ []
  distinct : changes.IsDistinct
  addressed : ∀ c ∈ changes,
    Row.get? after c.1 = some c.2 ∧ c.1 ≠ "id" ∧ addresses e patch c.1 = true
  text : s.text = numberedUpdate e.table (changes.map Prod.fst) column
  params : ∃ ps, encodeAll (changes.map Prod.snd) = .ok ps ∧ s.params = ps ++ [v]

/-- The rows behind a statement, its changes, and what identifies its row. -/
lemma update_eq_some (h : update e (.dict stored) (.dict patch) = .ok (some s)) :
    ∃ before after column v, Row.ofMembers e stored = .ok before ∧
      Row.ofMembers e (merge stored patch) = .ok after ∧
      identifyMembers e (merge patch stored) = .ok (column, v) ∧
      Row.changes e stored patch before after ≠ [] ∧
      updateRow e (Row.changes e stored patch before after) column v = .ok s := by
  rw [update_dict] at h
  obtain ⟨⟨column, v⟩, hidentified, h⟩ := Result.bind_eq_ok_iff.1 h
  obtain ⟨changes, hchanges, h⟩ := Result.bind_eq_ok_iff.1 h
  rw [Row.changedColumns_dict] at hchanges
  obtain ⟨before, hbefore, hchanges⟩ := Result.bind_eq_ok_iff.1 hchanges
  obtain ⟨after, hafter, hchanges⟩ := Result.bind_eq_ok_iff.1 hchanges
  obtain rfl := Except.ok.inj hchanges
  split at h
  · simp at h
  · next hne =>
    obtain ⟨s', hs, heq⟩ := Result.map_eq_ok_iff.1 h
    obtain rfl := Option.some.inj heq
    exact ⟨before, after, column, v, hbefore, hafter, hidentified, by simpa using hne, hs⟩

/-- What the patch gives, the stored object gives too. -/
def Repeats (patch stored : Members) : Prop := ∀ m ∈ patch, Members.get? stored m.1 = some m.2

lemma insert_of_get? {k w : Value} {ms : Members} (h : Members.get? ms k = some w) :
    Members.insert k w ms = ms := by
  induction ms with
  | nil => simp [Members.get?] at h
  | cons m ms ih =>
    rw [Members.insert]
    split
    · next hm =>
      obtain rfl : m.2 = w := by simpa [Members.get?, hm] using h
      rfl
    · next hm =>
      rw [ih (by simpa [Members.get?, hm] using h)]

lemma Repeats.merge_eq (h : Repeats patch stored) : merge stored patch = stored := by
  induction patch with
  | nil => rfl
  | cons m patch ih =>
    rw [show merge stored (m :: patch) = merge (Members.insert m.1 m.2 stored) patch from rfl,
      insert_of_get? (h m (by simp))]
    exact ih fun n hn => h n (List.mem_cons_of_mem m hn)

lemma Repeats.identifyMembers_eq (h : Repeats patch stored) (hstored : stored.IsUnique) :
    identifyMembers e (merge patch stored) = identifyMembers e stored := by
  have hidentifier : ∀ c,
      Row.identifier? e (merge patch stored) c = Row.identifier? e stored c := by
    intro c
    rw [Row.identifier?_merge e patch hstored]
    split
    · rfl
    · next hgives =>
      have hstoredNone : Members.getText? stored ("$" ++ c) = none := by
        simpa [Row.gives, Members.getText?] using hgives
      have hpatchNone : Members.getText? patch ("$" ++ c) = none := by
        by_contra hne
        obtain ⟨w, hw⟩ := Option.ne_none_iff_exists'.1 hne
        obtain ⟨k, hk, htext⟩ := Members.exists_mem_of_getText? hw
        have hget := h (k, w) hk
        rw [Members.get?_of_asText htext, hstoredNone] at hget
        simp at hget
      rw [Row.identifier?, Row.identifier?, hstoredNone, hpatchNone]
  rw [Row.identifyMembers_eq, Row.identifyMembers_eq, hidentifier, hidentifier]

/-- A row is not changed by the same row. -/
lemma changes_self (hstored : (Value.dict stored).NanFree) {before : Row}
    (h : Row.ofMembers e stored = .ok before) : Row.changes e stored patch before before = [] := by
  have hdistinct := Row.isDistinct_of_isUnique (Value.nanFree_dict.1 hstored).1 h
  rw [Row.changes, List.filter_eq_nil_iff]
  intro c hc
  have hget := hdistinct.get?_of_mem hc
  simp [hget, Row.not_columnDiffers_self hstored (Row.nanFree_of_ofMembers hstored h hget)]

lemma hasColumn_of_identifyMembers {ms : Members} (h : identifyMembers e ms = .ok (column, v)) :
    e.hasColumn column = true := by
  have hfilter : ∀ {c w}, Row.identifier? e ms c = some w → e.hasColumn c = true := by
    intro c w hw
    simpa using (Bool.and_eq_true_iff.1 (Option.filter_eq_some_iff.1 hw).2).2
  rw [Row.identifyMembers_eq] at h
  split at h
  · next w hw =>
    obtain ⟨rfl, -⟩ := Prod.mk.inj (Except.ok.inj h)
    exact hfilter hw
  · next w hw =>
    obtain ⟨rfl, -⟩ := Prod.mk.inj (Except.ok.inj h)
    exact hfilter hw
  · simp at h

/-- An update touches only what the patch addresses.  Its statement assigns to columns that the
patch names, or to the data container for its plain keys; and a patch that repeats what the stored
object gives changes nothing, where the stored object has a row and identifies it. -/
theorem update_touches (he : Row.HasPlainColumns e) (hstored : (Value.dict stored).NanFree)
    (hpatch : (Value.dict patch).NanFree) :
    (∀ s, update e (.dict stored) (.dict patch) = .ok (some s) → ∃ after changes column v,
      Row.ofMembers e (merge stored patch) = .ok after ∧
      identifyMembers e (merge patch stored) = .ok (column, v) ∧
      Touches e patch after changes column v s) ∧
    (Repeats patch stored → update e (.dict stored) (.dict patch) =
      (identifyMembers e stored).bind fun _ => (Row.ofMembers e stored).map fun _ => none) := by
  obtain ⟨hunique, -⟩ := Value.nanFree_dict.1 hstored
  constructor
  · intro s hs
    obtain ⟨before, after, column, v, hbefore, hafter, hfound, hne, hs⟩ := update_eq_some hs
    have hdistinct := Row.isDistinct_of_isUnique (Members.isUnique_merge hunique patch) hafter
    have hplain : ∀ c ∈ Row.changes e stored patch before after, IsPlainName c.1 :=
      fun c hc => he.of_mem hafter (List.mem_of_mem_filter hc)
    have hcolumn := he.columns column (hasColumn_of_identifyMembers hfound)
    obtain ⟨htext, hparams⟩ := updateRow_eq_ok hplain hcolumn hne hs
    exact ⟨after, _, column, v, hafter, hfound, hne,
      hdistinct.sublist (List.filter_sublist.map Prod.fst),
      fun c hc => Row.addresses_of_mem_changes hstored hpatch hbefore hafter hc, htext, hparams⟩
  · intro hrepeats
    -- the patched object is the stored one, so its row is compared with itself
    have hchanged : Row.changedColumns e (.dict stored) (.dict patch) =
        (Row.ofMembers e stored).map fun _ => [] := by
      rw [Row.changedColumns_dict, hrepeats.merge_eq]
      cases hbefore : Row.ofMembers e stored with
      | error err => rfl
      | ok before => simp [bind, Except.bind, Except.map, changes_self hstored hbefore]
    rw [update_dict, hrepeats.identifyMembers_eq hunique, hchanged]
    cases identifyMembers e stored <;> cases Row.ofMembers e stored <;> rfl

lemma nanFree_note {id note : Value} (hid : id.IsJson) (hnote : note.IsJson) :
    (Value.dict [(.text "$id", id), (.text "note", note)]).NanFree := by
  have hkeyed : Members.IsKeyed [(.text "$id", id), (.text "note", note)] := by
    constructor <;> simp [Value.asText?]
  exact (Value.isJson_dict.2 ⟨hkeyed, by simp [hid, hnote]⟩).nanFree

/-- A patch with another number and another note touches the note alone, and one with the number and
the note that the type has changes nothing. -/
theorem notedType_touched :
    Row.HasPlainColumns .type ∧ (Value.dict notedType).NanFree ∧
      (Value.dict renumberedNote).NanFree ∧
      (∃ s after changes, update .type (.dict notedType) (.dict renumberedNote) = .ok (some s) ∧
        s.text = "UPDATE types SET meta = $1 WHERE id = $2 RETURNING *" ∧
        Touches .type renumberedNote after changes "id" (.int 1) s) ∧
      Repeats notedType notedType ∧
      update .type (.dict notedType) (.dict notedType) = .ok none := by
  have he : Row.HasPlainColumns .type :=
    .of_isPlain (Entity.isPlain_of_mem_builtIn _ (by simp [Entity.builtIn]))
  have hstored : (Value.dict notedType).NanFree := nanFree_note trivial trivial
  have hpatch : (Value.dict renumberedNote).NanFree := nanFree_note trivial trivial
  have hrepeats : Repeats notedType notedType := by
    simp [Repeats, notedType, Members.get?, Value.asText?]
  obtain ⟨outcome, hs, houtcome⟩ := Result.map_eq_ok_iff.1 update_notedType
  obtain ⟨s, rfl, htext⟩ := Option.map_eq_some_iff.1 houtcome
  obtain ⟨after, changes, column, v, -, hfound, htouches⟩ :=
    (update_touches he hstored hpatch).1 s hs
  obtain ⟨rfl, rfl⟩ := Prod.mk.inj (Except.ok.inj hfound)
  exact ⟨he, hstored, hpatch, ⟨s, after, changes, hs, htext, htouches⟩, hrepeats,
    (update_touches he hstored hstored).2 hrepeats⟩

end Statement

end DocumentSql

/-
What stands in the row of an object.

Under a column stands what the object gives for its key.  Under the data container stand the
properties of the object, over what the object gives for the container itself.  Of two objects
that are merged, the later one counts for every key.
-/
import DocumentSql.Proofs.Result
import DocumentSql.Proofs.Value.Matching
import DocumentSql.Proofs.Value.Named
import DocumentSql.Row

namespace DocumentSql

namespace Row

lemma get?_eq_lookup (r : Row) (column : String) : get? r column = r.lookup column :=
  Named.find?_eq_lookup r column

lemma get?_cons (c : String × Value) (r : Row) (column : String) :
    get? (c :: r) column = if c.1 = column then some c.2 else get? r column := by
  simp only [get?_eq_lookup, Named.lookup_cons, eq_comm]

lemma sets_put : Named.Sets put where
  nil _ _ := rfl
  cons column v c r := by simp [put]

@[simp] lemma get?_put (column : String) (v : Value) (r : Row) (d : String) :
    get? (put column v r) d = if column = d then some v else get? r d := by
  simp only [get?_eq_lookup, sets_put.lookup, eq_comm]

/-- No two values stand under the same column. -/
def IsDistinct (r : Row) : Prop := (r.map Prod.fst).Nodup

lemma IsDistinct.get?_of_mem {r : Row} (h : r.IsDistinct) {c : String × Value} (hc : c ∈ r) :
    get? r c.1 = some c.2 := by
  rw [get?_eq_lookup, Named.lookup_of_mem h hc]

lemma mem_of_get? {r : Row} {column : String} {v : Value} (h : get? r column = some v) :
    (column, v) ∈ r :=
  Named.mem_of_lookup (get?_eq_lookup r column ▸ h)

/-! ### Objects in two parts -/

/-- An object of the entity may give a value for the key: it is the key of a property, or of a
column that is not computed. -/
def Accepts (e : Entity) (s : String) : Prop :=
  isPropertyKey (.text s) = true ∧ s ≠ "" ∨
    ∃ c, s = "$" ++ c ∧ e.hasColumn c = true ∧ s ≠ Entity.computedKey

lemma isPropertyKey_eq {k : Value} {s : String} (h : k.asText? = some s) :
    isPropertyKey k = isPropertyKey (.text s) := by
  rw [isPropertyKey, h]
  rfl

lemma isPropertyKey_dollar (c : String) : isPropertyKey (.text ("$" ++ c)) = false := by
  simp [isPropertyKey, Value.asText?]

/-- Where a key of an object belongs. -/
lemma placeOf_eq_ok {e : Entity} {key : Value} {place : Place} (h : placeOf e key = .ok place) :
    ∃ s, key.asText? = some s ∧
      (place = .property ∧ isPropertyKey (.text s) = true ∧ s ≠ "" ∨
        ∃ c, place = .column c ∧ s = "$" ++ c ∧ e.hasColumn c = true ∧
          s ≠ Entity.computedKey) := by
  unfold placeOf at h
  split at h
  · simp at h
  · next s hs =>
    refine ⟨s, hs, ?_⟩
    split at h
    · simp at h
    · next cs hcs =>
      right
      split at h
      · simp at h
      · next hcomputed =>
        split at h
        · next hcolumn =>
          obtain rfl := Except.ok.inj h
          refine ⟨_, rfl, ?_, hcolumn, by simpa using hcomputed⟩
          rw [← String.toList_inj]
          simp [Entity.unmarked, hcs]
        · simp at h
    · next hnil hdollar =>
      left
      obtain rfl := Except.ok.inj h
      refine ⟨rfl, ?_, fun hempty => hnil (by simp [hempty])⟩
      cases hcs : s.toList with
      | nil => exact absurd hcs hnil
      | cons c cs =>
        have hc : c ≠ '$' := by
          rintro rfl
          exact hdollar cs hcs
        simpa [isPropertyKey, Value.asText?, hcs] using hc

lemma accepts_iff {e : Entity} {key : Value} {s : String} (hs : key.asText? = some s) :
    Accepts e s ↔ ∃ place, placeOf e key = .ok place := by
  constructor
  · rintro (⟨hproperty, hne⟩ | ⟨c, rfl, hcolumn, hcomputed⟩)
    · refine ⟨.property, ?_⟩
      rw [placeOf, hs]
      dsimp only
      split
      · next hnil => exact absurd (by simpa using hnil) hne
      · next cs hcs => simp [isPropertyKey, Value.asText?, hcs] at hproperty
      · rfl
    · refine ⟨.column c, ?_⟩
      have hunmarked : Entity.unmarked ("$" ++ c) = c := by simp [Entity.unmarked]
      rw [placeOf, hs]
      simp only [String.toList_append, hunmarked, hcolumn, if_true]
      rw [if_neg (by simpa using hcomputed)]
      rfl
  · rintro ⟨place, h⟩
    obtain ⟨t, ht, hplace⟩ := placeOf_eq_ok h
    obtain rfl := Option.some.inj (hs.symm.trans ht)
    rcases hplace with ⟨-, hproperty, hne⟩ | ⟨c, -, heq, hcolumn, hcomputed⟩
    · exact Or.inl ⟨hproperty, hne⟩
    · exact Or.inr ⟨c, heq, hcolumn, hcomputed⟩

section

variable {e : Entity} {ms : Members} {row : Row} {data : Members}

/-- An object falls into values of columns and members of the data container, in their plain
forms. -/
inductive Partitions (e : Entity) : Members → Row → Members → Prop
  | nil : Partitions e [] [] []
  | property {k v : Value} {s : String} {ms : Members} {row : Row} {data : Members}
    (hs : k.asText? = some s) (hproperty : isPropertyKey (.text s) = true)
    (hrest : Partitions e ms row data) :
    Partitions e ((k, v) :: ms) row ((k, v.normalize) :: data)
  | column {k v : Value} {c : String} {ms : Members} {row : Row} {data : Members}
    (hs : k.asText? = some ("$" ++ c)) (hcolumn : e.hasColumn c = true)
    (hcomputed : "$" ++ c ≠ Entity.computedKey) (hrest : Partitions e ms row data) :
    Partitions e ((k, v) :: ms) ((c, v.normalize) :: row) data

lemma partitions_of_eq_ok (h : partition e ms = .ok (row, data)) : Partitions e ms row data := by
  induction ms generalizing row data with
  | nil =>
    obtain ⟨rfl, rfl⟩ := Prod.mk.inj (Except.ok.inj h)
    exact .nil
  | cons m ms ih =>
    obtain ⟨k, v⟩ := m
    rw [partition] at h
    obtain ⟨place, hplace, h⟩ := Result.bind_eq_ok_iff.1 h
    obtain ⟨s, hs, ⟨rfl, hproperty, -⟩ | ⟨c, rfl, rfl, hcolumn, hcomputed⟩⟩ := placeOf_eq_ok hplace
    · obtain ⟨⟨row', data'⟩, hrest, h⟩ := Result.bind_eq_ok_iff.1 h
      obtain ⟨rfl, rfl⟩ := Prod.mk.inj (Except.ok.inj h)
      exact .property hs hproperty (ih hrest)
    · obtain ⟨⟨row', data'⟩, hrest, h⟩ := Result.bind_eq_ok_iff.1 h
      obtain ⟨rfl, rfl⟩ := Prod.mk.inj (Except.ok.inj h)
      exact .column hs hcolumn hcomputed (ih hrest)

/-- The columns of an object have what it gives for their keys. -/
lemma Partitions.get?_eq (h : Partitions e ms row data) (column : String) :
    get? row column = (Members.getText? ms ("$" ++ column)).map Value.normalize := by
  induction h with
  | nil => rfl
  | property hs hproperty _ ih =>
    rw [Members.getText?_cons, hs, if_neg, ih]
    intro heq
    rw [Option.some.inj heq, isPropertyKey_dollar] at hproperty
    simp at hproperty
  | @column k v c ms row data hs _ _ _ ih =>
    rw [Members.getText?_cons, hs, get?_cons]
    by_cases hc : c = column
    · simp [hc]
    · rw [if_neg hc, if_neg, ih]
      intro heq
      refine hc (String.toList_inj.1 ?_)
      simpa using congrArg String.toList (Option.some.inj heq)

lemma get?_partition (h : partition e ms = .ok (row, data)) (column : String) :
    get? row column = (Members.getText? ms ("$" ++ column)).map Value.normalize :=
  (partitions_of_eq_ok h).get?_eq column

/-- The plain members of an object, in their plain forms. -/
def plainMembers (ms : Members) : Members :=
  (ms.filter fun m => isPropertyKey m.1).map fun m => (m.1, m.2.normalize)

lemma data_of_partition (h : partition e ms = .ok (row, data)) : data = plainMembers ms := by
  replace h := partitions_of_eq_ok h
  induction h with
  | nil => rfl
  | property hs hproperty _ ih =>
    rw [plainMembers, List.filter_cons_of_pos (by rw [isPropertyKey_eq hs, hproperty]),
      List.map_cons, ih]
    rfl
  | column hs _ _ _ ih =>
    rw [plainMembers,
      List.filter_cons_of_neg (by simp [isPropertyKey_eq hs, isPropertyKey_dollar]), ih]
    rfl

/-- The properties of an object are what it gives for their keys. -/
lemma getText?_partition (h : partition e ms = .ok (row, data)) (s : String) :
    Members.getText? data s = (property? ms (.text s)).map Value.normalize := by
  have hread : ∀ ms, property? ms (.text s) =
      if isPropertyKey (.text s) then Members.getText? ms s else none := fun _ => rfl
  simp only [hread]
  replace h := partitions_of_eq_ok h
  induction h with
  | nil => simp
  | @property k v t ms row data ht hproperty _ ih =>
    rw [Members.getText?_cons, Members.getText?_cons, ht, ih]
    by_cases hst : t = s
    · simp [← hst, hproperty]
    · simp [hst]
  | @column k v c ms row data ht _ _ _ ih =>
    rw [Members.getText?_cons, ht, ih]
    by_cases hst : "$" ++ c = s
    · simp [← hst, isPropertyKey_dollar]
    · simp [hst]

lemma exists_mem_of_partition (h : partition e ms = .ok (row, data)) {m : Value × Value}
    (hm : m ∈ data) : ∃ v, (m.1, v) ∈ ms ∧ m.2 = v.normalize := by
  rw [data_of_partition h] at hm
  obtain ⟨n, hn, rfl⟩ := List.mem_map.1 hm
  exact ⟨n.2, (List.mem_filter.1 hn).1, rfl⟩

/-- The two parts of an object have no key twice, when the object has not. -/
lemma isKeyed_partition (hms : ms.IsKeyed) (h : partition e ms = .ok (row, data)) :
    data.IsKeyed ∧ row.IsDistinct := by
  constructor
  · refine ⟨fun m hm => ?_, ?_⟩
    · obtain ⟨v, hv, -⟩ := exists_mem_of_partition h hm
      exact hms.1 (m.1, v) hv
    · have hkeys : data.map (·.1.asText?) =
          (ms.filter fun m => isPropertyKey m.1).map (·.1.asText?) := by
        simp [data_of_partition h, plainMembers, Function.comp_def]
      rw [hkeys]
      exact hms.2.sublist (List.filter_sublist.map _)
  · replace h := partitions_of_eq_ok h
    induction h with
    | nil => simp [IsDistinct]
    | property _ _ _ ih => exact ih hms.tail
    | column hs _ _ hrest ih =>
      refine List.nodup_cons.2 ⟨fun hmem => ?_, ih hms.tail⟩
      obtain ⟨⟨c', w⟩, hm, rfl⟩ := List.mem_map.1 hmem
      have hget := (ih hms.tail).get?_of_mem hm
      rw [hrest.get?_eq, Members.IsKeyed.getText?_tail_eq_none hms hs] at hget
      simp at hget

lemma hasColumn_of_mem_partition (h : partition e ms = .ok (row, data)) {c : String × Value}
    (hc : c ∈ row) : e.hasColumn c.1 = true := by
  replace h := partitions_of_eq_ok h
  induction h with
  | nil => simp at hc
  | property _ _ _ ih => exact ih hc
  | column _ hcolumn _ _ ih =>
    rcases List.mem_cons.1 hc with rfl | hc
    · exact hcolumn
    · exact ih hc

end

/-! ### Rows of objects -/

/-- What an object gives for the data container itself, in its plain form. -/
def explicit? (e : Entity) (ms : Members) : Option Value :=
  (Members.getText? ms ("$" ++ e.container)).map Value.normalize

/-- What an object gives for a property under its plain key, in its plain form. -/
def plain? (ms : Members) (s : String) : Option Value :=
  (property? ms (.text s)).map Value.normalize

/-- An object gives a property under its plain key. -/
def givesPlain (ms : Members) : Bool := ms.any fun m => isPropertyKey m.1

lemma givesPlain_eq (ms : Members) : givesPlain ms = !(plainMembers ms).isEmpty := by
  unfold givesPlain plainMembers
  induction ms with
  | nil => rfl
  | cons m ms ih =>
    rw [List.any_cons, List.filter_cons, ih]
    cases isPropertyKey m.1 <;> simp

lemma isEmpty_partition {e : Entity} {ms : Members} {row : Row} {data : Members}
    (h : partition e ms = .ok (row, data)) : data.isEmpty = !givesPlain ms := by
  rw [givesPlain_eq, Bool.not_not, data_of_partition h]

/-- The members of a mapping; none of any other value. -/
def membersOf : Option Value → Members
  | some (.dict ms) => ms
  | _ => []

/-- What a row has for a property in the data container. -/
def inContainer? (e : Entity) (r : Row) (s : String) : Option Value :=
  Members.getText? (membersOf (get? r e.container)) s

lemma getText?_membersOf {x : Option Value} {s : String} {v : Value}
    (h : Members.getText? (membersOf x) s = some v) :
    ∃ ms, x = some (.dict ms) ∧ Members.getText? ms s = some v := by
  unfold membersOf at h
  split at h
  · next ms => exact ⟨ms, rfl, h⟩
  · simp at h

/-- The explicit value of the data container is a mapping, or it counts as false and as an empty
one. -/
lemma containerMembers_eq_ok {v : Value} {given : Members} (h : containerMembers v = .ok given) :
    v.truth = false ∧ given = [] ∨ v = .dict given := by
  unfold containerMembers at h
  split at h
  · next hfalse => exact Or.inl ⟨by simpa using hfalse, (Except.ok.inj h).symm⟩
  · split at h
    · exact Or.inr (congrArg Value.dict (Except.ok.inj h))
    · simp at h

lemma containerMembers_eq_error {v : Value} {err : Error} (h : containerMembers v = .error err) :
    err = .fault .wrongType := by
  unfold containerMembers at h
  split at h
  · simp at h
  · split at h
    · simp at h
    · exact (Except.error.inj h).symm

lemma membersOf_of_containerMembers {v : Value} {given : Members}
    (h : containerMembers v = .ok given) : membersOf (some v) = given := by
  rcases containerMembers_eq_ok h with ⟨hfalse, rfl⟩ | rfl
  · cases v <;> first | rfl | simpa [Value.truth, membersOf] using hfalse
  · rfl

lemma containerMembers_dict (ms : Members) : containerMembers (.dict ms) = .ok ms := by
  unfold containerMembers
  cases ms <;> rfl

lemma plain?_eq (ms : Members) (s : String) : plain? ms s =
    if isPropertyKey (.text s) then (Members.getText? ms s).map Value.normalize else none := by
  unfold plain? property? Members.getText?
  split <;> rfl

lemma givesPlain_iff {ms : Members} (hms : ms.IsKeyed) :
    givesPlain ms = true ↔ ∃ s v, plain? ms s = some v := by
  simp only [givesPlain, List.any_eq_true, plain?_eq]
  constructor
  · rintro ⟨⟨k, v⟩, hm, hk⟩
    obtain ⟨s, hs⟩ := Option.isSome_iff_exists.1 (hms.1 (k, v) hm)
    refine ⟨s, v.normalize, ?_⟩
    rw [if_pos (by rw [← isPropertyKey_eq hs]; exact hk), hms.getText?_of_mem hm hs]
    rfl
  · rintro ⟨s, v, h⟩
    split at h
    · next hs =>
      obtain ⟨w, hw, -⟩ := Option.map_eq_some_iff.1 h
      obtain ⟨k, hm, hk⟩ := Members.exists_mem_of_getText? hw
      exact ⟨(k, w), hm, by rw [isPropertyKey_eq hk]; exact hs⟩
    · simp at h

section

variable {e : Entity} {ms : Members} {row : Row}

/-- A row of an object is that of its columns, or it has the properties of the object in the data
container. -/
lemma ofMembers_eq_ok (h : ofMembers e ms = .ok row) :
    ∃ columns data, partition e ms = .ok (columns, data) ∧
      (givesPlain ms = false ∧ row = columns ∨
        givesPlain ms = true ∧
          ∃ given, containerMembers ((explicit? e ms).getD .null) = .ok given ∧
            row = put e.container (.dict (Members.merge given data)) columns) := by
  obtain ⟨⟨columns, data⟩, hpartition, h⟩ := Result.bind_eq_ok_iff.1 h
  refine ⟨columns, data, hpartition, ?_⟩
  dsimp only at h
  rw [withData, isEmpty_partition hpartition] at h
  cases hplain : givesPlain ms with
  | false =>
    rw [hplain] at h
    exact Or.inl ⟨rfl, (Except.ok.inj h).symm⟩
  | true =>
    rw [hplain] at h
    obtain ⟨given, hgiven, h⟩ := Result.bind_eq_ok_iff.1 h
    rw [get?_partition hpartition] at hgiven
    exact Or.inr ⟨rfl, given, hgiven, (Except.ok.inj h).symm⟩

/-- A value of a row is what the object gives for the key of the column, in its plain form, or the
mapping of its properties over what it gives for the data container. -/
lemma cases_of_get?_ofMembers (h : ofMembers e ms = .ok row) {column : String} {v : Value}
    (hv : get? row column = some v) :
    (∃ u, Members.getText? ms ("$" ++ column) = some u ∧ u.normalize = v) ∨
      ∃ columns data given, partition e ms = .ok (columns, data) ∧
        containerMembers ((explicit? e ms).getD .null) = .ok given ∧
        v = .dict (Members.merge given data) := by
  obtain ⟨columns, data, hpartition, ⟨-, rfl⟩ | ⟨-, given, hgiven, rfl⟩⟩ := ofMembers_eq_ok h
  · rw [get?_partition hpartition] at hv
    exact Or.inl (Option.map_eq_some_iff.1 hv)
  · rw [get?_put] at hv
    split at hv
    · exact Or.inr ⟨columns, data, given, hpartition, hgiven, (Option.some.inj hv).symm⟩
    · rw [get?_partition hpartition] at hv
      exact Or.inl (Option.map_eq_some_iff.1 hv)

/-- Under a column other than the data container stands what the object gives for its key. -/
lemma get?_ofMembers (h : ofMembers e ms = .ok row) {column : String} (hne : column ≠ e.container) :
    get? row column = (Members.getText? ms ("$" ++ column)).map Value.normalize := by
  obtain ⟨columns, data, hpartition, ⟨-, rfl⟩ | ⟨-, given, -, rfl⟩⟩ := ofMembers_eq_ok h
  · exact get?_partition hpartition column
  · rw [get?_put, if_neg hne.symm, get?_partition hpartition]

/-- Without plain keys, under the data container stands what the object gives for it. -/
lemma get?_container (h : ofMembers e ms = .ok row) (hplain : givesPlain ms = false) :
    get? row e.container = explicit? e ms := by
  obtain ⟨columns, data, hpartition, ⟨-, rfl⟩ | ⟨hyes, -⟩⟩ := ofMembers_eq_ok h
  · exact get?_partition hpartition e.container
  · rw [hplain] at hyes
    simp at hyes

/-- With plain keys, under the data container stands a mapping. -/
lemma exists_get?_container (h : ofMembers e ms = .ok row) (hplain : givesPlain ms = true) :
    ∃ ns, get? row e.container = some (.dict ns) := by
  obtain ⟨columns, data, hpartition, ⟨hno, -⟩ | ⟨-, given, -, rfl⟩⟩ := ofMembers_eq_ok h
  · rw [hplain] at hno
    simp at hno
  · exact ⟨_, by rw [get?_put, if_pos rfl]⟩

/-- In the data container, a plain key counts before what is given for the container itself. -/
lemma inContainer?_ofMembers (hms : ms.IsKeyed) (h : ofMembers e ms = .ok row) (s : String) :
    inContainer? e row s =
      (plain? ms s).or (Members.getText? (membersOf (explicit? e ms)) s) := by
  obtain ⟨columns, data, hpartition, ⟨hno, rfl⟩ | ⟨-, given, hgiven, rfl⟩⟩ :=
    ofMembers_eq_ok h
  · have hnone : plain? ms s = none := by
      by_contra hne
      obtain ⟨v, hv⟩ := Option.ne_none_iff_exists'.1 hne
      rw [(givesPlain_iff hms).2 ⟨s, v, hv⟩] at hno
      simp at hno
    rw [hnone, inContainer?, get?_partition hpartition]
    rfl
  · have hgiven : membersOf (explicit? e ms) = given := by
      rw [← membersOf_of_containerMembers hgiven]
      cases explicit? e ms <;> rfl
    rw [inContainer?, get?_put, if_pos rfl, membersOf,
      Members.getText?_merge_of_isKeyed given (isKeyed_partition hms hpartition).1,
      getText?_partition hpartition, hgiven]
    rfl

/-- The mapping in the data container has text keys, when what is given for it has. -/
lemma isKeyed_container (hms : ms.IsKeyed) (h : ofMembers e ms = .ok row)
    (hexplicit : (membersOf (explicit? e ms)).IsKeyed) :
    (membersOf (get? row e.container)).IsKeyed := by
  obtain ⟨columns, data, hpartition, ⟨-, rfl⟩ | ⟨-, given, hgiven, rfl⟩⟩ :=
    ofMembers_eq_ok h
  · rw [get?_partition hpartition]
    exact hexplicit
  · have hgiven : membersOf (explicit? e ms) = given := by
      rw [← membersOf_of_containerMembers hgiven]
      cases explicit? e ms <;> rfl
    rw [get?_put, if_pos rfl, membersOf, ← hgiven]
    exact Members.isKeyed_merge hexplicit (isKeyed_partition hms hpartition).1.1

lemma map_fst_put (column : String) (v : Value) (r : Row) : (put column v r).map Prod.fst =
    if column ∈ r.map Prod.fst then r.map Prod.fst else r.map Prod.fst ++ [column] := by
  induction r with
  | nil => simp [put]
  | cons c r ih =>
    rw [put]
    split
    · next hc =>
      have hc : c.1 = column := by simpa using hc
      simp [hc]
    · next hc =>
      have hc : ¬ column = c.1 := by
        rintro rfl
        simp at hc
      rw [List.map_cons, ih]
      simp only [List.map_cons, List.mem_cons, hc, false_or, List.cons_append]
      split <;> rfl

/-- A row has columns of the entity and the data container. -/
lemma column_of_mem_ofMembers (h : ofMembers e ms = .ok row) {c : String × Value} (hc : c ∈ row) :
    e.hasColumn c.1 = true ∨ c.1 = e.container := by
  obtain ⟨columns, data, hpartition, ⟨-, rfl⟩ | ⟨-, given, -, rfl⟩⟩ := ofMembers_eq_ok h
  · exact Or.inl (hasColumn_of_mem_partition hpartition hc)
  · have hmem := List.mem_map_of_mem (f := Prod.fst) hc
    rw [map_fst_put] at hmem
    have hcolumns : c.1 ∈ columns.map Prod.fst → e.hasColumn c.1 = true := by
      intro hin
      obtain ⟨d, hd, heq⟩ := List.mem_map.1 hin
      exact heq ▸ hasColumn_of_mem_partition hpartition hd
    split at hmem
    · exact Or.inl (hcolumns hmem)
    · rcases List.mem_append.1 hmem with hmem | hmem
      · exact Or.inl (hcolumns hmem)
      · exact Or.inr (by simpa using hmem)

lemma IsDistinct.put {r : Row} (h : r.IsDistinct) (column : String) (v : Value) :
    (put column v r).IsDistinct := by
  unfold IsDistinct
  rw [map_fst_put]
  split
  · exact h
  · next hnot =>
    refine List.nodup_append.2 ⟨h, by simp, ?_⟩
    rintro c hc d hd rfl
    rw [List.mem_singleton.1 hd] at hc
    exact hnot hc

/-- The row of an object has no column twice. -/
lemma isDistinct_ofMembers (hms : ms.IsKeyed) (h : ofMembers e ms = .ok row) :
    row.IsDistinct := by
  obtain ⟨columns, data, hpartition, ⟨-, rfl⟩ | ⟨-, given, -, rfl⟩⟩ := ofMembers_eq_ok h
  · exact (isKeyed_partition hms hpartition).2
  · exact (isKeyed_partition hms hpartition).2.put e.container _

end

end Row

end DocumentSql

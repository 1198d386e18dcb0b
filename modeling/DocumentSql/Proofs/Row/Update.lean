/-
What an update writes.

An update assigns to every changed column its new value.  Whether a column is changed is decided
by a comparison that hides some differences (`Value.HiddenDifference`), so an update of JSON values
makes the row that the patched object has, but for the columns whose old and new values have
nothing but a hidden difference (`Statement.update_makes_iff`).
-/
import DocumentSql.Proofs.Json.Value
import DocumentSql.Proofs.Row.Change
import DocumentSql.Proofs.Sql.Bare
import DocumentSql.Statement

namespace DocumentSql

open Sql

/-! ### Rows of JSON objects -/

namespace Members

lemma mem_merge_key {ms extra : Members} {m : Value × Value} (h : m ∈ merge ms extra) :
    (∃ n ∈ ms, n.1 = m.1) ∨ ∃ n ∈ extra, n.1 = m.1 := by
  induction extra generalizing ms with
  | nil => exact Or.inl ⟨m, h, rfl⟩
  | cons n extra ih =>
    rcases ih h with ⟨o, ho, heq⟩ | ⟨o, ho, heq⟩
    · rcases mem_insert_key ho with hkey | ⟨o', ho', hkey⟩
      · exact Or.inr ⟨n, List.mem_cons_self, by rw [← heq, hkey]⟩
      · exact Or.inl ⟨o', ho', hkey.trans heq⟩
    · exact Or.inr ⟨o, List.mem_cons_of_mem n ho, heq⟩

/-- The key and the value of a merged member may come from different mappings. -/
lemma forall_mem_merge {P Q : Value → Prop} {ms extra : Members}
    (hms : ∀ m ∈ ms, P m.1 ∧ Q m.2) (hextra : ∀ m ∈ extra, P m.1 ∧ Q m.2) :
    ∀ m ∈ merge ms extra, P m.1 ∧ Q m.2 := by
  intro m hm
  constructor
  · rcases mem_merge_key hm with ⟨n, hn, heq⟩ | ⟨n, hn, heq⟩
    · exact heq ▸ (hms n hn).1
    · exact heq ▸ (hextra n hn).1
  · rcases mem_merge hm with hm | ⟨n, hn, heq⟩
    · exact (hms m hm).2
    · exact heq ▸ (hextra n hn).2

/-- JSON objects are merged to a JSON object. -/
lemma isJson_merge {ms extra : Members} (hms : (Value.dict ms).IsJson)
    (hextra : (Value.dict extra).IsJson) : (Value.dict (merge ms extra)).IsJson := by
  obtain ⟨hkeyed, hms⟩ := Value.isJson_dict.1 hms
  obtain ⟨hkeyed', hextra⟩ := Value.isJson_dict.1 hextra
  exact Value.isJson_dict.2
    ⟨isKeyed_merge hkeyed hkeyed'.1,
      forall_mem_merge (P := fun k => ∃ s, k = .text s) hms hextra⟩

end Members

namespace Row

open Members (getText? merge)

variable {e : Entity} {ms : Members} {row before after : Row} {column : String}

lemma isJson_normalize {v : Value} (h : v.IsJson) : v.normalize.IsJson := by
  rwa [h.normalize_eq]

lemma isJson_containerMembers {v : Value} {given : Members} (hv : v.IsJson)
    (h : containerMembers v = .ok given) : (Value.dict given).IsJson := by
  rcases containerMembers_eq_ok h with ⟨-, rfl⟩ | rfl
  · exact Value.isJson_dict.2 ⟨Members.isKeyed_nil, by simp⟩
  · exact hv

lemma isJson_explicit (hms : (Value.dict ms).IsJson) : ((explicit? e ms).getD .null).IsJson := by
  cases hu : getText? ms ("$" ++ e.container) with
  | none => simp [explicit?, hu, Value.IsJson]
  | some u => simpa [explicit?, hu] using isJson_normalize (hms.getText? hu)

/-- The row of a JSON object holds JSON values. -/
theorem isJson_of_ofMembers (hms : (Value.dict ms).IsJson) (h : ofMembers e ms = .ok row)
    {v : Value} (hv : get? row column = some v) : v.IsJson := by
  rcases cases_of_get?_ofMembers h hv with
    ⟨u, hu, rfl⟩ | ⟨columns, data, given, hpartition, hgiven, rfl⟩
  · exact isJson_normalize (hms.getText? hu)
  · refine Members.isJson_merge (isJson_containerMembers (isJson_explicit hms) hgiven) ?_
    refine Value.isJson_dict.2
      ⟨(isKeyed_partition (Value.isJson_dict.1 hms).1 hpartition).1, fun m hm => ?_⟩
    obtain ⟨w, hw, heq⟩ := exists_mem_of_partition hpartition hm
    obtain ⟨hkey, hw⟩ := (Value.isJson_dict.1 hms).2 (m.1, w) hw
    exact ⟨hkey, heq ▸ isJson_normalize hw⟩

/-! ### The row behind an update -/

/-- The values of a column in two rows differ, and nothing but what is hidden tells them apart. -/
def Overlooks (before after : Row) (column : String) : Prop :=
  ∃ v w, get? before column = some v ∧ get? after column = some w ∧ v.differs w = false ∧
    v.HiddenDifference w

namespace Patched

variable {stored patch : Members}

/-- Rows of JSON objects, before and after a patch. -/
lemma of_isJson (hstored : (Value.dict stored).IsJson) (hpatch : (Value.dict patch).IsJson)
    (hbefore : ofMembers e stored = .ok before)
    (hafter : ofMembers e (merge stored patch) = .ok after) :
    Patched e stored patch before after where
  stored_keyed := (Value.isJson_dict.1 hstored).1
  patch_keyed := (Value.isJson_dict.1 hpatch).1
  before_eq := hbefore
  after_eq := hafter
  before_formed _ _ hv := (isJson_of_ofMembers hstored hbefore hv).isFormed
  after_formed _ _ hv := (isJson_of_ofMembers (Members.isJson_merge hstored hpatch) hafter
    hv).isFormed.mono fun _ _ => trivial

/-- A patch takes no column away. -/
lemma get?_before_eq_none (h : Patched e stored patch before after)
    (hnone : get? after column = none) : get? before column = none := by
  by_cases hc : column = e.container
  · subst hc
    -- the container is there when a plain member is given, or a container of its own
    cases hplain : givesPlain (merge stored patch) with
    | true =>
      obtain ⟨ns, hns⟩ := exists_get?_container h.after_eq hplain
      simp [hns] at hnone
    | false =>
      rw [get?_container h.after_eq hplain, explicit?_merge h.patch_keyed] at hnone
      rw [givesPlain_merge h.stored_keyed h.patch_keyed, Bool.or_eq_false_iff] at hplain
      rw [get?_container h.before_eq hplain.1]
      exact (Option.or_eq_none_iff.1 hnone).2
  · rw [h.get?_after hc] at hnone
    exact (Option.or_eq_none_iff.1 hnone).2

/-- With the changes made, a column holds what it has after the patch, unless the difference was
overlooked. -/
theorem updated_jsonEq_iff (h : Patched e stored patch before after)
    (hstored : (Value.dict stored).IsJson) (hpatch : (Value.dict patch).IsJson)
    (hid : column ≠ "id") :
    Option.Rel Value.JsonEq
      (get? (updated before (changes e stored patch before after)) column) (get? after column) ↔
      ¬ Overlooks before after column := by
  rw [get?_updated h.isDistinct_changes, h.get?_changes]
  cases hw : get? after column with
  | none =>
    rw [h.get?_before_eq_none hw]
    simp [Overlooks, hw]
  | some w =>
    have hjson := isJson_of_ofMembers (Members.isJson_merge hstored hpatch) h.after_eq hw
    cases hv : get? before column with
    | none =>
      simp [Overlooks, hv, hid, Option.filter, Value.jsonEq_refl hjson]
    | some v =>
      have hjson' := isJson_of_ofMembers hstored h.before_eq hv
      cases hdiffers : v.differs w with
      | true =>
        simp [Overlooks, hv, hw, hid, Option.filter, hdiffers, Value.jsonEq_refl hjson]
      | false =>
        -- the column is left as it is
        have hcases := Value.jsonEq_or_hidden hjson' hjson hdiffers
        have hoverlooks : Overlooks before after column ↔ v.HiddenDifference w := by
          simp [Overlooks, hv, hw, hdiffers]
        rw [hoverlooks]
        simp only [Option.filter, hdiffers, Option.all_some, Bool.and_false, Bool.false_eq_true,
          if_false, Option.none_or, Option.rel_some_some]
        exact ⟨fun heq hhidden => Value.not_jsonEq_of_hidden hhidden hjson' hjson heq,
          fun hnot => hcases.resolve_right hnot⟩

end Patched

end Row

/-! ### The statement of an update -/

namespace Statement

open Members (merge)

variable {e : Entity} {stored patch : Members} {changes : Row}

/-- The statement assigns to the columns of the row, in order, the parameters of their values, in
the row of the table that a column and its value identify. -/
structure Assigns (e : Entity) (changes : Row) (column : String) (v : Value) (s : Statement) :
    Prop where
  text : bare s.text = [' '].intercalate [bare ("UPDATE " ++ e.table ++ " SET"),
    ", ".toList.intercalate (changes.map fun c => bare (c.1 ++ " = $")),
    bare ("WHERE " ++ column ++ " = $ RETURNING *")]
  params : ∃ ps, encodeAll (changes.map Prod.snd) = .ok ps ∧ s.params = ps ++ [v]

lemma assignments_eq_ok {ps : List Predicate} (h : assignments changes = .ok ps) :
    ps.filter (!·.isEmpty) = ps ∧
      ps.map (fun p => bare p.text) = changes.map (fun c => bare (c.1 ++ " = $")) ∧
      encodeAll (changes.map Prod.snd) = .ok (Predicate.allParams ps) := by
  induction changes generalizing ps with
  | nil =>
    obtain rfl := Except.ok.inj h
    exact ⟨rfl, rfl, rfl⟩
  | cons c changes ih =>
    obtain ⟨column, v⟩ := c
    obtain ⟨w, hw, h⟩ := Result.bind_eq_ok_iff.1 h
    obtain ⟨p, hp, h⟩ := Result.bind_eq_ok_iff.1 h
    obtain ⟨qs, hqs, h⟩ := Result.bind_eq_ok_iff.1 h
    obtain rfl := Except.ok.inj h
    obtain ⟨hfilter, htexts, hparams⟩ := ih hqs
    have hne : p.isEmpty = false := Predicate.isEmpty_of_make_ne hp (by simp)
    have hsingle : p.params = [w] := Predicate.params_of_make hp
    refine ⟨?_, ?_, ?_⟩
    · rw [List.filter_cons_of_pos (by simp [hne]), hfilter]
    · rw [List.map_cons, List.map_cons, htexts, Predicate.bare_of_make hp]
    · simp [encodeAll, hw, hparams, Predicate.allParams, hsingle, bind, Except.bind]

/-- The assignments of an update, with commas between them. -/
lemma assigned_eq_ok {ps : List Predicate} {p : Predicate} (hne : changes ≠ [])
    (hps : assignments changes = .ok ps) (h : Predicate.chain ps ", " = .ok p) :
    p.isEmpty = false ∧
      bare p.text = ", ".toList.intercalate (changes.map fun c => bare (c.1 ++ " = $")) ∧
      encodeAll (changes.map Prod.snd) = .ok p.params := by
  obtain ⟨hfilter, htexts, hvalues⟩ := assignments_eq_ok hps
  have hcomma : Predicate.Separates ", " := ⟨⟨',', rfl, by decide⟩, by decide⟩
  have hbare : bare p.text =
      ", ".toList.intercalate (changes.map fun c => bare (c.1 ++ " = $")) := by
    rw [Predicate.bare_chain hcomma h, hfilter, htexts]
  refine ⟨?_, hbare, ?_⟩
  · obtain ⟨c, changes, rfl⟩ := List.exists_cons_of_ne_nil hne
    have hfirst : bare (c.1 ++ " = $") ≠ [] := by simp [Predicate.bare_eq_nil_iff]
    rw [← Predicate.bare_ne_nil_iff, hbare]
    cases changes with
    | nil => simpa using hfirst
    | cons d changes => simp [List.intercalate_cons_cons]
  · have hparams : p.params = Predicate.allParams (ps.filter (!·.isEmpty)) :=
      Predicate.params_of_make h
    rw [hvalues, hparams, hfilter]

/-- The fragments of an update: its table, the assignments and the condition on the row.  None is
empty. -/
lemma exists_fragments {column : String} {v : Value} {s : Statement} (hne : changes ≠ [])
    (h : updateRow e changes column v = .ok s) :
    ∃ ps q assigned target p, assignments changes = .ok ps ∧
      Predicate.ofText ("UPDATE " ++ e.table ++ " SET") [] = .ok q ∧
      Predicate.chain ps ", " = .ok assigned ∧
      Predicate.ofText ("WHERE " ++ column ++ " = $ RETURNING *") [v] = .ok target ∧
      [q, assigned, target].filter (!·.isEmpty) = [q, assigned, target] ∧
      Predicate.chain [q, assigned, target] " " = .ok p ∧ s = ⟨p.text, p.params⟩ := by
  obtain ⟨ps, hps, h⟩ := Result.bind_eq_ok_iff.1 h
  obtain ⟨assigned, hassigned, h⟩ := Result.bind_eq_ok_iff.1 h
  obtain ⟨target, htarget, h⟩ := Result.bind_eq_ok_iff.1 h
  obtain ⟨p, hp, h⟩ := Result.bind_eq_ok_iff.1 h
  obtain ⟨qs, hqs, hchain⟩ := Result.bind_eq_ok_iff.1 hp
  obtain ⟨q, hq, hqs⟩ := Result.bind_eq_ok_iff.1 hqs
  obtain rfl : [q, assigned, target] = qs := Except.ok.inj hqs
  have hqNe : q.isEmpty = false := Predicate.isEmpty_of_make_ne hq (by simp)
  have htargetNe : target.isEmpty = false := Predicate.isEmpty_of_make_ne htarget (by simp)
  have hkept : [q, assigned, target].filter (!·.isEmpty) = [q, assigned, target] := by
    simp [hqNe, (assigned_eq_ok hne hps hassigned).1, htargetNe]
  exact ⟨ps, q, assigned, target, p, hps, hq, hassigned, htarget, hkept, hchain,
    (Except.ok.inj h).symm⟩

lemma updateRow_assigns {column : String} {v : Value} {s : Statement} (hne : changes ≠ [])
    (h : updateRow e changes column v = .ok s) : Assigns e changes column v s := by
  obtain ⟨ps, q, assigned, target, p, hps, hq, hassigned, htarget, hkept, hchain, rfl⟩ :=
    exists_fragments hne h
  obtain ⟨-, hbare, hvalues⟩ := assigned_eq_ok hne hps hassigned
  have hblank : Predicate.Separates " " := ⟨⟨' ', rfl, by decide⟩, by decide⟩
  refine ⟨?_, assigned.params, hvalues, ?_⟩
  · rw [Predicate.bare_chain hblank hchain, hkept, ← hbare, ← Predicate.bare_of_make hq,
      ← Predicate.bare_of_make htarget]
    rfl
  · have hparams : p.params = Predicate.allParams ([q, assigned, target].filter (!·.isEmpty)) :=
      Predicate.params_of_make hchain
    have hnone : q.params = [] := Predicate.params_of_make hq
    have hlast : target.params = [v] := Predicate.params_of_make htarget
    rw [hparams, hkept]
    simp [Predicate.allParams, hnone, hlast]

/-- The steps of an update of objects. -/
lemma update_dict (e : Entity) (stored patch : Members) :
    update e (.dict stored) (.dict patch) =
      Row.identifyMembers e (merge patch stored) >>= fun found =>
        Row.changedColumns e (.dict stored) (.dict patch) >>= fun changes =>
          if changes.isEmpty then .ok none
          else (updateRow e changes found.1 found.2).map some :=
  rfl

/-- What comes of an update: nothing, when no column is changed, or a statement that assigns the
changes. -/
def Makes (e : Entity) (stored patch : Members) (changes : Row) : Option Statement → Prop
  | none => changes = []
  | some s => ∃ column v, Row.identifyMembers e (merge patch stored) = .ok (column, v) ∧
      Assigns e changes column v s

lemma update_eq_ok {outcome : Option Statement}
    (h : update e (.dict stored) (.dict patch) = .ok outcome) :
    ∃ changes, Row.changedColumns e (.dict stored) (.dict patch) = .ok changes ∧
      Makes e stored patch changes outcome := by
  rw [update_dict] at h
  obtain ⟨⟨column, v⟩, hidentified, h⟩ := Result.bind_eq_ok_iff.1 h
  obtain ⟨changes, hchanges, h⟩ := Result.bind_eq_ok_iff.1 h
  refine ⟨changes, hchanges, ?_⟩
  split at h
  · next hempty =>
    obtain rfl := Except.ok.inj h
    simpa [Makes] using hempty
  · next hne =>
    obtain ⟨s, hs, rfl⟩ := Result.map_eq_ok_iff.1 h
    exact ⟨column, v, hidentified, updateRow_assigns (by simpa using hne) hs⟩

/-- An update of a JSON object makes every column but the identifier what it is in the row of the
patched object, up to the order of members, unless the values of the column before and after have
nothing but a hidden difference; such a column is left as it is. -/
theorem update_makes_iff {outcome : Option Statement} (hstored : (Value.dict stored).IsJson)
    (hpatch : (Value.dict patch).IsJson)
    (h : update e (.dict stored) (.dict patch) = .ok outcome) :
    ∃ before after changes, Row.ofMembers e stored = .ok before ∧
      Row.ofMembers e (merge stored patch) = .ok after ∧ Makes e stored patch changes outcome ∧
      ∀ column, column ≠ "id" → (Option.Rel Value.JsonEq
        (Row.get? (Row.updated before changes) column) (Row.get? after column) ↔
          ¬ Row.Overlooks before after column) := by
  obtain ⟨changes, hchanges, hmakes⟩ := update_eq_ok h
  obtain ⟨before, hbefore, hchanges⟩ := Result.bind_eq_ok_iff.1 hchanges
  obtain ⟨_, hold, hchanges⟩ := Result.bind_eq_ok_iff.1 hchanges
  obtain ⟨_, hnew, hchanges⟩ := Result.bind_eq_ok_iff.1 hchanges
  obtain rfl := Except.ok.inj hold
  obtain rfl := Except.ok.inj hnew
  obtain ⟨after, hafter, hchanges⟩ := Result.bind_eq_ok_iff.1 hchanges
  obtain rfl := Except.ok.inj hchanges
  have hpatched := Row.Patched.of_isJson hstored hpatch hbefore hafter
  exact ⟨before, after, _, hbefore, hafter, hmakes, fun column hid =>
    hpatched.updated_jsonEq_iff hstored hpatch hid⟩

/-! ### Lists of one item -/

/-- A document with a list. -/
def listed (v : Value) : Members := [(.text "$id", .int 1), (.text "a", .list [v])]

/-- The row of the document. -/
def listedRow (v : Value) : Row :=
  [("id", .int 1), ("content", .dict [(.text "a", .list [v])])]

/-- Another list for the document. -/
def listing (v : Value) : Members := [(.text "a", .list [v])]

lemma isJson_listed (n : ℤ) : (Value.dict (listed (.int n))).IsJson := by
  have hkeyed : (listed (.int n)).IsKeyed := by
    constructor <;> simp [listed, Value.asText?]
  exact Value.isJson_dict.2 ⟨hkeyed, by simp [listed, Value.IsJson, Value.AllJson]⟩

lemma isJson_listing {v : Value} (hv : v.IsJson) : (Value.dict (listing v)).IsJson := by
  have hkeyed : (listing v).IsKeyed := by
    constructor <;> simp [listing, Value.asText?]
  exact Value.isJson_dict.2 ⟨hkeyed, by simp [listing, hv]⟩

lemma ofMembers_listed (v : Value) :
    Row.ofMembers .document (listed v) = .ok (listedRow v) := rfl

lemma ofMembers_merge_listing (v w : Value) :
    Row.ofMembers .document (merge (listed v) (listing w)) = .ok (listedRow w) := rfl

/-- Another number is written. -/
theorem listing_number_written :
    ∃ s changes, update .document (.dict (listed (.int 1))) (.dict (listing (.int 2))) =
        .ok (some s) ∧
      Makes .document (listed (.int 1)) (listing (.int 2)) changes (some s) ∧
      Option.Rel Value.JsonEq (Row.get? (Row.updated (listedRow (.int 1)) changes) "content")
        (some (.dict [(.text "a", .list [.int 2])])) := by
  have hsome : ((update .document (.dict (listed (.int 1)))
      (.dict (listing (.int 2)))).toOption.bind id).isSome = true := by
    decide +kernel
  rcases hs : update .document (.dict (listed (.int 1))) (.dict (listing (.int 2)))
    with x | _ | s
  · simp [hs, Except.toOption] at hsome
  · simp [hs, Except.toOption] at hsome
  · obtain ⟨before, after, changes, hbefore, hafter, hmakes, hcolumns⟩ :=
      update_makes_iff (isJson_listed 1) (isJson_listing (v := .int 2) trivial) hs
    obtain rfl := Except.ok.inj ((ofMembers_listed (.int 1)).symm.trans hbefore)
    obtain rfl := Except.ok.inj ((ofMembers_merge_listing (.int 1) (.int 2)).symm.trans hafter)
    refine ⟨s, changes, rfl, hmakes, (hcolumns "content" (by decide)).2 ?_⟩
    rintro ⟨v, w, hv, hw, hdiffers, -⟩
    obtain rfl := Option.some.inj (show some _ = some v from hv)
    obtain rfl := Option.some.inj (show some _ = some w from hw)
    revert hdiffers
    decide

/-- A truth value in the place of the number that it counts as is not written. -/
theorem listing_truth_lost :
    update .document (.dict (listed (.int 1))) (.dict (listing (.bool true))) = .ok none ∧
      Row.ofMembers .document (merge (listed (.int 1)) (listing (.bool true))) =
        .ok (listedRow (.bool true)) ∧
      ¬ Option.Rel Value.JsonEq (Row.get? (listedRow (.int 1)) "content")
        (Row.get? (listedRow (.bool true)) "content") := by
  refine ⟨rfl, rfl, ?_⟩
  have hconfused : (Value.list [.int 1]).HiddenDifference (.list [.bool true]) :=
    .confused rfl rfl (x := .int 1) (y := .bool true) (by simp) (by decide) (by decide)
  have hhidden : (Value.dict [(.text "a", .list [.int 1])]).HiddenDifference
      (.dict [(.text "a", .list [.bool true])]) := .underKey "a" rfl rfl hconfused
  intro hrel
  exact Value.not_jsonEq_of_hidden hhidden (isJson_listing (v := .int 1) trivial)
    (isJson_listing (v := .bool true) trivial) (Option.rel_some_some.1 hrel)

end Statement

end DocumentSql

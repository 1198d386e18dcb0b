/-
Traits that are prepared before a search.

A search takes its traits as a mapping or in normal form.  Written as a mapping, a normal form is
read back as it is (`Traits.IsNormal.ofMembers_toMembers`), and the traits of a count are those of
its search but for three of them, whether they are set in the mapping or in the normal form
(`Traits.ofMembers_insert_count`).  So preparing traits changes neither the statement nor the error
of a search or a count (`Search.select_count_prepared`).
-/
import DocumentSql.Proofs.Row.Identity
import DocumentSql.Proofs.Row.NanFree
import DocumentSql.Proofs.Search.Count
import DocumentSql.Proofs.Search.Traits

namespace DocumentSql

namespace Members

variable {ms extra : Members}

/-- Merging keeps the keys that are there. -/
lemma exists_mem_merge_of_mem {m : Value × Value} (hm : m ∈ ms) (extra : Members) :
    ∃ o ∈ merge ms extra, o.1 = m.1 := by
  obtain ⟨before, after, rfl⟩ := List.append_of_mem hm
  obtain ⟨before', v, after', heq, -⟩ := merge_append_cons before m.1 m.2 after extra
  exact ⟨(m.1, v), by simp [heq], rfl⟩

/-- A key that was merged is there, or an equal one. -/
lemma exists_mem_merge (ms : Members) {n : Value × Value} (hn : n ∈ extra) :
    ∃ m ∈ merge ms extra, m.1 = n.1 ∨ m.1.same n.1 = true := by
  have hinsert : ∀ (k v : Value) (ms : Members),
      ∃ m ∈ insert k v ms, m.1 = k ∨ m.1.same k = true := by
    intro k v ms
    induction ms with
    | nil => exact ⟨(k, v), by simp [insert], Or.inl rfl⟩
    | cons o ms ih =>
      rw [insert]
      split
      · next hsame => exact ⟨(o.1, v), by simp, Or.inr hsame⟩
      · obtain ⟨m, hm, heq⟩ := ih
        exact ⟨m, List.mem_cons_of_mem o hm, heq⟩
  induction extra generalizing ms with
  | nil => simp at hn
  | cons o extra ih =>
    rcases List.mem_cons.1 hn with rfl | hn
    · obtain ⟨m, hm, heq⟩ := hinsert n.1 n.2 ms
      obtain ⟨m', hm', heq'⟩ := exists_mem_merge_of_mem hm extra
      exact ⟨m', hm', heq'.symm ▸ heq⟩
    · exact ih _ hn

end Members

namespace Traits

open Members (getText? getD)

variable {defaults : SearchDefaults} {ms : Members} {t : Traits} {v : Value}

/-! ### The traits of a count -/

lemma isName_of_same {k k' : Value} (h : k.same k' = true) (hname : isName k = true) :
    isName k' = true := by
  unfold isName at hname
  split at hname
  · next s hs =>
    rw [Value.same_of_asText? hs, beq_iff_eq] at h
    rw [isName, h]
    exact hname
  · simp at hname

/-- Members have known names if their canonical members have. -/
lemma isName_canonicalName (h : ∀ m ∈ canonicalMembers ms, isName m.1 = true)
    {m : Value × Value} (hm : m ∈ ms) : isName (canonicalName m.1) = true := by
  have hmap : (canonicalName m.1, m.2) ∈ ms.map fun m => (canonicalName m.1, m.2) :=
    List.mem_map_of_mem hm
  obtain ⟨o, ho, hkey | hsame⟩ := Members.exists_mem_merge [] hmap
  · have hkey : o.1 = canonicalName m.1 := hkey
    exact hkey ▸ h o ho
  · exact isName_of_same hsame (h o ho)

lemma isName_canonicalMembers_counting (h : ∀ m ∈ canonicalMembers ms, isName m.1 = true) :
    ∀ m ∈ canonicalMembers (Members.insert (.text "count") (.bool true) ms),
      isName m.1 = true := by
  intro m hm
  rcases Members.mem_merge_key hm with ⟨n, hn, -⟩ | ⟨n, hn, heq⟩
  · simp at hn
  · obtain ⟨o, ho, rfl⟩ := List.mem_map.1 hn
    rw [← heq]
    rcases Members.mem_insert_key ho with hcount | ⟨o', ho', hkey⟩
    · dsimp only
      rw [hcount]
      decide
    · dsimp only
      rw [← hkey]
      exact isName_canonicalName h ho'

/-- No other spelling stands for the trait `count`. -/
lemma asText?_canonicalName {k : Value} :
    (canonicalName k).asText? = some "count" ↔ k.asText? = some "count" := by
  unfold canonicalName
  split
  · next h =>
    rw [beq_iff_eq.1 h]
    simp [Value.asText?]
  · rfl

lemma getText?_canonicalMembers_count (h : ms.IsUnique) :
    getText? (canonicalMembers ms) "count" = getText? ms "count" := by
  have hfold : ∀ (ms : Members), ms.IsUnique → ∀ found,
      (ms.map fun m => (canonicalName m.1, m.2)).foldl
          (fun found m => if m.1.asText? = some "count" then some m.2 else found) found =
        (getText? ms "count").or found := by
    intro ms
    induction ms with
    | nil => exact fun _ _ => rfl
    | cons m ms ih =>
      intro h found
      rw [List.map_cons, List.foldl_cons, ih (List.pairwise_cons.1 h).2, Members.getText?_cons]
      simp only [asText?_canonicalName]
      by_cases hm : m.1.asText? = some "count"
      · simp [hm, (Members.IsUnique.hasTextsOnce h).getText?_tail_eq_none hm]
      · simp [hm]
  rw [canonicalMembers, Members.ofList, Members.getText?_merge, hfold ms h]
  simp

/-- The traits of a count: it returns nothing but itself, in no order. -/
def counted (t : Traits) : Traits :=
  { t with fields := [.text "count"], order := [], count := true }

/-- Setting the trait `count` in a mapping sets it in the traits. -/
lemma ofMembers_insert_count (hms : ms.IsUnique) (h : ofMembers defaults ms = .ok t) :
    ofMembers defaults (Members.insert (.text "count") (.bool true) ms) = .ok t.counted := by
  obtain ⟨hnames, matching, limit, offset, hmatching, hlimit, hoffset, rfl⟩ :=
    ofCanonical_eq_ok_iff.1 h
  have hkeep : ∀ s, s ≠ "count" →
      getText? (canonicalMembers (Members.insert (.text "count") (.bool true) ms)) s =
        getText? (canonicalMembers ms) s := fun s hs =>
    (getText?_canonicalMembers_counting ms s).resolve_right fun h => hs h.1
  have hcount :
      getText? (canonicalMembers (Members.insert (.text "count") (.bool true) ms)) "count" =
        some (.bool true) := by
    rw [getText?_canonicalMembers_count (Members.isUnique_insert hms _ _),
      Members.getText?_insert]
    rfl
  have hkeepD : ∀ s, s ≠ "count" →
      getD (canonicalMembers (Members.insert (.text "count") (.bool true) ms)) s =
        getD (canonicalMembers ms) s := fun s hs => by rw [getD, getD, hkeep s hs]
  refine ofCanonical_eq_ok_iff.2 ⟨isName_canonicalMembers_counting hnames, matching, limit, offset,
    ?_, ?_, ?_, ?_⟩
  · rwa [hkeep _ (by decide)]
  · rwa [hkeepD _ (by decide)]
  · rwa [hkeepD _ (by decide)]
  · have htrue :
        isTrue (getD (canonicalMembers (Members.insert (.text "count") (.bool true) ms)) "count") =
          true := by
      rw [getD, hcount]
      rfl
    simp only [assembled, counted, htrue, hkeep "type_awareness" (by decide),
      hkeepD "group" (by decide), hkeepD "documents" (by decide), if_true]

/-! ### Reading traits back -/

lemma canonicalMembers_toMembers (t : Traits) : canonicalMembers t.toMembers = t.toMembers := rfl

lemma countOf_natCast (trait : String) (n : ℕ) : countOf trait (.int n) = .ok n := by
  simp [countOf, Value.toInteger, not_lt.2 (Int.natCast_nonneg n)]

/-- Traits that are written as a mapping are read back, but for the fields and the order: a count
gets its own ones, and without fields all are selected. -/
lemma ofMembers_toMembers (defaults : SearchDefaults) (t : Traits) :
    ofMembers defaults t.toMembers = .ok
      { t with
        fields := if t.count then [.text "count"] else fieldsOf (.list t.fields)
        order := if t.count then [] else t.order } := by
  rw [ofMembers, canonicalMembers_toMembers]
  refine ofCanonical_eq_ok_iff.2 ⟨?_, t.matching, t.limit, t.offset, ?_, ?_, ?_, rfl⟩
  · have hall : (t.toMembers.all fun m => isName m.1) = true := rfl
    exact List.all_eq_true.1 hall
  · exact matchOperator_matchName t.matching
  · have hlimit : ∀ l : Option Limit, limitOf ((l.map Limit.toValue).getD .null) = .ok l := by
      intro l
      cases l with
      | none => rfl
      | some l =>
        cases l with
        | all => rfl
        | rows n => simp [Limit.toValue, limitOf, isAll, Value.asText?, countOf_natCast, Except.map]
    exact hlimit t.limit
  · have hoffset : ∀ o : Option ℕ,
        offsetOf ((o.map fun n => Value.int n).getD .null) = .ok o := by
      intro o
      cases o with
      | none => rfl
      | some n => simp [offsetOf, countOf_natCast, Except.map]
    exact hoffset t.offset

/-- Traits in normal form are read back as they were written. -/
lemma IsNormal.ofMembers_toMembers (h : t.IsNormal) (defaults : SearchDefaults) :
    ofMembers defaults t.toMembers = .ok t := by
  rw [Traits.ofMembers_toMembers]
  cases hcount : t.count with
  | true =>
    obtain ⟨hfields, horder⟩ := h.count hcount
    cases t
    simp_all
  | false =>
    have hfields : fieldsOf (.list t.fields) = t.fields := by
      unfold fieldsOf
      split
      · next hnil => exact absurd hnil h.fields
      · rfl
    cases t
    simp_all

lemma isNormal_of_ofMembers (h : ofMembers defaults ms = .ok t) : t.IsNormal := by
  obtain ⟨-, matching, limit, offset, -, -, -, rfl⟩ := ofCanonical_eq_ok_iff.1 h
  exact isNormal_assembled

/-- The members that a caller gives have keys of their own. -/
lemma isUnique_of_membersOf (hv : ∀ ms, v = .dict ms → Members.IsUnique ms)
    (h : membersOf v = .ok ms) : ms.IsUnique := by
  unfold membersOf at h
  split at h
  · obtain rfl := Except.ok.inj h
    exact List.Pairwise.nil
  · split at h
    · next ns hns =>
      obtain rfl := Except.ok.inj h
      unfold Value.toMapping at hns
      split at hns
      · exact hv _ (congrArg Value.dict (Except.ok.inj hns))
      · split at hns
        · simp at hns
        · obtain ⟨pairs, -, rfl⟩ := Result.map_eq_ok_iff.1 hns
          exact Members.isUnique_merge List.Pairwise.nil _
    · simp at h
    · simp at h

lemma membersOf_toMembers (t : Traits) : membersOf (.dict t.toMembers) = .ok t.toMembers := rfl

lemma ofValue_toMembers (h : t.IsNormal) (defaults : SearchDefaults) :
    ofValue defaults (.dict t.toMembers) = .ok t :=
  Result.bind_eq_ok_iff.2 ⟨_, membersOf_toMembers t, h.ofMembers_toMembers defaults⟩

/-- Setting the trait `count` in traits as they are given or in their normal form leads to the same
traits. -/
lemma resolve_counting (hv : ∀ ms, v = .dict ms → Members.IsUnique ms)
    (h : ofValue defaults v = .ok t) {a : TraitsArgument} (ha : a = .given v ∨ a = .prepared t) :
    ∃ b, a.counting = .ok b ∧ b.resolve defaults = .ok t.counted := by
  obtain ⟨ms, hms, hof⟩ := Result.bind_eq_ok_iff.1 h
  have hresolve : ∀ {ns : Members}, ns.IsUnique → ofMembers defaults ns = .ok t →
      (TraitsArgument.given (.dict (Members.insert (.text "count") (.bool true) ns))).resolve
        defaults = .ok t.counted := by
    intro ns hns hof
    exact Result.bind_eq_ok_iff.2 ⟨_, membersOf_counting ns, ofMembers_insert_count hns hof⟩
  rcases ha with rfl | rfl
  · exact ⟨_, by rw [TraitsArgument.counting, TraitsArgument.members, hms]; rfl,
      hresolve (isUnique_of_membersOf hv hms) hof⟩
  · have hunique : Members.IsUnique t.toMembers := by
      rw [← canonicalMembers_toMembers]
      exact Members.isUnique_merge List.Pairwise.nil _
    exact ⟨_, rfl, hresolve hunique ((isNormal_of_ofMembers hof).ofMembers_toMembers defaults)⟩

end Traits

namespace Search

lemma select_eq_of_resolve_eq {env : Environment} {a b : TraitsArgument}
    (h : a.resolve env.defaults = b.resolve env.defaults) (s : Search)
    (lookup : Option TypeLookup) : s.select env lookup a = s.select env lookup b := by
  rw [select, select, h]

/-- Traits in normal form, written as a mapping, have the same normal form; and to put traits into
normal form first changes neither the statements of a search and its count nor the errors. -/
theorem select_count_prepared {env : Environment} {v : Value} {t : Traits}
    (hv : ∀ ms, v = .dict ms → Members.IsUnique ms) (h : Traits.ofValue env.defaults v = .ok t) :
    Traits.ofValue env.defaults (.dict t.toMembers) = .ok t ∧
      ∀ (s : Search) (lookup : Option TypeLookup),
        s.select env lookup (.given v) = s.select env lookup (.prepared t) ∧
          s.count env lookup (.given v) = s.count env lookup (.prepared t) := by
  obtain ⟨ms, -, hof⟩ := Result.bind_eq_ok_iff.1 h
  have hsame : (TraitsArgument.given v).resolve env.defaults =
      (TraitsArgument.prepared t).resolve env.defaults := h
  refine ⟨?_, fun s lookup => ⟨select_eq_of_resolve_eq hsame s lookup, ?_⟩⟩
  · exact Traits.ofValue_toMembers (Traits.isNormal_of_ofMembers hof) env.defaults
  · obtain ⟨a, ha, hcount⟩ := Traits.resolve_counting hv h (Or.inl rfl)
    obtain ⟨b, hb, hcount'⟩ := Traits.resolve_counting hv h (Or.inr rfl)
    rw [count, ha, count, hb]
    exact select_eq_of_resolve_eq (hcount.trans hcount'.symm) s lookup

/-- All rows with a single field, under the other spelling of a trait. -/
def singleField : Members :=
  [(.text "typeAwareness", .bool true), (.text "fields", .text "name"),
    (.text "limit", .text "all")]

/-- A single field becomes a list of fields, the order and the way to match are the usual ones, and
the limit is in capitals. -/
def singleFieldTraits : Traits where
  fields := [.text "name"]
  order := [.text "$id"]
  group := []
  limit := some .all
  offset := none
  matching := .and
  count := false
  typeAwareness := true
  documents := []

/-- Traits with another spelling, a single field and without an order may be prepared. -/
theorem singleField_prepared :
    Members.IsUnique singleField ∧
      Traits.ofValue sampleEnvironment.defaults (.dict singleField) = .ok singleFieldTraits ∧
      Traits.ofValue sampleEnvironment.defaults (.dict singleFieldTraits.toMembers) =
        .ok singleFieldTraits ∧
      sampleSearch.count sampleEnvironment none (.given (.dict singleField)) =
        sampleSearch.count sampleEnvironment none (.prepared singleFieldTraits) := by
  have hunique : Members.IsUnique singleField := by
    simp [Members.IsUnique, singleField, Value.asText?]
  have hof : Traits.ofValue sampleEnvironment.defaults (.dict singleField) =
      .ok singleFieldTraits := rfl
  obtain ⟨hidempotent, hsame⟩ := select_count_prepared
    (fun ms hms => Value.dict.inj hms ▸ hunique) hof
  exact ⟨hunique, hof, hidempotent, (hsame sampleSearch none).2⟩

end Search

end DocumentSql

/-
What a patch changes in the row of a stored object.

A patched object gives what the patch gives, and for all other keys what the stored object gives.
A column is changed when its values before and after differ (`Row.columnDiffers_eq`), whether or
not the patch names it, so the changed columns are told by the two rows alone
(`Row.get?_changes`).
-/
import DocumentSql.Proofs.Row.Lookup
import DocumentSql.Proofs.Value.Difference

namespace DocumentSql

namespace Members

/-- No key stands twice. -/
def IsUnique (ms : Members) : Prop := ms.Pairwise fun m n => m.1.same n.1 = false

/-- A mapping with text keys, none of which stands twice, is keyed. -/
lemma IsUnique.isKeyed {ms : Members} (h : ms.IsUnique) (htext : ∀ m ∈ ms, m.1.asText?.isSome) :
    ms.IsKeyed := by
  refine ⟨htext, ?_⟩
  rw [List.Nodup, List.pairwise_map]
  refine h.imp_of_mem fun {m n} hm _ hne heq => ?_
  obtain ⟨s, hs⟩ := Option.isSome_iff_exists.1 (htext m hm)
  rw [Value.same_of_asText? hs, ← heq, hs] at hne
  simp at hne

lemma mem_insert_key {k v : Value} {ms : Members} {m : Value × Value} (h : m ∈ insert k v ms) :
    m.1 = k ∨ ∃ n ∈ ms, n.1 = m.1 := by
  induction ms with
  | nil =>
    obtain rfl : m = (k, v) := by simpa [insert] using h
    exact Or.inl rfl
  | cons n ms ih =>
    rw [insert] at h
    split at h
    · rcases List.mem_cons.1 h with rfl | h
      · exact Or.inr ⟨n, by simp, rfl⟩
      · exact Or.inr ⟨m, List.mem_cons_of_mem n h, rfl⟩
    · rcases List.mem_cons.1 h with rfl | h
      · exact Or.inr ⟨m, by simp, rfl⟩
      · rcases ih h with heq | ⟨o, ho, heq⟩
        · exact Or.inl heq
        · exact Or.inr ⟨o, List.mem_cons_of_mem n ho, heq⟩

/-- Setting a member leaves the keys before a given one as they are. -/
lemma insert_append_cons (k' w : Value) (ms : Members) (k v : Value) (rest : Members) :
    ∃ ms' v' rest', insert k' w (ms ++ (k, v) :: rest) = ms' ++ (k, v') :: rest' ∧
      ms'.map Prod.fst = ms.map Prod.fst := by
  induction ms with
  | nil =>
    rw [List.nil_append, insert]
    split
    · exact ⟨[], w, rest, rfl, rfl⟩
    · exact ⟨[], v, insert k' w rest, rfl, rfl⟩
  | cons m ms ih =>
    rw [List.cons_append, insert]
    split
    · exact ⟨(m.1, w) :: ms, v, rest, rfl, rfl⟩
    · obtain ⟨ms', v', rest', heq, hkeys⟩ := ih
      exact ⟨m :: ms', v', rest', by rw [heq, List.cons_append], by simp [hkeys]⟩

lemma merge_append_cons (ms : Members) (k v : Value) (rest extra : Members) :
    ∃ ms' v' rest', merge (ms ++ (k, v) :: rest) extra = ms' ++ (k, v') :: rest' ∧
      ms'.map Prod.fst = ms.map Prod.fst := by
  induction extra generalizing ms v rest with
  | nil => exact ⟨ms, v, rest, rfl, rfl⟩
  | cons m extra ih =>
    obtain ⟨ms', v', rest', heq, hkeys⟩ := insert_append_cons m.1 m.2 ms k v rest
    obtain ⟨ms'', v'', rest'', heq', hkeys'⟩ := ih ms' v' rest'
    refine ⟨ms'', v'', rest'', ?_, hkeys'.trans hkeys⟩
    rw [← heq', ← heq]
    rfl

end Members

namespace Row

open Members (getText? merge IsKeyed)

section

variable {e : Entity} {ms : Members}

/-! ### Objects that are refused -/

/-- The entity has a place for the key. -/
def HasPlace (e : Entity) (key : Value) : Prop := ∃ place, placeOf e key = .ok place

lemma HasPlace.isSome_asText? {k : Value} (h : HasPlace e k) : k.asText?.isSome := by
  obtain ⟨place, hplace⟩ := h
  obtain ⟨s, hs, -⟩ := placeOf_eq_ok hplace
  simp [hs]

lemma HasPlace.of_same {k l : Value} (h : HasPlace e k) (hkl : k.same l = true) :
    HasPlace e l := by
  obtain ⟨s, hs⟩ := Option.isSome_iff_exists.1 h.isSome_asText?
  have hl : l.asText? = some s := by simpa [Value.same_of_asText? hs] using hkl
  exact (accepts_iff hl).1 ((accepts_iff hs).2 h)

lemma partition_eq_ok_iff :
    (∃ p, partition e ms = .ok p) ↔ ∀ m ∈ ms, HasPlace e m.1 := by
  induction ms with
  | nil => simp [partition]
  | cons m ms ih =>
    obtain ⟨k, v⟩ := m
    rw [List.forall_mem_cons, ← ih, partition]
    constructor
    · rintro ⟨p, h⟩
      obtain ⟨place, hplace, h⟩ := Result.bind_eq_ok_iff.1 h
      refine ⟨⟨place, hplace⟩, ?_⟩
      cases place <;>
        obtain ⟨p', hp', -⟩ := Result.bind_eq_ok_iff.1 h <;> exact ⟨p', hp'⟩
    · rintro ⟨⟨place, hplace⟩, p, hp⟩
      rw [hplace, hp]
      cases place <;> exact ⟨_, rfl⟩

/-- The first key that has no place is the one that is refused. -/
lemma partition_append_refused {k : Value} {x : Error} (hms : ∀ m ∈ ms, HasPlace e m.1)
    (hk : placeOf e k = .error x) (v : Value) (rest : Members) :
    partition e (ms ++ (k, v) :: rest) = .error x := by
  induction ms with
  | nil =>
    rw [List.nil_append, partition, hk]
    rfl
  | cons m ms ih =>
    obtain ⟨place, hplace⟩ := hms m (by simp)
    have hrest := ih fun n hn => hms n (List.mem_cons_of_mem m hn)
    rw [List.cons_append, partition, hplace, hrest]
    cases place <;> rfl

lemma insert_refused {k : Value} (hms : ∀ m ∈ ms, HasPlace e m.1) (hk : ¬ HasPlace e k)
    (v : Value) : Members.insert k v ms = ms ++ [(k, v)] := by
  induction ms with
  | nil => rfl
  | cons m ms ih =>
    have hne : ¬ m.1.same k = true := fun hsame => hk ((hms m (by simp)).of_same hsame)
    rw [Members.insert, if_neg hne, ih fun n hn => hms n (List.mem_cons_of_mem m hn),
      List.cons_append]

/-- A patched object is refused just when the patch is, for the same reason. -/
lemma partition_merge_eq_error_iff {patch : Members} (hms : ∀ m ∈ ms, HasPlace e m.1) {x : Error} :
    partition e (merge ms patch) = .error x ↔ partition e patch = .error x := by
  induction patch generalizing ms with
  | nil =>
    obtain ⟨p, hp⟩ := partition_eq_ok_iff.2 hms
    simp [merge, hp, partition]
  | cons m patch ih =>
    obtain ⟨k, v⟩ := m
    rw [show merge ms ((k, v) :: patch) = merge (Members.insert k v ms) patch from rfl]
    cases hk : placeOf e k with
    | ok place =>
      have hms' : ∀ m ∈ Members.insert k v ms, HasPlace e m.1 := by
        intro m hm
        rcases Members.mem_insert_key hm with heq | ⟨n, hn, heq⟩
        · exact ⟨place, by rw [heq, hk]⟩
        · exact heq ▸ hms n hn
      rw [ih hms', partition, hk]
      cases partition e patch <;> cases place <;> simp [bind, Except.bind]
    | error y =>
      have hnot : ¬ HasPlace e k := by
        rintro ⟨place, hplace⟩
        simp [hk] at hplace
      obtain ⟨ms', v', rest', heq, hkeys⟩ := Members.merge_append_cons ms k v [] patch
      have hms' : ∀ m ∈ ms', HasPlace e m.1 := by
        intro m hm
        obtain ⟨n, hn, hnm⟩ := List.mem_map.1 (hkeys ▸ List.mem_map_of_mem hm)
        exact hnm ▸ hms n hn
      rw [insert_refused hms hnot, heq, partition_append_refused hms' hk, partition, hk]
      rfl

lemma isKeyed_of_partition (hms : ms.IsUnique) {p : Row × Members} (h : partition e ms = .ok p) :
    ms.IsKeyed :=
  hms.isKeyed fun m hm => (partition_eq_ok_iff.1 ⟨p, h⟩ m hm).isSome_asText?

/-- An object all of whose keys have a place has a row, unless its plain keys belong into a data
container that can have none. -/
lemma ofMembers_eq_of_partition {p : Row × Members} (h : partition e ms = .ok p) :
    (∃ row, ofMembers e ms = .ok row) ∧ (givesPlain ms = true →
        ∃ given, containerMembers ((explicit? e ms).getD .null) = .ok given) ∨
      ofMembers e ms = .error (.fault .wrongType) ∧ givesPlain ms = true ∧
        containerMembers ((explicit? e ms).getD .null) = .error (.fault .wrongType) := by
  obtain ⟨columns, data⟩ := p
  have hrow : ofMembers e ms = withData e columns data := by
    rw [ofMembers, h]
    rfl
  rw [hrow, withData, isEmpty_partition h, get?_partition h]
  cases givesPlain ms with
  | false => exact Or.inl ⟨⟨columns, rfl⟩, by simp⟩
  | true =>
    rw [show (getText? ms ("$" ++ e.container)).map Value.normalize = explicit? e ms from rfl]
    cases hgiven : containerMembers ((explicit? e ms).getD .null) with
    | ok given => exact Or.inl ⟨⟨_, rfl⟩, fun _ => ⟨given, rfl⟩⟩
    | error x =>
      rw [containerMembers_eq_error hgiven]
      exact Or.inr ⟨rfl, rfl, rfl⟩

end

/-! ### Patched objects -/

section

variable {e : Entity} {stored patch : Members}

lemma property?_of_asText {k : Value} {s : String} (hk : k.asText? = some s) (ms : Members) :
    property? ms k = property? ms (.text s) := by
  rw [property?, property?, isPropertyKey_eq hk, Members.get?_of_asText hk]
  rfl

lemma keepsMember_of_asText {k : Value} {s : String} (hk : k.asText? = some s) :
    keepsMember e stored patch k = keepsMember e stored patch (.text s) := by
  rw [keepsMember, keepsMember, property?_of_asText hk, property?_of_asText hk]

lemma explicit?_merge (hpatch : patch.IsKeyed) :
    explicit? e (merge stored patch) = (explicit? e patch).or (explicit? e stored) := by
  unfold explicit?
  rw [Members.getText?_merge_of_isKeyed stored hpatch]
  cases getText? patch ("$" ++ e.container) <;> rfl

lemma plain?_merge (hpatch : patch.IsKeyed) (s : String) :
    plain? (merge stored patch) s = (plain? patch s).or (plain? stored s) := by
  simp only [plain?_eq]
  split
  · rw [Members.getText?_merge_of_isKeyed stored hpatch]
    cases getText? patch s <;> rfl
  · rfl

lemma givesPlain_merge (hstored : stored.IsKeyed) (hpatch : patch.IsKeyed) :
    givesPlain (merge stored patch) = (givesPlain stored || givesPlain patch) := by
  have hmerge := Members.isKeyed_merge hstored hpatch.1
  rw [Bool.eq_iff_iff, Bool.or_eq_true, givesPlain_iff hmerge, givesPlain_iff hstored,
    givesPlain_iff hpatch, ← exists_or]
  refine exists_congr fun s => ?_
  rw [plain?_merge hpatch]
  cases plain? patch s <;> cases plain? stored s <;> simp

lemma plain?_eq_none (hplain : givesPlain stored = false) (hstored : stored.IsKeyed)
    (s : String) : plain? stored s = none := by
  by_contra hne
  obtain ⟨v, hv⟩ := Option.ne_none_iff_exists'.1 hne
  rw [(givesPlain_iff hstored).2 ⟨s, v, hv⟩] at hplain
  simp at hplain

/-- A row holds values of which every part has a property. -/
def IsFormed (P : Value → Prop) (r : Row) : Prop := ∀ c v, get? r c = some v → v.IsFormed P

lemma IsFormed.of_inContainer? {P : Value → Prop} {r : Row} (h : IsFormed P r) {s : String}
    {v : Value} (hv : inContainer? e r s = some v) : v.IsFormed P := by
  obtain ⟨ms, hms, hv⟩ := getText?_membersOf hv
  exact (h _ _ hms).getText? hv

/-- A stored object and a patch, with the rows before and after. -/
structure Patched (e : Entity) (stored patch : Members) (before after : Row) : Prop where
  stored_keyed : stored.IsKeyed
  patch_keyed : patch.IsKeyed
  before_eq : ofMembers e stored = .ok before
  after_eq : ofMembers e (merge stored patch) = .ok after
  before_formed : IsFormed Value.IsSelfEqual before
  after_formed : IsFormed (fun _ => True) after

end

namespace Patched

variable {e : Entity} {stored patch : Members} {before after : Row} {column : String}
  {v w : Value} {s : String}

lemma merged_keyed (h : Patched e stored patch before after) : (merge stored patch).IsKeyed :=
  Members.isKeyed_merge h.stored_keyed h.patch_keyed.1

/-- A column keeps its value where the patch does not name it. -/
lemma get?_after (h : Patched e stored patch before after) (hne : column ≠ e.container) :
    get? after column =
      ((getText? patch ("$" ++ column)).map Value.normalize).or (get? before column) := by
  rw [get?_ofMembers h.after_eq hne, get?_ofMembers h.before_eq hne,
    Members.getText?_merge_of_isKeyed stored h.patch_keyed]
  cases getText? patch ("$" ++ column) <;> rfl

/-- In the data container after a patch, its plain keys count first, then those of the stored
object, and then what the patch gives for the container. -/
lemma inContainer?_after (h : Patched e stored patch before after) (s : String) :
    inContainer? e after s = ((plain? patch s).or (plain? stored s)).or
      (getText? (membersOf ((explicit? e patch).or (explicit? e stored))) s) := by
  rw [inContainer?_ofMembers h.merged_keyed h.after_eq, plain?_merge h.patch_keyed,
    explicit?_merge h.patch_keyed]

/-- A value that a row holds does not differ from itself. -/
lemma not_differs_self (h : Patched e stored patch before after)
    (hv : get? before column = some v) : v.differs v = false := by
  have hformed := h.before_formed column v hv
  exact Value.not_differs_of_matches hformed (Value.matches_refl (fun _ _ => rfl) hformed)

/-- A member that a patch leaves to the stored object has one value before and after, and it does
not differ from itself. -/
lemma not_differs_of_keepsMember (h : Patched e stored patch before after)
    (hkeeps : keepsMember e stored patch (.text s) = true)
    (hv : inContainer? e before s = some v) (hw : inContainer? e after s = some w) :
    v.differs w = false ∧
      ((property? stored (.text s)).getD .null).differsFromItself = false := by
  have hself := h.before_formed.of_inContainer? hv
  have hdiffers := Value.not_differs_of_matches hself (Value.matches_refl (fun _ _ => rfl) hself)
  rw [inContainer?_ofMembers h.stored_keyed h.before_eq] at hv
  rw [h.inContainer?_after] at hw
  simp only [keepsMember, Bool.and_eq_true, Option.isNone_iff_eq_none, Bool.or_eq_true,
    Bool.not_eq_true'] at hkeeps
  obtain ⟨hpatch, hkept⟩ := hkeeps
  have hnone : plain? patch s = none := by simp [plain?, hpatch]
  rw [hnone, Option.none_or] at hw
  cases hp : property? stored (.text s) with
  | some raw =>
    -- the stored object gives it under its plain key
    have hraw : plain? stored s = some raw.normalize := by simp [plain?, hp]
    rw [hraw, Option.some_or] at hv hw
    obtain rfl := Option.some.inj hv
    obtain rfl := Option.some.inj hw
    exact ⟨hdiffers, Value.not_differsFromItself raw hself⟩
  | none =>
    -- it stands in the stored data container, for which the patch gives nothing
    have hgives : gives patch (.text ("$" ++ e.container)) = false := by simpa [hp] using hkept
    have hexplicit : explicit? e patch = none := by
      simpa [gives, explicit?, getText?] using hgives
    rw [hexplicit, Option.none_or, hv] at hw
    obtain rfl := Option.some.inj hw
    exact ⟨hdiffers, rfl⟩

/-- A member of the data container after a patch differs from its partner before the patch as all
values do, even where the two are not compared. -/
lemma memberDiffers_eq_false_iff (h : Patched e stored patch before after) {ms : Members}
    {m : Value × Value} {s : String} (hk : m.1.asText? = some s)
    (hbefore : inContainer? e before s = getText? ms s)
    (hafter : inContainer? e after s = some m.2) :
    memberDiffers e stored patch ms m = false ↔ (Value.isPrivateKey m.1 = false →
      ∃ v, Members.get? ms m.1 = some v ∧ v.differs m.2 = false) := by
  rw [memberDiffers, Members.get?_of_asText hk, keepsMember_of_asText hk, property?_of_asText hk]
  cases Value.isPrivateKey m.1 with
  | true => simp
  | false =>
    cases hv : getText? ms s with
    | none => simp
    | some v =>
      cases hkeeps : keepsMember e stored patch (.text s) with
      | false => simp
      | true =>
        obtain ⟨hdiffers, hself⟩ := h.not_differs_of_keepsMember hkeeps (hbefore.trans hv) hafter
        simp [hdiffers, hself]

/-- Data containers differ before and after a patch as all values do. -/
lemma containerDiffers_eq (h : Patched e stored patch before after)
    (hv : get? before e.container = some v) (hw : get? after e.container = some w) :
    containerDiffers e stored patch v w = v.differs w := by
  unfold containerDiffers
  split
  · next ms ns =>
    have hms := (Value.isFormed_dict.1 (h.before_formed _ _ hv)).1
    have hns := (Value.isFormed_dict.1 (h.after_formed _ _ hw)).1
    have hmembers : ns.any (memberDiffers e stored patch ms) = false ↔
        ∀ n ∈ ns, Value.isPrivateKey n.1 = false →
          ∃ v, Members.get? ms n.1 = some v ∧ v.differs n.2 = false := by
      rw [List.any_eq_false]
      refine forall₂_congr fun n hn => ?_
      obtain ⟨s, hk⟩ := Option.isSome_iff_exists.1 (hns.1 n hn)
      have hbefore : inContainer? e before s = getText? ms s := by
        rw [inContainer?, hv, membersOf]
      have hafter : inContainer? e after s = some n.2 := by
        rw [inContainer?, hw, membersOf, hns.getText?_of_mem hn hk]
      rw [Bool.not_eq_true, h.memberDiffers_eq_false_iff hk hbefore hafter]
    -- what decides is when no difference is found
    rw [← Bool.not_inj_iff, Bool.eq_iff_iff, Bool.not_eq_true', Bool.not_eq_true',
      Value.differs_dict_iff hms hns, Bool.or_eq_false_iff, hmembers,
      Value.any_lacksPartner_eq_false_iff,
      Value.partners_iff hns hms (R := fun w v => v.differs w = false)]
    exact forall₂_congr fun s _ =>
      ⟨fun hrel => Value.optionRel_symm hrel fun _ _ _ _ => id,
        fun hrel => Value.optionRel_symm hrel fun _ _ _ _ => id⟩
  · rfl

/-- A column that a patch does not address has the very value that the stored object gives. -/
lemma eq_of_not_addresses (h : Patched e stored patch before after)
    (haddresses : addresses e patch column = false) (hv : get? before column = some v)
    (hw : get? after column = some w)
    (hdict : column = e.container → ∀ ms ns, v = .dict ms → w = .dict ns → False) :
    w = v ∧ ((getText? stored ("$" ++ column)).getD .null).differsFromItself = false := by
  simp only [addresses, Bool.or_eq_false_iff, Bool.and_eq_false_iff, beq_eq_false_iff_ne]
    at haddresses
  obtain ⟨hgives, hplain⟩ := haddresses
  have hnone : getText? patch ("$" ++ column) = none := by simpa [gives, getText?] using hgives
  have hraw : get? before column = (getText? stored ("$" ++ column)).map Value.normalize ∧
      get? after column = get? before column := by
    by_cases hne : column = e.container
    · subst hne
      have hpatch : givesPlain patch = false := hplain.resolve_left fun hne => hne rfl
      have hstored : givesPlain stored = false := by
        by_contra hyes
        have hyes : givesPlain stored = true := by simpa using hyes
        obtain ⟨ms, hms⟩ := exists_get?_container h.before_eq hyes
        obtain ⟨ns, hns⟩ := exists_get?_container h.after_eq (by
          rw [givesPlain_merge h.stored_keyed h.patch_keyed, hyes, Bool.true_or])
        exact hdict rfl ms ns (Option.some.inj (hv.symm.trans hms))
          (Option.some.inj (hw.symm.trans hns))
      have hmerged : givesPlain (merge stored patch) = false := by
        rw [givesPlain_merge h.stored_keyed h.patch_keyed, hstored, hpatch, Bool.or_false]
      have hexplicit : explicit? e patch = none := by simp [explicit?, hnone]
      rw [get?_container h.after_eq hmerged, get?_container h.before_eq hstored,
        explicit?_merge h.patch_keyed, hexplicit, Option.none_or]
      exact ⟨rfl, rfl⟩
    · rw [h.get?_after hne, hnone, Option.map_none, Option.none_or, get?_ofMembers h.before_eq hne]
      exact ⟨rfl, rfl⟩
  have hformed := h.before_formed _ _ hv
  rw [hraw.2, hv] at hw
  rw [hraw.1] at hv
  obtain ⟨raw, hr, rfl⟩ := Option.map_eq_some_iff.1 hv
  rw [hr]
  exact ⟨(Option.some.inj hw).symm, Value.not_differsFromItself raw hformed⟩

/-- The values of a column differ before and after a patch as all values do. -/
theorem columnDiffers_eq (h : Patched e stored patch before after)
    (hv : get? before column = some v) (hw : get? after column = some w) :
    columnDiffers e stored patch column v w = v.differs w := by
  unfold columnDiffers
  split
  · split
    · next hcontainer =>
      obtain rfl : column = e.container := by simpa using hcontainer
      exact h.containerDiffers_eq hv hw
    · rfl
  · next haddresses =>
    have haddresses : addresses e patch column = false := by simpa using haddresses
    split
    · next ms ns =>
      by_cases hne : column = e.container
      · subst hne
        rw [beq_self_eq_true, Bool.true_and]
        exact h.containerDiffers_eq hv hw
      · obtain ⟨heq, -⟩ := h.eq_of_not_addresses haddresses hv hw fun heq => absurd heq hne
        rw [heq, h.not_differs_self hv]
        simp [hne]
    · next hnot =>
      obtain ⟨rfl, hself⟩ := h.eq_of_not_addresses haddresses hv hw fun _ => hnot
      rw [hself, h.not_differs_self hv]

end Patched

/-! ### The changed columns -/

/-- The changed columns come of the rows of the stored object and of the patched one. -/
lemma changedColumns_dict (e : Entity) (stored patch : Members) :
    changedColumns e (.dict stored) (.dict patch) =
      ofMembers e stored >>= fun before =>
        ofMembers e (merge stored patch) >>= fun after =>
          .ok (changes e stored patch before after) :=
  rfl

lemma get?_eq_none {r : Row} (h : column ∉ r.map Prod.fst) : get? r column = none := by
  by_contra hne
  obtain ⟨v, hv⟩ := Option.ne_none_iff_exists'.1 hne
  exact h (List.mem_map.2 ⟨(column, v), mem_of_get? hv, rfl⟩)

lemma get?_filter {r : Row} (hr : r.IsDistinct) (p : String × Value → Bool) (column : String) :
    get? (r.filter p) column = (get? r column).filter fun v => p (column, v) := by
  induction r with
  | nil => rfl
  | cons c r ih =>
    obtain ⟨hnot, hrest⟩ := List.nodup_cons.1 hr
    rw [List.filter_cons, get?_cons]
    by_cases hc : c.1 = column
    · subst hc
      have hnone : get? r c.1 = none := get?_eq_none hnot
      split
      · next hp => simp [get?_cons, Option.filter, hp]
      · next hp =>
        rw [ih hrest, hnone, if_pos rfl]
        simp [Option.filter, hp]
    · rw [if_neg hc, ← ih hrest]
      split
      · rw [get?_cons, if_neg hc]
      · rfl

/-- The row with changes made. -/
def updated (r changes : Row) : Row := changes.foldl (fun r c => put c.1 c.2 r) r

lemma get?_updated {changes : Row} (h : changes.IsDistinct) (r : Row) (column : String) :
    get? (updated r changes) column = (get? changes column).or (get? r column) := by
  induction changes generalizing r with
  | nil => rfl
  | cons c changes ih =>
    obtain ⟨hnot, hrest⟩ := List.nodup_cons.1 h
    rw [show updated r (c :: changes) = updated (put c.1 c.2 r) changes from rfl, ih hrest,
      get?_put, get?_cons]
    by_cases hc : c.1 = column
    · have hnone : get? changes column = none := get?_eq_none (hc ▸ hnot)
      rw [hnone, if_pos hc, if_pos hc, Option.none_or, Option.some_or]
    · rw [if_neg hc, if_neg hc]

namespace Patched

variable {e : Entity} {stored patch : Members} {before after : Row}

/-- The changed columns are those whose values before and after differ, except for the
identifier. -/
theorem get?_changes (h : Patched e stored patch before after) (column : String) :
    get? (changes e stored patch before after) column =
      (get? after column).filter fun w =>
        column != "id" && (get? before column).all fun v => v.differs w := by
  rw [changes, get?_filter (isDistinct_ofMembers h.merged_keyed h.after_eq)]
  cases hw : get? after column with
  | none => rfl
  | some w =>
    cases hv : get? before column with
    | none => simp [Option.filter, hv]
    | some v => simp [Option.filter, hv, h.columnDiffers_eq hv hw]

lemma isDistinct_changes (h : Patched e stored patch before after) :
    (changes e stored patch before after).IsDistinct :=
  (isDistinct_ofMembers h.merged_keyed h.after_eq).sublist
    (List.filter_sublist.map Prod.fst)

end Patched

end Row

end DocumentSql

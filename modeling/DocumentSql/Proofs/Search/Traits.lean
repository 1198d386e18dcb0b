/-
The normal form of traits.

Traits are read from a mapping name by name (`Traits.ofCanonical_eq_ok_iff`), and what comes of a
mapping is in normal form (`Traits.isNormal_assembled`).  A mapping that gives no traits should be
refused as a malformed filter is, and so should a number of rows below zero.  That is so but for
mappings of three kinds, which `Traits.Mishandled` lists: the way to match is a value that cannot be
looked up, a number of rows has no end, or it is a fraction between minus one and zero, which is cut
to zero before its sign is looked at (`Traits.isNormalized_ofValue_iff`).
-/
import DocumentSql.Proofs.Row.Update
import DocumentSql.Search.Traits

namespace DocumentSql

/-! ### Numbers -/

namespace Value

/-- The value is a number below zero. -/
def IsBelowZero (v : Value) : Prop :=
  ∃ r i, v.number? = some (r, i) ∧ (r = .infinite true ∨ ∃ n d, r = .ratio n d ∧ n < 0)

/-- The value stands for a number of rows: it is no truth value, and its integer part is the
number. -/
def CountsAs (v : Value) (n : ℕ) : Prop := (∀ b, v ≠ bool b) ∧ v.toInteger = .ok n

/-- The value is a number without end. -/
def IsUnbounded (v : Value) : Prop := v.toInteger = .error .unbounded

lemma isNegative_of_isBelowZero_float {x : Binary} (h : IsBelowZero (float x)) :
    x.isNegative = true := by
  obtain ⟨r, i, hr, hbelow⟩ := h
  obtain ⟨rfl, -⟩ : RealValue.ofBinary x = r ∧ _ := by simpa [number?] using hr
  cases x with
  | nan => simp [RealValue.ofBinary] at hbelow
  | infinite s => simpa [RealValue.ofBinary, Binary.isNegative] using hbelow
  | finite s m e =>
    cases s with
    | true => rfl
    | false =>
      rcases hbelow with hinfinite | ⟨n, d, hratio, hn⟩
      · simp [RealValue.ofBinary, Binary.ratio?] at hinfinite
      · obtain ⟨rfl, -⟩ := RealValue.ratio.inj hratio
        exact absurd hn (not_lt.2 (Int.natCast_nonneg _))

lemma isNegative_of_isBelowZero_decimal {d : Decimal} (h : IsBelowZero (decimal d)) :
    d.isNegative = true := by
  obtain ⟨r, i, hr, hbelow⟩ := h
  obtain ⟨rfl, -⟩ : RealValue.ofDecimal d = r ∧ _ := by simpa [number?] using hr
  cases d with
  | nan => simp [RealValue.ofDecimal] at hbelow
  | infinite s => simpa [RealValue.ofDecimal, Decimal.isNegative] using hbelow
  | finite s c e =>
    cases s with
    | true => rfl
    | false =>
      rcases hbelow with hinfinite | ⟨n, d, hratio, hn⟩
      · simp [RealValue.ofDecimal, Decimal.ratio?] at hinfinite
      · obtain ⟨rfl, -⟩ := RealValue.ratio.inj hratio
        exact absurd hn (not_lt.2 (Int.natCast_nonneg _))

/-- What is cut from a number below zero is not above zero. -/
lemma toInteger_nonpos : ∀ (v : Value) (n : ℤ), v.toInteger = .ok n → IsBelowZero v → n ≤ 0
  | int m, n, hn, ⟨r, i, hr, hbelow⟩ => by
    obtain rfl := Except.ok.inj hn
    obtain ⟨rfl, -⟩ : RealValue.ratio m 1 = r ∧ _ := by simpa [number?] using hr
    have hm : m < 0 := by simpa using hbelow
    exact hm.le
  | float (.finite s m e), n, hn, h => by
    obtain rfl : s = true := isNegative_of_isBelowZero_float h
    obtain rfl := Except.ok.inj hn
    exact Int.neg_nonpos_of_nonneg (Int.natCast_nonneg _)
  | decimal (.finite s c e), n, hn, h => by
    obtain rfl : s = true := isNegative_of_isBelowZero_decimal h
    obtain rfl := Except.ok.inj hn
    exact Int.neg_nonpos_of_nonneg (Int.natCast_nonneg _)
  | scalar _ plain, n, hn, h => toInteger_nonpos plain n hn h
  | float .nan, n, hn, _ => by simp [toInteger, Binary.truncate?, orNoNumber] at hn
  | float (.infinite _), n, hn, _ => by simp [toInteger] at hn
  | decimal (.nan ..), n, hn, _ => by simp [toInteger, Decimal.truncate?, orNoNumber] at hn
  | decimal (.infinite _), n, hn, _ => by simp [toInteger] at hn
  | bool b, _, _, ⟨r, i, hr, hbelow⟩ => by
    obtain ⟨rfl, -⟩ : RealValue.ratio (if b then 1 else 0) 1 = r ∧ _ := by simpa [number?] using hr
    cases b <;> simp at hbelow
  | null, _, _, ⟨r, i, hr, _⟩ | text _, _, _, ⟨r, i, hr, _⟩ | list _, _, _, ⟨r, i, hr, _⟩
  | tuple _, _, _, ⟨r, i, hr, _⟩ | set _, _, _, ⟨r, i, hr, _⟩ | dict _, _, _, ⟨r, i, hr, _⟩
  | date _, _, _, ⟨r, i, hr, _⟩ | moment _, _, _, ⟨r, i, hr, _⟩ | time _, _, _, ⟨r, i, hr, _⟩
  | uuid _, _, _, ⟨r, i, hr, _⟩ | bytes _, _, _, ⟨r, i, hr, _⟩ | array .., _, _, ⟨r, i, hr, _⟩
  | frame .., _, _, ⟨r, i, hr, _⟩ | function .., _, _, ⟨r, i, hr, _⟩
  | callable _, _, _, ⟨r, i, hr, _⟩ | class_ _, _, _, ⟨r, i, hr, _⟩ | key _, _, _, ⟨r, i, hr, _⟩
  | cast _, _, _, ⟨r, i, hr, _⟩ | documentType .., _, _, ⟨r, i, hr, _⟩ => by simp [number?] at hr
  | complex .., n, hn, _ => by simp [toInteger] at hn
  termination_by structural v => v

/-- A number of rows below zero was a fraction, and is cut to zero. -/
lemma CountsAs.eq_zero {v : Value} {n : ℕ} (h : v.CountsAs n) (hbelow : v.IsBelowZero) : n = 0 := by
  have := toInteger_nonpos v n h.2 hbelow
  omega

end Value

namespace Traits

open Members (getText? getD)

/-! ### Reading one trait -/

/-- What may come of reading a value: what the value stands for, a fault when the value is flawed,
or else an error of the kind that malformed filters have. -/
inductive Outcome {α : Type} (Reads : α → Prop) (flawed : Prop) (fault : Fault) : Result α → Prop
  | read {a : α} (h : Reads a) (hsound : ¬ flawed) : Outcome Reads flawed fault (.ok a)
  | broken (h : flawed) : Outcome Reads flawed fault (.error (.fault fault))
  | refused {e : Error} (hnot : ∀ a, ¬ Reads a) (hsound : ¬ flawed)
      (h : e.kind? = some .predicate) : Outcome Reads flawed fault (.error e)

/-- The value is a way to match. -/
def ReadsMatch (v : Value) (op : Predicate.Operator) : Prop := v.asText? = some (matchName op)

lemma matchOperator_matchName (op : Predicate.Operator) :
    Filter.matchOperator (.text (matchName op)) = .ok op := by
  cases op <;> rfl

/-- The value is a limit: nothing, the word for all rows, or a number of rows. -/
inductive ReadsLimit : Value → Option Limit → Prop
  | none : ReadsLimit .null none
  | all {v : Value} (h : isAll v = true) : ReadsLimit v (some .all)
  | rows {v : Value} {n : ℕ} (hall : isAll v = false) (h : v.CountsAs n) :
      ReadsLimit v (some (.rows n))

/-- The value is an offset: nothing, or a number of rows. -/
inductive ReadsOffset : Value → Option ℕ → Prop
  | none : ReadsOffset .null none
  | rows {v : Value} {n : ℕ} (h : v.CountsAs n) : ReadsOffset v (some n)

section

variable {v : Value}

lemma outcome_matchOperator (v : Value) :
    Outcome (ReadsMatch v) (v.isKey = false) .wrongType (Filter.matchOperator v) := by
  rw [Filter.matchOperator]
  split
  · next hkey => exact .broken (by simpa using hkey)
  · next hkey =>
    have hsound : ¬ v.isKey = false := by simpa using hkey
    split
    · next htext => exact .read (by simpa [ReadsMatch, matchName] using htext) hsound
    · next htext => exact .read (by simpa [ReadsMatch, matchName] using htext) hsound
    · next hall hany =>
      refine .refused (fun op h => ?_) hsound rfl
      cases op with
      | and => exact hall h
      | or => exact hany h

lemma outcome_countOf (trait : String) (v : Value) :
    Outcome v.CountsAs v.IsUnbounded .overflow (countOf trait v) := by
  unfold countOf
  split
  · next b =>
    exact .refused (fun n h => h.1 b rfl) (by simp [Value.IsUnbounded, Value.toInteger]) rfl
  · next hbool =>
    split
    · next hinteger =>
      refine .refused (fun n h => ?_) (by simp [Value.IsUnbounded, hinteger]) rfl
      exact absurd (hinteger.symm.trans h.2) (by simp)
    · next hinteger => exact .broken hinteger
    · next n hinteger =>
      split
      · next hneg =>
        refine .refused (fun m h => ?_) (by simp [Value.IsUnbounded, hinteger]) rfl
        obtain rfl : n = m := Except.ok.inj (hinteger.symm.trans h.2)
        omega
      · next hpos =>
        refine .read ⟨hbool, ?_⟩ (by simp [Value.IsUnbounded, hinteger])
        rw [hinteger, Int.toNat_of_nonneg (not_lt.1 hpos)]

/-- The word for all rows is no number. -/
lemma isText_of_isAll (h : isAll v = true) : ∃ s, v.asText? = some s := by
  unfold isAll at h
  split at h
  · next s hs => exact ⟨s, hs⟩
  · simp at h

lemma not_isUnbounded_of_asText? {s : String} (h : v.asText? = some s) : ¬ v.IsUnbounded := by
  have htext : ∀ t : String, (Value.text t).toInteger ≠ .error .unbounded := by
    intro t
    rw [Value.toInteger]
    cases Numeral.integer? t <;> simp [Value.orNoNumber]
  cases v with
  | text t => exact htext t
  | cast k => simp [Value.IsUnbounded, Value.toInteger]
  | scalar kind plain =>
    cases plain with
    | text t => exact htext t
    | _ => simp [Value.asText?] at h
  | _ => simp [Value.asText?] at h

lemma not_isBelowZero_of_asText? {s : String} (h : v.asText? = some s) : ¬ v.IsBelowZero := by
  rintro ⟨r, i, hr, -⟩
  cases v with
  | text t => simp [Value.number?] at hr
  | cast k => simp [Value.number?] at hr
  | scalar kind plain =>
    cases plain with
    | text t => simp [Value.number?] at hr
    | _ => simp [Value.asText?] at h
  | _ => simp [Value.asText?] at h

lemma not_isBelowZero_null : ¬ Value.null.IsBelowZero := by
  rintro ⟨r, i, hr, -⟩
  simp [Value.number?] at hr

lemma outcome_limitOf (v : Value) :
    Outcome (ReadsLimit v) v.IsUnbounded .overflow (limitOf v) := by
  unfold limitOf
  split
  · exact .read .none (by simp [Value.IsUnbounded, Value.toInteger])
  · next hnull =>
    split
    · next hall =>
      obtain ⟨s, hs⟩ := isText_of_isAll hall
      exact .read (.all hall) (not_isUnbounded_of_asText? hs)
    · next hall =>
      have hcount := outcome_countOf "limit" v
      generalize countOf "limit" v = x at hcount
      cases hcount with
      | read h hsound => exact .read (.rows (by simpa using hall) h) hsound
      | broken h => exact .broken h
      | refused hnot hsound hkind =>
        refine .refused (fun l hl => ?_) hsound hkind
        cases hl with
        | none => exact hnull rfl
        | all h => exact hall h
        | rows _ h => exact hnot _ h

lemma outcome_offsetOf (v : Value) :
    Outcome (ReadsOffset v) v.IsUnbounded .overflow (offsetOf v) := by
  unfold offsetOf
  split
  · exact .read .none (by simp [Value.IsUnbounded, Value.toInteger])
  · next hnull =>
    have hcount := outcome_countOf "offset" v
    generalize countOf "offset" v = x at hcount
    cases hcount with
    | read h hsound => exact .read (.rows h) hsound
    | broken h => exact .broken h
    | refused hnot hsound hkind =>
      refine .refused (fun o ho => ?_) hsound hkind
      cases ho with
      | none => exact hnull rfl
      | rows h => exact hnot _ h

lemma ReadsLimit.eq_zero {l : Option Limit} (h : ReadsLimit v l) (hbelow : v.IsBelowZero) :
    l = some (.rows 0) := by
  cases h with
  | none => exact absurd hbelow not_isBelowZero_null
  | all hall =>
    obtain ⟨s, hs⟩ := isText_of_isAll hall
    exact absurd hbelow (not_isBelowZero_of_asText? hs)
  | rows _ h => rw [h.eq_zero hbelow]

lemma ReadsOffset.eq_zero {o : Option ℕ} (h : ReadsOffset v o) (hbelow : v.IsBelowZero) :
    o = some 0 := by
  cases h with
  | none => exact absurd hbelow not_isBelowZero_null
  | rows h => rw [h.eq_zero hbelow]

end

/-! ### The normal form -/

/-- Traits in normal form: there are fields, and a count returns nothing but itself, in no order.
The limit is nothing, all rows or a number of them, the offset nothing or a number of rows, and
the way to match is one of two. -/
structure IsNormal (t : Traits) : Prop where
  fields : t.fields ≠ []
  count : t.count = true → t.fields = [.text "count"] ∧ t.order = []
  limit : getD t.toMembers "limit" = .null ∨ getD t.toMembers "limit" = .text "ALL" ∨
    ∃ n : ℕ, getD t.toMembers "limit" = .int n
  offset : getD t.toMembers "offset" = .null ∨ ∃ n : ℕ, getD t.toMembers "offset" = .int n
  matching : getD t.toMembers "match" = .text "all" ∨ getD t.toMembers "match" = .text "any"

/-- The traits of members whose way to match, limit and offset were read. -/
def assembled (defaults : SearchDefaults) (c : Members) (matching : Predicate.Operator)
    (limit : Option Limit) (offset : Option ℕ) : Traits where
  fields := if isTrue (getD c "count") then [.text "count"] else fieldsOf (getD c "fields")
  order := if isTrue (getD c "count") then [] else orderOf defaults (getD c "order")
  group := (getD c "group").asList
  limit := limit
  offset := offset
  matching := matching
  count := isTrue (getD c "count")
  typeAwareness := match getText? c "type_awareness" with
    | some v => isTrue v
    | none => defaults.typeAwareness
  documents := (getD c "documents").asList

section

variable {defaults : SearchDefaults} {c ms : Members} {matching : Predicate.Operator}
  {limit : Option Limit} {offset : Option ℕ}

lemma fieldsOf_ne_nil (v : Value) : fieldsOf v ≠ [] := by
  unfold fieldsOf
  split
  · simp
  · next h => exact h

lemma isNormal_assembled : (assembled defaults c matching limit offset).IsNormal where
  fields := by
    rw [assembled]
    dsimp only
    split
    · simp
    · exact fieldsOf_ne_nil _
  count h := by
    have hcount : isTrue (getD c "count") = true := h
    simp [assembled, hcount]
  limit := by
    cases limit with
    | none => exact Or.inl rfl
    | some l =>
      cases l with
      | all => exact Or.inr (Or.inl rfl)
      | rows n => exact Or.inr (Or.inr ⟨n, rfl⟩)
  offset := by
    cases offset with
    | none => exact Or.inl rfl
    | some n => exact Or.inr ⟨n, rfl⟩
  matching := by
    cases matching with
    | and => exact Or.inl rfl
    | or => exact Or.inr rfl

/-- With known names only, the traits are read one after the other. -/
lemma ofCanonical_of_isName (h : ∀ m ∈ c, isName m.1 = true) : ofCanonical defaults c =
    (Filter.matchOperator ((getText? c "match").getD (.text "all"))).bind fun matching =>
      (limitOf (getD c "limit")).bind fun limit =>
        (offsetOf (getD c "offset")).bind fun offset =>
          .ok (assembled defaults c matching limit offset) := by
  have hnone : (c.map Prod.fst).filter (!isName ·) = [] := by
    rw [List.filter_eq_nil_iff]
    intro k hk
    obtain ⟨m, hm, rfl⟩ := List.mem_map.1 hk
    simp [h m hm]
  unfold ofCanonical
  rw [hnone]
  rfl

/-- Traits that were read are assembled of the way to match, the limit and the offset. -/
lemma ofCanonical_eq_ok_iff {t : Traits} : ofCanonical defaults c = .ok t ↔
    (∀ m ∈ c, isName m.1 = true) ∧ ∃ matching limit offset,
      Filter.matchOperator ((getText? c "match").getD (.text "all")) = .ok matching ∧
      limitOf (getD c "limit") = .ok limit ∧ offsetOf (getD c "offset") = .ok offset ∧
      assembled defaults c matching limit offset = t := by
  constructor
  · intro h
    have hnames : ∀ m ∈ c, isName m.1 = true := by
      unfold ofCanonical at h
      dsimp only at h
      split at h
      · obtain ⟨names, -, h⟩ := Result.bind_eq_ok_iff.1 h
        simp at h
      · next hnone =>
        intro m hm
        by_contra hname
        refine hnone ?_
        rw [Bool.not_eq_true', List.isEmpty_eq_false_iff_exists_mem]
        exact ⟨m.1, List.mem_filter.2 ⟨List.mem_map_of_mem hm, by simpa using hname⟩⟩
    rw [ofCanonical_of_isName hnames] at h
    obtain ⟨matching, hmatching, h⟩ := Result.bind_eq_ok_iff.1 h
    obtain ⟨limit, hlimit, h⟩ := Result.bind_eq_ok_iff.1 h
    obtain ⟨offset, hoffset, h⟩ := Result.bind_eq_ok_iff.1 h
    exact ⟨hnames, matching, limit, offset, hmatching, hlimit, hoffset, Except.ok.inj h⟩
  · rintro ⟨hnames, matching, limit, offset, hmatching, hlimit, hoffset, rfl⟩
    rw [ofCanonical_of_isName hnames, hmatching, hlimit, hoffset]
    rfl

lemma sortedNames_of_text {ks : List Value} (h : ∀ k ∈ ks, ∃ s, k.asText? = some s) :
    ∃ names, sortedNames ks = .ok names := by
  have hall : (ks.all fun k => k.asText?.isSome) = true :=
    List.all_eq_true.2 fun k hk => Option.isSome_iff_exists.2 (h k hk)
  unfold sortedNames
  split
  · exact ⟨_, rfl⟩
  · rw [if_pos hall]
    exact ⟨_, rfl⟩

/-- An unknown name is refused. -/
lemma ofCanonical_of_unknown (defaults : SearchDefaults)
    (htext : ∀ m ∈ c, ∃ s, m.1.asText? = some s) (h : ¬ ∀ m ∈ c, isName m.1 = true) :
    ∃ names, ofCanonical defaults c = .error (.traitsUnknown names) := by
  have hsome : ((c.map Prod.fst).filter (!isName ·)).isEmpty = false := by
    rw [List.isEmpty_eq_false_iff, Ne, List.filter_eq_nil_iff]
    intro hnone
    exact h fun m hm => by simpa using hnone m.1 (List.mem_map_of_mem hm)
  have hkeys : ∀ k ∈ (c.map Prod.fst).filter (!isName ·), ∃ s, k.asText? = some s := by
    intro k hk
    obtain ⟨m, hm, rfl⟩ := List.mem_map.1 (List.mem_of_mem_filter hk)
    exact htext m hm
  obtain ⟨names, hnames⟩ := sortedNames_of_text hkeys
  refine ⟨names, ?_⟩
  unfold ofCanonical
  simp only [hsome, hnames]
  rfl

lemma text_of_mem_canonicalMembers (hkeys : ∀ m ∈ ms, ∃ s, m.1 = .text s) :
    ∀ m ∈ canonicalMembers ms, ∃ s, m.1.asText? = some s := by
  intro m hm
  rcases Members.mem_merge_key hm with ⟨n, hn, -⟩ | ⟨n, hn, heq⟩
  · simp at hn
  · obtain ⟨o, ho, rfl⟩ := List.mem_map.1 hn
    obtain ⟨s, hs⟩ := hkeys o ho
    rw [← heq]
    dsimp only
    rw [hs, canonicalName]
    split <;> exact ⟨_, rfl⟩

/-! ### Normalized or refused -/

/-- Of the members the traits in their normal form come, and no number of rows is below zero; or
they are refused as malformed filters are. -/
def IsNormalized (c : Members) : Result Traits → Prop
  | .ok t => t.IsNormal ∧ ¬ (getD c "limit").IsBelowZero ∧ ¬ (getD c "offset").IsBelowZero
  | .error e => e.kind? = some .predicate

/-- The members that are neither taken nor refused as they should: names are known, what is read
before is read, and then comes a way to match that cannot be looked up, a number of rows without
end, or one below zero that is cut to zero. -/
inductive Mishandled (c : Members) : Prop
  | matching (hnames : ∀ m ∈ c, isName m.1 = true)
      (h : ((getText? c "match").getD (.text "all")).isKey = false) : Mishandled c
  | limit (hnames : ∀ m ∈ c, isName m.1 = true) {op : Predicate.Operator}
      (hmatch : ReadsMatch ((getText? c "match").getD (.text "all")) op)
      (h : (getD c "limit").IsUnbounded) : Mishandled c
  | offset (hnames : ∀ m ∈ c, isName m.1 = true) {op : Predicate.Operator} {l : Option Limit}
      (hmatch : ReadsMatch ((getText? c "match").getD (.text "all")) op)
      (hlimit : ReadsLimit (getD c "limit") l) (h : (getD c "offset").IsUnbounded) :
      Mishandled c
  | belowZero (hnames : ∀ m ∈ c, isName m.1 = true) {op : Predicate.Operator} {l : Option Limit}
      {o : Option ℕ} (hmatch : ReadsMatch ((getText? c "match").getD (.text "all")) op)
      (hlimit : ReadsLimit (getD c "limit") l) (hoffset : ReadsOffset (getD c "offset") o)
      (h : (getD c "limit").IsBelowZero ∨ (getD c "offset").IsBelowZero) : Mishandled c

/-- What shows that members were mishandled: a fault instead of a refusal, or no rows where less
than none were asked for. -/
def ShowsMistake : Result Traits → Prop
  | .ok t => t.limit = some (.rows 0) ∨ t.offset = some 0
  | .error e => e = .fault .wrongType ∨ e = .fault .overflow

/-- The members are normalized or refused just when they are not mishandled, and when they are it
shows. -/
def IsSettled (c : Members) (r : Result Traits) : Prop :=
  (IsNormalized c r ↔ ¬ Mishandled c) ∧ (Mishandled c → ShowsMistake r)

lemma isSettled_of_refused {e : Error} (hkind : e.kind? = some .predicate)
    (h : ¬ Mishandled c) : IsSettled c (.error e) :=
  ⟨iff_of_true hkind h, fun hmis => absurd hmis h⟩

lemma isSettled_of_broken {e : Error} (he : e = .fault .wrongType ∨ e = .fault .overflow)
    (h : Mishandled c) : IsSettled c (.error e) := by
  refine ⟨iff_of_false (fun hnormal => ?_) (not_not_intro h), fun _ => he⟩
  have hkind : e.kind? = some .predicate := hnormal
  rcases he with rfl | rfl <;> cases hkind

/-! Members are not mishandled when the value that is refused comes before one that is flawed. -/

section

variable (hmatch : ¬ ((getText? c "match").getD (.text "all")).isKey = false)

include hmatch

lemma not_mishandled_of_match
    (h : ∀ op, ¬ ReadsMatch ((getText? c "match").getD (.text "all")) op) : ¬ Mishandled c := by
  intro hmis
  cases hmis with
  | matching _ hkey => exact hmatch hkey
  | limit _ hop _ | offset _ hop _ _ | belowZero _ hop _ _ _ => exact h _ hop

variable (hlimit : ¬ (getD c "limit").IsUnbounded)

include hlimit

lemma not_mishandled_of_limit (h : ∀ l, ¬ ReadsLimit (getD c "limit") l) : ¬ Mishandled c := by
  intro hmis
  cases hmis with
  | matching _ hkey => exact hmatch hkey
  | limit _ _ hend => exact hlimit hend
  | offset _ _ hl _ | belowZero _ _ hl _ _ => exact h _ hl

variable (hoffset : ¬ (getD c "offset").IsUnbounded)

include hoffset

lemma not_mishandled_of_offset (h : ∀ o, ¬ ReadsOffset (getD c "offset") o) : ¬ Mishandled c := by
  intro hmis
  cases hmis with
  | matching _ hkey => exact hmatch hkey
  | limit _ _ hend => exact hlimit hend
  | offset _ _ _ hend => exact hoffset hend
  | belowZero _ _ _ ho _ => exact h _ ho

/-- Of sound values, those below zero are mishandled. -/
lemma Mishandled.isBelowZero (h : Mishandled c) :
    (getD c "limit").IsBelowZero ∨ (getD c "offset").IsBelowZero := by
  cases h with
  | matching _ hkey => exact absurd hkey hmatch
  | limit _ _ hend => exact absurd hend hlimit
  | offset _ _ _ hend => exact absurd hend hoffset
  | belowZero _ _ _ _ h => exact h

end

/-- The reading stops at the first value that is no good; every value before it is sound. -/
lemma isSettled_ofCanonical (hnames : ∀ m ∈ c, isName m.1 = true) :
    IsSettled c (ofCanonical defaults c) := by
  rw [ofCanonical_of_isName hnames]
  have hmatch := outcome_matchOperator ((getText? c "match").getD (.text "all"))
  generalize Filter.matchOperator _ = x at hmatch
  cases hmatch with
  | broken h => exact isSettled_of_broken (.inl rfl) (.matching hnames h)
  | refused hnot hkey hkind => exact isSettled_of_refused hkind (not_mishandled_of_match hkey hnot)
  | @read op hop hkey =>
    have hlimit := outcome_limitOf (getD c "limit")
    simp only [Except.bind]
    generalize limitOf _ = x at hlimit
    cases hlimit with
    | broken h => exact isSettled_of_broken (.inr rfl) (.limit hnames hop h)
    | refused hnot hend hkind =>
      exact isSettled_of_refused hkind (not_mishandled_of_limit hkey hend hnot)
    | @read l hl hend =>
      have hoffset := outcome_offsetOf (getD c "offset")
      simp only
      generalize offsetOf _ = x at hoffset
      cases hoffset with
      | broken h => exact isSettled_of_broken (.inr rfl) (.offset hnames hop hl h)
      | refused hnot hstop hkind =>
        exact isSettled_of_refused hkind (not_mishandled_of_offset hkey hend hstop hnot)
      | @read o ho hstop =>
        refine ⟨⟨?_, fun hsound => ?_⟩, fun hmis => ?_⟩
        · rintro ⟨-, hl, ho⟩ hmis
          exact (hmis.isBelowZero hkey hend hstop).elim hl ho
        · exact ⟨isNormal_assembled, fun h => hsound (.belowZero hnames hop hl ho (.inl h)),
            fun h => hsound (.belowZero hnames hop hl ho (.inr h))⟩
        · exact (hmis.isBelowZero hkey hend hstop).imp hl.eq_zero ho.eq_zero

/-- A mapping with text keys gives traits in normal form, with no number of rows that was below
zero, or is refused as malformed filters are, just when it is not mishandled; a mishandled one ends
in a fault or counts no rows. -/
theorem isNormalized_ofValue_iff (defaults : SearchDefaults)
    (hkeys : ∀ m ∈ ms, ∃ s, m.1 = .text s) :
    (IsNormalized (canonicalMembers ms) (ofValue defaults (.dict ms)) ↔
        ¬ Mishandled (canonicalMembers ms)) ∧
      (Mishandled (canonicalMembers ms) → ShowsMistake (ofValue defaults (.dict ms))) := by
  have hof : ofValue defaults (.dict ms) = ofCanonical defaults (canonicalMembers ms) := by
    cases ms with
    | nil => rfl
    | cons m ms => rfl
  rw [hof]
  by_cases hnames : ∀ m ∈ canonicalMembers ms, isName m.1 = true
  · exact isSettled_ofCanonical hnames
  · obtain ⟨names, hunknown⟩ := ofCanonical_of_unknown defaults
      (text_of_mem_canonicalMembers hkeys) hnames
    rw [hunknown]
    refine isSettled_of_refused rfl fun hmis => hnames ?_
    cases hmis <;> assumption

end

/-- The usual settings of searches. -/
def usualDefaults : SearchDefaults := ⟨.text "$created", false⟩

/-- At most two and a half rows, but for the first three. -/
def fewRows : Members :=
  [(.text "limit", .float (.finite false 5 (-1))), (.text "offset", .text " 3 ")]

/-- A fraction and a numeral are taken as numbers of rows. -/
theorem fewRows_isNormalized :
    (∀ m ∈ fewRows, ∃ s, m.1 = .text s) ∧ ¬ Mishandled (canonicalMembers fewRows) ∧
      IsNormalized (canonicalMembers fewRows) (ofValue usualDefaults (.dict fewRows)) := by
  have hkeys : ∀ m ∈ fewRows, ∃ s, m.1 = .text s := by simp [fewRows]
  have hsound : ¬ Mishandled (canonicalMembers fewRows) := by
    intro hmis
    cases hmis with
    | matching _ h => cases h
    | limit _ _ h => cases h
    | offset _ _ _ h => exact not_isUnbounded_of_asText? rfl h
    | belowZero _ _ _ _ h =>
      refine h.elim (fun h => ?_) (not_isBelowZero_of_asText? rfl)
      exact absurd (Value.isNegative_of_isBelowZero_float h) (by decide)
  exact ⟨hkeys, hsound, (isNormalized_ofValue_iff usualDefaults hkeys).1.2 hsound⟩

/-- Mappings with text keys that are neither normalized nor refused: a list as the way to match, a
limit without end, and less than no rows, which are taken for none. -/
theorem endlessLimit_notNormalized :
    ofValue usualDefaults (.dict [(.text "match", .list [])]) = .error (.fault .wrongType) ∧
      ofValue usualDefaults (.dict [(.text "limit", .float (.infinite false))]) =
        .error (.fault .overflow) ∧
      Value.IsBelowZero (.float (.finite true 1 (-1))) ∧
      (ofValue usualDefaults (.dict [(.text "limit", .float (.finite true 1 (-1)))])).map
        (·.limit) = .ok (some (.rows 0)) ∧
      ¬ ∀ (defaults : SearchDefaults) (ms : Members), (∀ m ∈ ms, ∃ s, m.1 = .text s) →
        IsNormalized (canonicalMembers ms) (ofValue defaults (.dict ms)) := by
  have hend : ofValue usualDefaults (.dict [(.text "limit", .float (.infinite false))]) =
      .error (.fault .overflow) := rfl
  refine ⟨rfl, hend, ⟨_, _, rfl, Or.inr ⟨-1, 2, rfl, by decide⟩⟩, rfl, fun h => ?_⟩
  have hnormal := h usualDefaults [(.text "limit", .float (.infinite false))] (by simp)
  rw [hend] at hnormal
  cases hnormal

end Traits

end DocumentSql

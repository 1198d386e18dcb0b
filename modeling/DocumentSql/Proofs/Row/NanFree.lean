/-
Values without NaN.

A NaN is equal to nothing, and so is what holds one.  A value that holds none is equal to itself
(`Value.NanFree.same_self`) and does not differ from itself, neither as a value of its own
(`Value.NanFree.not_differs_self`) nor when its plain form is taken anew
(`Value.NanFree.not_differsFromItself`).  It holds none when it is no NaN and none of its parts
holds one, so that what holds of all parts can be used for the whole.
-/
import DocumentSql.Proofs.Row.Update

namespace DocumentSql

namespace Decimal

/-- The numeral is no number. -/
def isNan : Decimal → Bool
  | .nan .. => true
  | _ => false

end Decimal

namespace Value

/-- The value is a NaN of some kind. -/
def isNan : Value → Bool
  | float x => x.isNan
  | complex re im => re.isNan || im.isNan
  | decimal d => d.isNan
  | _ => false

/-- The values that a value is made of: items, keys and values of members, plain values, the cells
of tables, and the parts of declarations. -/
def parts : Value → List Value
  | list xs | tuple xs | set xs => xs
  | dict ms => ms.flatMap fun m => [m.1, m.2]
  | scalar _ plain | array _ plain => [plain]
  | frame _ rows => rows.flatten
  | function _ _ returnType => [returnType]
  | documentType name id schema info => [name, id, schema, info]
  | _ => []

/-- What holds of dynamic values: a mapping has no key twice, and a typed element is a number or a
text. -/
def IsMade : Value → Prop
  | dict ms => Members.IsUnique ms
  | scalar _ plain => plain.number?.isSome ∨ ∃ s, plain = text s
  | _ => True

/-- The value is no NaN and holds none. -/
inductive NanFree : Value → Prop where
  | intro {v : Value} (own : v.isNan = false) (made : v.IsMade) (parts : ∀ p ∈ v.parts, NanFree p) :
      NanFree v

end Value

namespace Members

variable {ms : Members} {m : Value × Value} {k v : Value}

/-- In a mapping without a key twice, a member stands under its key. -/
lemma IsUnique.get?_of_mem (h : ms.IsUnique) (hm : m ∈ ms) (hself : m.1.same m.1 = true) :
    get? ms m.1 = some m.2 := by
  unfold get?
  induction ms with
  | nil => simp at hm
  | cons n ms ih =>
    obtain ⟨hfirst, hrest⟩ := List.pairwise_cons.1 h
    rcases List.mem_cons.1 hm with rfl | hm
    · simp [hself]
    · rw [List.find?_cons_of_neg (by simp [hfirst m hm]), ih hrest hm]

/-- Text keys that do not stand twice are not equal to each other. -/
lemma IsKeyed.isUnique (h : ms.IsKeyed) : ms.IsUnique := by
  have hpairs := List.pairwise_map.1 h.2
  refine hpairs.imp_of_mem fun {m n} hm _ hne => ?_
  obtain ⟨s, hs⟩ := Option.isSome_iff_exists.1 (h.1 m hm)
  rw [Value.same_of_asText? hs, ← hs]
  simpa using hne.symm

lemma exists_mem_of_get? (h : get? ms k = some v) : ∃ m ∈ ms, m.1.same k = true ∧ m.2 = v := by
  obtain ⟨m, hm, rfl⟩ := Option.map_eq_some_iff.1 h
  exact ⟨m, List.mem_of_find?_eq_some hm, by simpa using List.find?_some hm, rfl⟩

lemma isUnique_insert (h : ms.IsUnique) (k v : Value) : (insert k v ms).IsUnique := by
  -- a key that stands before `k` and is not equal to it is equal to no key of what follows
  have hkeys : ∀ {n : Value × Value} {ms : Members}, n.1.same k = false →
      (∀ m ∈ ms, n.1.same m.1 = false) → ∀ m ∈ insert k v ms, n.1.same m.1 = false := by
    intro n ms hn hms m hm
    rcases mem_insert_key hm with heq | ⟨o, ho, heq⟩
    · rw [heq, hn]
    · rw [← heq, hms o ho]
  induction ms with
  | nil => simp [insert, IsUnique]
  | cons n ms ih =>
    obtain ⟨hfirst, hrest⟩ := List.pairwise_cons.1 h
    rw [insert]
    split
    · exact List.pairwise_cons.2 ⟨hfirst, hrest⟩
    · next hn => exact List.pairwise_cons.2 ⟨hkeys (by simpa using hn) hfirst, ih hrest⟩

lemma isUnique_merge (h : ms.IsUnique) (extra : Members) : (merge ms extra).IsUnique := by
  induction extra generalizing ms with
  | nil => exact h
  | cons m extra ih => exact ih (isUnique_insert h m.1 m.2)

end Members

namespace Value

variable {v w : Value} {xs : List Value} {ms : Members}

/-! ### Parts of values -/

lemma nanFree_null : null.NanFree := .intro rfl trivial (by simp [parts])

lemma nanFree_list : (list xs).NanFree ↔ ∀ x ∈ xs, x.NanFree := by
  constructor
  · rintro ⟨-, -, hparts⟩
    exact hparts
  · exact fun h => .intro rfl trivial h

lemma nanFree_dict : (dict ms).NanFree ↔
    ms.IsUnique ∧ ∀ m ∈ ms, m.1.NanFree ∧ m.2.NanFree := by
  have hparts : (∀ p ∈ (dict ms).parts, p.NanFree) ↔ ∀ m ∈ ms, m.1.NanFree ∧ m.2.NanFree := by
    simp only [parts, List.mem_flatMap]
    constructor
    · intro h m hm
      exact ⟨h m.1 ⟨m, hm, by simp⟩, h m.2 ⟨m, hm, by simp⟩⟩
    · rintro h p ⟨m, hm, hp⟩
      rcases List.mem_pair.1 hp with rfl | rfl
      · exact (h m hm).1
      · exact (h m hm).2
  rw [← hparts]
  constructor
  · rintro ⟨-, hmade, h⟩
    exact ⟨hmade, h⟩
  · exact fun h => .intro rfl h.1 h.2

/-- JSON values hold no NaN: their numbers are finite. -/
lemma IsJson.nanFree (h : v.IsJson) : v.NanFree := by
  induction v using structured_induction with
  | list xs ih => exact nanFree_list.2 fun x hx => ih x hx (isJson_list.1 h x hx)
  | dict ms ih =>
    obtain ⟨hkeyed, hms⟩ := isJson_dict.1 h
    refine nanFree_dict.2 ⟨Members.IsKeyed.isUnique hkeyed, fun m hm => ⟨?_, ih m hm (hms m hm).2⟩⟩
    obtain ⟨s, hs⟩ := (hms m hm).1
    exact hs ▸ .intro rfl trivial (by simp [parts])
  | leaf v hleaf =>
    cases v with
    | float x =>
      have hx : x.isNan = false := by
        cases x <;> simp_all [Binary.isNan, IsJson, Binary.IsKept]
      exact .intro hx trivial (by simp [parts])
    | list xs => simp [isStructured] at hleaf
    | dict ms => simp [isStructured] at hleaf
    | null => exact nanFree_null
    | bool _ => exact .intro rfl trivial (by simp [parts])
    | int _ => exact .intro rfl trivial (by simp [parts])
    | text _ => exact .intro rfl trivial (by simp [parts])
    | _ => simp [IsJson] at h

/-- The plain form of a value without NaN has none. -/
lemma NanFree.normalize (h : v.NanFree) : v.normalize.NanFree := by
  induction h with
  | @intro v own made parts ih =>
    cases v with
    | scalar _ plain => exact parts plain (by simp [Value.parts])
    | array _ plain => exact parts plain (by simp [Value.parts])
    | tuple xs =>
      rw [Value.normalize, normalizeAll_eq_map, nanFree_list]
      intro x hx
      obtain ⟨y, hy, rfl⟩ := List.mem_map.1 hx
      exact ih y hy
    | _ => exact .intro own made parts

/-! ### Equality with itself -/

lemma sameAmong_iff {ys : List Value} :
    sameAmong xs ys = true ↔ ∀ x ∈ xs, ∃ y ∈ ys, x.same y = true := by
  induction xs with
  | nil => simp [sameAmong]
  | cons x xs ih => simp [sameAmong, ih]

lemma sameMembers_iff {ns : Members} : sameMembers ms ns = true ↔
    ∀ m ∈ ms, ∃ n ∈ ns, m.1.same n.1 = true ∧ m.2.same n.2 = true := by
  induction ms with
  | nil => simp [sameMembers]
  | cons m ms ih =>
    obtain ⟨k, v⟩ := m
    simp [sameMembers, ih]

lemma sameRows_iff {rs ss : List (List Value)} :
    sameRows rs ss = true ↔ List.Forall₂ (fun r s => sameAll r s = true) rs ss := by
  induction rs generalizing ss with
  | nil => cases ss <;> simp [sameRows]
  | cons r rs ih => cases ss <;> simp [sameRows, ih]

lemma same_of_number? {a : RealValue × RealValue} (h : v.number? = some a) :
    v.same v = sameNumber a a := by
  cases v <;> simp_all [number?, same]

lemma eq_ofBinary {x : Binary} (h : x.isNan = false) :
    (RealValue.ofBinary x).eq (RealValue.ofBinary x) = true := by
  cases x <;> simp_all [Binary.isNan, RealValue.ofBinary, RealValue.eq, Binary.ratio?]

lemma eq_ofDecimal {d : Decimal} (h : d.isNan = false) :
    (RealValue.ofDecimal d).eq (RealValue.ofDecimal d) = true := by
  cases d <;> simp_all [Decimal.isNan, RealValue.ofDecimal, RealValue.eq, Decimal.ratio?]

/-- A number that is no NaN is equal to itself. -/
lemma NanFree.sameNumber_self (h : v.NanFree) {a : RealValue × RealValue}
    (ha : v.number? = some a) : sameNumber a a = true := by
  have hzero : (RealValue.ratio 0 1).eq (.ratio 0 1) = true := by decide
  induction h with
  | @intro v own made parts ih =>
    cases v with
    | bool b => cases b <;> simp_all [number?, sameNumber, RealValue.eq] <;> simp [← ha]
    | int n =>
      obtain rfl := Option.some.inj ha
      simp [sameNumber, RealValue.eq]
    | float x =>
      obtain rfl := Option.some.inj ha
      rw [sameNumber, eq_ofBinary own, hzero]
      rfl
    | decimal d =>
      obtain rfl := Option.some.inj ha
      rw [sameNumber, eq_ofDecimal own, hzero]
      rfl
    | complex x y =>
      obtain rfl := Option.some.inj ha
      obtain ⟨hx, hy⟩ := Bool.or_eq_false_iff.1 own
      rw [sameNumber, eq_ofBinary hx, eq_ofBinary hy]
      rfl
    | scalar _ plain => exact ih plain (by simp [Value.parts]) ha
    | _ => simp [number?] at ha

/-- A value without NaN is equal to itself. -/
theorem NanFree.same_self (h : v.NanFree) : v.same v = true := by
  induction h with
  | @intro v own made parts ih =>
    have hself : NanFree v := .intro own made parts
    -- numbers of all kinds are compared by value, everything else part by part
    cases hnumber : v.number? with
    | some a => rw [same_of_number? hnumber, hself.sameNumber_self hnumber]
    | none =>
      cases v with
      | list xs => rw [same, sameAll_iff, List.forall₂_same]; exact ih
      | tuple xs => rw [same, sameAll_iff, List.forall₂_same]; exact ih
      | set xs =>
        rw [same, Bool.and_eq_true, sameAmong_iff]
        exact ⟨by simp, fun x hx => ⟨x, hx, ih x hx⟩⟩
      | dict ms =>
        rw [same, Bool.and_eq_true, sameMembers_iff]
        refine ⟨by simp, fun m hm => ⟨m, hm, ih m.1 ?_, ih m.2 ?_⟩⟩
        · exact List.mem_flatMap.2 ⟨m, hm, by simp⟩
        · exact List.mem_flatMap.2 ⟨m, hm, by simp⟩
      | scalar kind plain =>
        rcases made with hsome | ⟨s, rfl⟩
        · simp [show plain.number? = none from hnumber] at hsome
        · simp [same_of_asText? (v := scalar kind (text s)) (s := s) rfl, asText?]
      | array kind plain => simp [same, ih plain (by simp [Value.parts])]
      | frame columns rows =>
        rw [same, Bool.and_eq_true, sameRows_iff, List.forall₂_same]
        refine ⟨by simp, fun r hr => sameAll_iff.2 (List.forall₂_same.2 fun x hx => ih x ?_)⟩
        exact List.mem_flatten.2 ⟨r, hr, hx⟩
      | function name implementation returnType =>
        simp [same, ih returnType (by simp [Value.parts])]
      | documentType name id schema info =>
        simp [same, ih name (by simp [Value.parts]), ih id (by simp [Value.parts]),
          ih schema (by simp [Value.parts]), ih info (by simp [Value.parts])]
      | moment m =>
        cases hm : m.time.offset <;>
          simp [same, number?, asText?, sameAtom, Moment.same, hm]
      | time t =>
        cases ht : t.offset <;> simp [same, number?, asText?, sameAtom, TimeOfDay.same, ht]
      | _ => first
          | simp [number?] at hnumber; done
          | simp [same, number?, asText?, sameAtom]

/-! ### Difference from itself -/

lemma not_differs_of_same (h : v.same v = true) (hstructured : v.isStructured = false)
    (htuple : ∀ xs, v ≠ tuple xs) : v.differs v = false := by
  cases v with
  | list xs => simp [isStructured] at hstructured
  | dict ms => simp [isStructured] at hstructured
  | tuple xs => exact absurd rfl (htuple xs)
  | moment m => simp [differs, Moment.same, Moment.zoned]
  | frame columns rows => simp [differs]
  | _ => simp [differs, h]

/-- Items of plain values are compared by equality, others item by item. -/
lemma not_itemsDiffer_self (h : ∀ x ∈ xs, x.NanFree ∧ x.differs x = false) :
    (if xs.all isBasic && xs.all isBasic then !sameAll xs xs else itemsDiffer xs xs) = false := by
  split
  · rw [Bool.not_eq_false', sameAll_iff, List.forall₂_same]
    exact fun x hx => (h x hx).1.same_self
  · rw [itemsDiffer_eq_false_iff, List.forall₂_same]
    exact fun x hx => (h x hx).2

/-- A value without NaN does not differ from itself. -/
theorem NanFree.not_differs_self (h : v.NanFree) : v.differs v = false := by
  -- lists, tuples and mappings are compared part by part, whatever else by equality
  induction h with
  | @intro v own made parts ih =>
    have hself : NanFree v := .intro own made parts
    cases v with
    | list xs =>
      rw [differs]
      exact not_itemsDiffer_self fun x hx => ⟨parts x hx, ih x hx⟩
    | tuple xs =>
      rw [differs]
      exact not_itemsDiffer_self fun x hx => ⟨parts x hx, ih x hx⟩
    | dict ms =>
      have hget : ∀ m ∈ ms, Members.get? ms m.1 = some m.2 := fun m hm =>
        Members.IsUnique.get?_of_mem made hm ((nanFree_dict.1 hself).2 m hm).1.same_self
      refine differs_dict_dict.2 ⟨fun m hm _ => ⟨m.2, hget m hm, ih m.2 ?_⟩, fun m hm _ => ?_⟩
      · exact List.mem_flatMap.2 ⟨m, hm, by simp⟩
      · rw [hget m hm]
        rfl
    | _ => exact not_differs_of_same hself.same_self rfl (by simp)

lemma anyHoldsNan_eq_false_iff : anyHoldsNan xs = false ↔ ∀ x ∈ xs, x.holdsNan = false := by
  induction xs with
  | nil => simp [anyHoldsNan]
  | cons x xs ih => simp [anyHoldsNan, ih]

lemma anyDiffersFromItself_eq_false_iff :
    anyDiffersFromItself xs = false ↔ ∀ x ∈ xs, x.differsFromItself = false := by
  induction xs with
  | nil => simp [anyDiffersFromItself]
  | cons x xs ih => simp [anyDiffersFromItself, ih]

lemma NanFree.not_holdsNan (h : v.NanFree) : v.holdsNan = false := by
  induction h with
  | @intro v own made parts ih =>
    cases v with
    | list xs => exact anyHoldsNan_eq_false_iff.2 ih
    | float x => exact own
    | complex x y => exact own
    | _ => rfl

/-- The plain form of a value without NaN is the same each time it is taken. -/
theorem NanFree.not_differsFromItself (h : v.NanFree) : v.differsFromItself = false := by
  induction h with
  | @intro v own made parts ih =>
    cases v with
    | scalar _ plain => exact (parts plain (by simp [Value.parts])).not_holdsNan
    | array _ plain => exact (parts plain (by simp [Value.parts])).not_holdsNan
    | tuple xs => exact anyDiffersFromItself_eq_false_iff.2 ih
    | _ => rfl

end Value

/-! ### Mappings and rows -/

namespace Members

variable {ms extra : Members} {k v : Value}

lemma nanFree_get? (h : (Value.dict ms).NanFree) (hv : get? ms k = some v) : v.NanFree := by
  obtain ⟨m, hm, -, rfl⟩ := exists_mem_of_get? hv
  exact ((Value.nanFree_dict.1 h).2 m hm).2

lemma nanFree_merge (h : (Value.dict ms).NanFree)
    (hextra : ∀ m ∈ extra, m.1.NanFree ∧ m.2.NanFree) : (Value.dict (merge ms extra)).NanFree := by
  obtain ⟨hunique, hms⟩ := Value.nanFree_dict.1 h
  exact Value.nanFree_dict.2 ⟨isUnique_merge hunique extra, forall_mem_merge hms hextra⟩

end Members

namespace Row

variable {e : Entity} {ms : Members} {row : Row} {column : String}

lemma nanFree_containerMembers {v : Value} {given : Members} (hv : v.NanFree)
    (h : containerMembers v = .ok given) : (Value.dict given).NanFree := by
  rcases containerMembers_eq_ok h with ⟨-, rfl⟩ | rfl
  · exact Value.nanFree_dict.2 ⟨by simp [Members.IsUnique], by simp⟩
  · exact hv

lemma nanFree_explicit (hms : (Value.dict ms).NanFree) :
    ((explicit? e ms).getD .null).NanFree := by
  cases hu : Members.getText? ms ("$" ++ e.container) with
  | none => simpa [explicit?, hu] using Value.nanFree_null
  | some u => simpa [explicit?, hu] using (Members.nanFree_get? hms hu).normalize

/-- The row of an object without NaN holds none. -/
theorem nanFree_of_ofMembers (hms : (Value.dict ms).NanFree) (h : ofMembers e ms = .ok row)
    {v : Value} (hv : get? row column = some v) : v.NanFree := by
  rcases cases_of_get?_ofMembers h hv with
    ⟨u, hu, rfl⟩ | ⟨columns, data, given, hpartition, hgiven, rfl⟩
  · exact (Members.nanFree_get? hms hu).normalize
  · refine Members.nanFree_merge (nanFree_containerMembers (nanFree_explicit hms) hgiven)
      fun m hm => ?_
    obtain ⟨w, hw, heq⟩ := exists_mem_of_partition hpartition hm
    obtain ⟨hkey, hw⟩ := (Value.nanFree_dict.1 hms).2 (m.1, w) hw
    exact ⟨hkey, heq ▸ hw.normalize⟩

end Row

end DocumentSql

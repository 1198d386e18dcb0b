/-
When two values differ.

The difference of two values is told part by part: of lists by their elements, of mappings by
what stands under their keys, where keys that begin with two underscores do not count
(`Value.differs_dict_iff`).  So matching values differ from the same values
(`Value.differs_congr`), and a value that is equal to itself does not differ from what it matches
(`Value.not_differs_of_matches`).
-/
import DocumentSql.Proofs.Value.Matching
import DocumentSql.Value.Collection

namespace DocumentSql

namespace Value

/-- The text begins with two underscores, so that a member under this key does not count. -/
def isPrivateName (s : String) : Bool := ['_', '_'].isPrefixOf s.toList

lemma isPrivateKey_eq {k : Value} {s : String} (h : k.asText? = some s) :
    isPrivateKey k = isPrivateName s := by
  rw [isPrivateKey, h, isPrivateName]

/-- The value is equal to itself, and it does not differ from itself. -/
structure IsSelfEqual (v : Value) : Prop where
  same : v.same v = true
  not_differs : v.differs v = false

section

variable {v w : Value} {xs ys : List Value} {ms ns : Members}

lemma sameAll_iff : sameAll xs ys = true ↔ List.Forall₂ (fun v w => v.same w = true) xs ys := by
  induction xs generalizing ys with
  | nil => cases ys <;> simp [sameAll]
  | cons x xs ih => cases ys <;> simp [sameAll, ih]

lemma itemsDiffer_eq_false_iff :
    itemsDiffer xs ys = false ↔ List.Forall₂ (fun v w => v.differs w = false) xs ys := by
  induction xs generalizing ys with
  | nil => cases ys <;> simp [itemsDiffer]
  | cons x xs ih => cases ys <;> simp [itemsDiffer, ih]

lemma membersDiffer_eq_false_iff : membersDiffer ms ns = false ↔
    ∀ m ∈ ms, isPrivateKey m.1 = false →
      ∃ w, Members.get? ns m.1 = some w ∧ m.2.differs w = false := by
  induction ms with
  | nil => simp [membersDiffer]
  | cons m ms ih =>
    obtain ⟨k, v⟩ := m
    rw [membersDiffer, Bool.or_eq_false_iff, ih, List.forall_mem_cons]
    refine and_congr_left fun _ => ?_
    cases isPrivateKey k <;> cases Members.get? ns k <;> simp

/-- Only lists do not differ from lists, and only mappings do not differ from mappings. -/
lemma shape_of_not_differs (h : v.differs w = false) :
    (∃ xs ys, v = list xs ∧ w = list ys) ∨ (∃ ms ns, v = dict ms ∧ w = dict ns) ∨
      (v.isStructured = false ∧ w.isStructured = false) := by
  cases v with
  | list xs =>
    cases w with
    | list ys => exact Or.inl ⟨xs, ys, rfl, rfl⟩
    | _ => simp [differs, same, number?, asText?, sameAtom] at h
  | dict ms =>
    cases w with
    | dict ns => exact Or.inr (Or.inl ⟨ms, ns, rfl, rfl⟩)
    | _ => simp [differs, same, number?, asText?, sameAtom] at h
  | _ =>
    cases w with
    | list ys => simp [differs, same, number?, asText?, sameAtom] at h
    | dict ns => simp [differs, same, number?, asText?, sameAtom] at h
    | _ => exact Or.inr (Or.inr ⟨rfl, rfl⟩)

lemma exists_list_of_not_differs (h : (list xs).differs w = false) : ∃ ys, w = list ys := by
  obtain ⟨_, ys, -, hw⟩ | ⟨_, _, hv, -⟩ | ⟨hv, -⟩ := shape_of_not_differs h
  · exact ⟨ys, hw⟩
  · exact absurd hv (by simp)
  · exact absurd hv (by simp [isStructured])

lemma exists_dict_of_not_differs (h : (dict ms).differs w = false) : ∃ ns, w = dict ns := by
  obtain ⟨_, _, hv, -⟩ | ⟨_, ns, -, hw⟩ | ⟨hv, -⟩ := shape_of_not_differs h
  · exact absurd hv (by simp)
  · exact ⟨ns, hw⟩
  · exact absurd hv (by simp [isStructured])

lemma exists_dict_of_not_differs_dict (h : v.differs (dict ns) = false) : ∃ ms, v = dict ms := by
  obtain ⟨_, _, -, hw⟩ | ⟨ms, _, hv, -⟩ | ⟨-, hw⟩ := shape_of_not_differs h
  · exact absurd hw (by simp)
  · exact ⟨ms, hv⟩
  · exact absurd hw (by simp [isStructured])

lemma isStructured_of_not_differs {u : Value} (hu : u.isStructured = false)
    (h : u.differs v = false) : v.isStructured = false := by
  obtain ⟨_, _, rfl, -⟩ | ⟨_, _, rfl, -⟩ | ⟨-, hv⟩ := shape_of_not_differs h
  · exact absurd hu (by simp [isStructured])
  · exact absurd hu (by simp [isStructured])
  · exact hv

lemma any_lacksPartner_eq_false_iff : ns.any (lacksPartner ms) = false ↔
    ∀ n ∈ ns, isPrivateKey n.1 = false → (Members.get? ms n.1).isSome = true := by
  rw [List.any_eq_false]
  refine forall₂_congr fun n _ => ?_
  cases hn : isPrivateKey n.1 <;> simp [lacksPartner, hn, Option.isSome_iff_ne_none]

lemma differs_dict_dict : (dict ms).differs (dict ns) = false ↔
    (∀ m ∈ ms, isPrivateKey m.1 = false →
      ∃ w, Members.get? ns m.1 = some w ∧ m.2.differs w = false) ∧
    ∀ n ∈ ns, isPrivateKey n.1 = false → (Members.get? ms n.1).isSome = true := by
  rw [differs, Bool.or_eq_false_iff, membersDiffer_eq_false_iff, any_lacksPartner_eq_false_iff]

/-- What holds of every member that counts and of what stands under its key elsewhere, told by
texts. -/
lemma forall_counting_iff (hms : ms.IsKeyed) {P : Value → Option Value → Prop} :
    (∀ m ∈ ms, isPrivateKey m.1 = false → P m.2 (Members.get? ns m.1)) ↔
      ∀ s v, Members.getText? ms s = some v → isPrivateName s = false →
        P v (Members.getText? ns s) := by
  constructor
  · intro h s v hv hs
    obtain ⟨k, hm, hk⟩ := Members.exists_mem_of_getText? hv
    rw [← Members.get?_of_asText hk]
    exact h (k, v) hm (by rw [isPrivateKey_eq hk, hs])
  · rintro h ⟨k, v⟩ hm hprivate
    obtain ⟨s, hk⟩ := Option.isSome_iff_exists.1 (hms.1 (k, v) hm)
    rw [Members.get?_of_asText hk]
    exact h s v (hms.getText?_of_mem hm hk) (by rw [← isPrivateKey_eq hk, hprivate])

lemma optionRel_iff {α : Type} {R : α → α → Prop} {x y : Option α} :
    Option.Rel R x y ↔ (∀ a, x = some a → ∃ b, y = some b ∧ R a b) ∧
      ∀ b, y = some b → x.isSome = true := by
  cases x <;> cases y <;> simp

lemma optionRel_cases {α : Type} {R : α → α → Prop} {x y : Option α} (h : Option.Rel R x y) :
    x = none ∧ y = none ∨ ∃ a b, x = some a ∧ y = some b ∧ R a b := by
  cases h with
  | none => exact Or.inl ⟨rfl, rfl⟩
  | some hab => exact Or.inr ⟨_, _, rfl, rfl, hab⟩

/-- Partners of all members that count, on both sides, are the values under all keys that
count. -/
lemma partners_iff (hms : ms.IsKeyed) (hns : ns.IsKeyed) {R : Value → Value → Prop} :
    ((∀ m ∈ ms, isPrivateKey m.1 = false → ∃ w, Members.get? ns m.1 = some w ∧ R m.2 w) ∧
      ∀ n ∈ ns, isPrivateKey n.1 = false → (Members.get? ms n.1).isSome = true) ↔
    ∀ s, isPrivateName s = false →
      Option.Rel R (Members.getText? ms s) (Members.getText? ns s) := by
  rw [forall_counting_iff hms (P := fun v o => ∃ w, o = some w ∧ R v w),
    forall_counting_iff hns (P := fun _ o => o.isSome = true)]
  constructor
  · rintro ⟨hleft, hright⟩ s hs
    exact optionRel_iff.2 ⟨fun v hv => hleft s v hv hs, fun w hw => hright s w hw hs⟩
  · intro h
    exact ⟨fun s v hv hs => (optionRel_iff.1 (h s hs)).1 v hv,
      fun s w hw hs => (optionRel_iff.1 (h s hs)).2 w hw⟩

/-- What a mapping with text keys differs from is told by its values under texts. -/
lemma differs_dict_left (hms : ms.IsKeyed) : (dict ms).differs (dict ns) = false ↔
    (∀ s v, Members.getText? ms s = some v → isPrivateName s = false →
      ∃ w, Members.getText? ns s = some w ∧ v.differs w = false) ∧
    ∀ n ∈ ns, isPrivateKey n.1 = false → (n.1.asText?.bind (Members.getText? ms)).isSome := by
  rw [differs_dict_dict,
    forall_counting_iff hms (P := fun v o => ∃ w, o = some w ∧ v.differs w = false)]
  simp only [hms.get?_eq]

/-- Mappings with text keys do not differ when under every key that counts stand values that do
not differ. -/
theorem differs_dict_iff (hms : ms.IsKeyed) (hns : ns.IsKeyed) :
    (dict ms).differs (dict ns) = false ↔ ∀ s, isPrivateName s = false →
      Option.Rel (fun v w => v.differs w = false)
        (Members.getText? ms s) (Members.getText? ns s) :=
  differs_dict_dict.trans (partners_iff hms hns (R := fun v w => v.differs w = false))

lemma isBasic_of_matches {R : Value → Value → Prop} (hv : v.isStructured = true)
    (h : Matches R v w) : v.isBasic = false ∧ w.isBasic = false := by
  cases v with
  | list xs =>
    obtain ⟨ys, rfl, -⟩ := matches_list_iff.1 h
    exact ⟨rfl, rfl⟩
  | dict ms =>
    obtain ⟨ns, rfl⟩ := exists_dict_of_matches h
    exact ⟨rfl, rfl⟩
  | _ => simp [isStructured] at hv

lemma all_isBasic_of_matches (h : List.Forall₂ (Matches Eq) xs ys) :
    xs.all isBasic = ys.all isBasic ∧ (xs.all isBasic = true → xs = ys) := by
  induction h with
  | nil => simp
  | @cons x y xs ys hxy _ ih =>
    by_cases hx : x.isStructured = true
    · obtain ⟨hx, hy⟩ := isBasic_of_matches hx hxy
      simp [hx, hy]
    · obtain ⟨-, rfl⟩ := (matches_leaf (by simpa using hx)).1 hxy
      simp only [List.all_cons, ih.1, Bool.and_eq_true, List.cons.injEq, true_and]
      exact fun hall => ih.2 (ih.1 ▸ hall.2)

lemma not_differs_congr {P Q : Value → Prop} (hv : v.IsFormed P) (hw : w.IsFormed Q)
    (h : Matches Eq v w) {u : Value} (hu : v.differs u = false) : w.differs u = false := by
  induction v using structured_induction generalizing w u with
  | leaf v hleaf =>
    obtain ⟨-, rfl⟩ := (matches_leaf hleaf).1 h
    exact hu
  | list xs ih =>
    obtain ⟨ys, rfl, hall⟩ := matches_list_iff.1 h
    obtain ⟨zs, rfl⟩ := exists_list_of_not_differs hu
    obtain ⟨hbasic, heq⟩ := all_isBasic_of_matches hall
    rw [differs_list_list] at hu ⊢
    rw [← hbasic]
    split at hu
    · next hall =>
      rw [if_pos hall, ← heq (Bool.and_eq_true _ _ ▸ hall).1]
      exact hu
    · next hnot =>
      rw [if_neg hnot, itemsDiffer_eq_false_iff]
      rw [itemsDiffer_eq_false_iff] at hu
      have hback : List.Forall₂ (fun y x => x ∈ xs ∧ Matches Eq x y) ys xs :=
        (forall₂_mono_mem hall fun x hx y _ hxy => ⟨hx, hxy⟩).flip
      refine forall₂_trans_mem hback hu fun y hy x z hxy hxz => ?_
      exact ih x hxy.1 (isFormed_list.1 hv x hxy.1) (isFormed_list.1 hw y hy) hxy.2 hxz
  | dict ms ih =>
    obtain ⟨ns, rfl⟩ := exists_dict_of_matches h
    obtain ⟨os, rfl⟩ := exists_dict_of_not_differs hu
    have hms := (isFormed_dict.1 hv).1
    have hns := (isFormed_dict.1 hw).1
    rw [matches_dict_iff hms hns] at h
    rw [differs_dict_left hms] at hu
    rw [differs_dict_left hns]
    obtain ⟨hleft, hright⟩ := hu
    constructor
    · intro s y hy hs
      obtain ⟨x, hx⟩ := Option.isSome_iff_exists.1 ((optionRel_iff.1 (h s)).2 y hy)
      have hxy := h s
      rw [hx, hy, Option.rel_some_some] at hxy
      obtain ⟨z, hz, hxz⟩ := hleft s x hx hs
      obtain ⟨k, hm, -⟩ := Members.exists_mem_of_getText? hx
      exact ⟨z, hz, ih (k, x) hm (hv.getText? hx) (hw.getText? hy) hxy hxz⟩
    · intro o ho hk
      have hsome := hright o ho hk
      cases hs : o.1.asText? with
      | none => simp [hs] at hsome
      | some s =>
        rw [hs, Option.bind_some] at hsome
        obtain ⟨x, hx⟩ := Option.isSome_iff_exists.1 hsome
        obtain ⟨y, hy, -⟩ := (optionRel_iff.1 (h s)).1 x hx
        simp [hy]

/-- Matching values differ from the same values. -/
theorem differs_congr {P Q : Value → Prop} (hv : v.IsFormed P) (hw : w.IsFormed Q)
    (h : Matches Eq v w) (u : Value) : v.differs u = w.differs u := by
  have hsymm : Matches Eq w v := matches_symm (fun _ _ => Eq.symm) hv hw h
  cases hu : v.differs u with
  | false => rw [not_differs_congr hv hw h hu]
  | true =>
    cases hw' : w.differs u with
    | true => rfl
    | false => rw [not_differs_congr hw hv hsymm hw'] at hu; exact hu.symm

lemma not_differs_congr_right {O P Q : Value → Prop} {u : Value} (hu : u.IsFormed O)
    (hv : v.IsFormed P) (hw : w.IsFormed Q) (h : Matches Eq v w) (hdiffers : u.differs v = false) :
    u.differs w = false := by
  induction u using structured_induction generalizing v w with
  | leaf u hleaf =>
    obtain ⟨-, rfl⟩ := (matches_leaf (isStructured_of_not_differs hleaf hdiffers)).1 h
    exact hdiffers
  | list xs ih =>
    obtain ⟨ys, rfl⟩ := exists_list_of_not_differs hdiffers
    obtain ⟨zs, rfl, hall⟩ := matches_list_iff.1 h
    obtain ⟨hbasic, heq⟩ := all_isBasic_of_matches hall
    rw [differs_list_list] at hdiffers ⊢
    rw [← hbasic]
    split at hdiffers
    · next hyes =>
      rw [if_pos hyes, ← heq (Bool.and_eq_true _ _ ▸ hyes).2]
      exact hdiffers
    · next hnot =>
      rw [if_neg hnot, itemsDiffer_eq_false_iff]
      rw [itemsDiffer_eq_false_iff] at hdiffers
      have hformed : List.Forall₂ (fun y z => (y.IsFormed P ∧ z.IsFormed Q) ∧ Matches Eq y z)
          ys zs := forall₂_mono_mem hall fun y hy z hz hyz =>
        ⟨⟨isFormed_list.1 hv y hy, isFormed_list.1 hw z hz⟩, hyz⟩
      refine forall₂_trans_mem hdiffers hformed fun x hx y z hxy hyz => ?_
      exact ih x hx (isFormed_list.1 hu x hx) hyz.1.1 hyz.1.2 hyz.2 hxy
  | dict ms ih =>
    obtain ⟨ns, rfl⟩ := exists_dict_of_not_differs hdiffers
    obtain ⟨os, rfl⟩ := exists_dict_of_matches h
    have hms := (isFormed_dict.1 hu).1
    have hns := (isFormed_dict.1 hv).1
    have hos := (isFormed_dict.1 hw).1
    rw [matches_dict_iff hns hos] at h
    rw [differs_dict_iff hms hns] at hdiffers
    rw [differs_dict_iff hms hos]
    intro s hs
    refine optionRel_trans (hdiffers s hs) (h s) fun x y z hx hy hz hxy hyz => ?_
    obtain ⟨k, hm, -⟩ := Members.exists_mem_of_getText? hx
    exact ih (k, x) hm (hu.getText? hx) (hv.getText? hy) (hw.getText? hz) hyz hxy

/-- The same values differ from matching values. -/
theorem differs_congr_right {O P Q : Value → Prop} {u : Value} (hu : u.IsFormed O)
    (hv : v.IsFormed P) (hw : w.IsFormed Q) (h : Matches Eq v w) :
    u.differs v = u.differs w := by
  have hsymm : Matches Eq w v := matches_symm (fun _ _ => Eq.symm) hv hw h
  cases huv : u.differs v with
  | false => rw [not_differs_congr_right hu hv hw h huv]
  | true =>
    cases huw : u.differs w with
    | true => rfl
    | false =>
      rw [not_differs_congr_right hu hw hv hsymm huw] at huv
      exact huv.symm

/-- A value whose parts are equal to themselves does not differ from what it matches. -/
theorem not_differs_of_matches (hv : v.IsFormed IsSelfEqual) (h : Matches Eq v w) :
    v.differs w = false := by
  induction v using structured_induction generalizing w with
  | leaf v hleaf =>
    obtain ⟨-, rfl⟩ := (matches_leaf hleaf).1 h
    exact ((isFormed_leaf hleaf).1 hv).not_differs
  | list xs ih =>
    obtain ⟨ys, rfl, hall⟩ := matches_list_iff.1 h
    rw [differs_list_list]
    split
    · next hbasic =>
      -- plain values match when they are equal, and each is equal to itself
      obtain rfl := (all_isBasic_of_matches hall).2 (Bool.and_eq_true _ _ ▸ hbasic).1
      rw [Bool.not_eq_false', sameAll_iff, List.forall₂_same]
      intro x hx
      have hleaf : x.isStructured = false := by
        have hx' := List.all_eq_true.1 (Bool.and_eq_true _ _ ▸ hbasic).1 x hx
        cases x <;> first | rfl | simp [isBasic] at hx'
      exact ((isFormed_leaf hleaf).1 (isFormed_list.1 hv x hx)).same
    · rw [itemsDiffer_eq_false_iff]
      exact forall₂_mono_mem hall fun x hx y _ hxy => ih x hx (isFormed_list.1 hv x hx) hxy
  | dict ms ih =>
    obtain ⟨ns, rfl⟩ := exists_dict_of_matches h
    rw [matches_dict_dict] at h
    rw [differs_dict_dict]
    refine ⟨fun m hm _ => ?_, fun n hn _ => h.2 n hn⟩
    obtain ⟨w, hw, hmatch⟩ := h.1 m hm
    exact ⟨w, hw, ih m hm ((isFormed_dict.1 hv).2 m hm) hmatch⟩

end

/-! ### Values whose plain form is equal to itself -/

/-- What consists of values that are equal to themselves holds no NaN. -/
lemma holdsNan_eq_false {v : Value} (h : v.IsFormed IsSelfEqual) : v.holdsNan = false := by
  induction v using structured_induction with
  | list xs ih =>
    have hall : anyHoldsNan xs = false := by
      rw [isFormed_list] at h
      induction xs with
      | nil => rfl
      | cons x xs ihs =>
        rw [anyHoldsNan, ih x (by simp) (h x (by simp)), Bool.false_or]
        exact ihs (fun y hy => ih y (List.mem_cons_of_mem x hy))
          fun y hy => h y (List.mem_cons_of_mem x hy)
    rw [holdsNan, hall]
  | dict ms _ => rfl
  | leaf v hleaf =>
    have hsame := ((isFormed_leaf hleaf).1 h).same
    cases v with
    | float x => cases x <;> first | rfl | exact absurd hsame (by decide)
    | complex x y =>
      cases x <;> cases y <;>
        simp_all [holdsNan, Binary.isNan, same, number?, sameNumber, RealValue.eq,
          RealValue.ofBinary]
    | _ => first | rfl | simp [isStructured] at hleaf

mutual
/-- A value does not differ from itself when its plain form consists of values that are equal to
themselves. -/
theorem not_differsFromItself :
    ∀ v : Value, v.normalize.IsFormed IsSelfEqual → v.differsFromItself = false
  | .scalar _ _, h => holdsNan_eq_false h
  | .array _ _, h => holdsNan_eq_false h
  | .tuple xs, h => not_anyDiffersFromItself xs fun x hx => by
    rw [normalize, isFormed_list, normalizeAll_eq_map] at h
    exact h _ (List.mem_map_of_mem hx)
  | .null, _ => rfl
  | .bool _, _ => rfl
  | .int _, _ => rfl
  | .float _, _ => rfl
  | .text _, _ => rfl
  | .list _, _ => rfl
  | .set _, _ => rfl
  | .dict _, _ => rfl
  | .complex .., _ => rfl
  | .decimal _, _ => rfl
  | .date _, _ => rfl
  | .moment _, _ => rfl
  | .time _, _ => rfl
  | .uuid _, _ => rfl
  | .bytes _, _ => rfl
  | .frame .., _ => rfl
  | .function .., _ => rfl
  | .callable _, _ => rfl
  | .class_ _, _ => rfl
  | .key _, _ => rfl
  | .cast _, _ => rfl
  | .documentType .., _ => rfl
  termination_by structural v => v
/-- The same for all of several values. -/
theorem not_anyDiffersFromItself :
    ∀ vs : List Value, (∀ v ∈ vs, v.normalize.IsFormed IsSelfEqual) →
      anyDiffersFromItself vs = false
  | [], _ => rfl
  | v :: vs, h => by
    rw [anyDiffersFromItself, not_differsFromItself v (h v (by simp)), Bool.false_or]
    exact not_anyDiffersFromItself vs fun w hw => h w (List.mem_cons_of_mem v hw)
  termination_by structural vs => vs
end

end Value

end DocumentSql

/-
JSON values, and the differences between them that a comparison hides.

JSON values are equal when their mappings have equal values under the same keys, their lists are
equal item by item, and numbers have the same value; a truth value is no number (`Value.JsonEq`).
The comparison of stored values hides two kinds of differences (`Value.HiddenDifference`): what
stands under private keys, and whether an item of a list is a truth value or the number that it
counts as.  It hides no others (`Value.jsonEq_or_hidden`).
-/
import DocumentSql.Proofs.Number.Rounding
import DocumentSql.Proofs.Value.Difference

namespace DocumentSql

namespace Value

mutual
/-- The value is one of JSON: nothing, a truth value, a finite number, a text, or a list or a
mapping of such values whose keys are texts. -/
def IsJson : Value → Prop
  | null => True
  | bool _ => True
  | int _ => True
  | float x => x.IsKept .double
  | text _ => True
  | list xs => AllJson xs
  | dict ms => Members.IsKeyed ms ∧ MembersJson ms
  | _ => False
  termination_by structural v => v
/-- All values are of JSON. -/
def AllJson : List Value → Prop
  | [] => True
  | v :: vs => v.IsJson ∧ AllJson vs
  termination_by structural vs => vs
/-- All keys are texts and all values are of JSON. -/
def MembersJson : List (Value × Value) → Prop
  | [] => True
  | (k, v) :: ms => (∃ s, k = text s) ∧ v.IsJson ∧ MembersJson ms
  termination_by structural ms => ms
end

/-- The value is a truth value. -/
def isBool : Value → Bool
  | bool _ => true
  | _ => false

/-- Values without parts are equal in JSON: both or none are truth values. -/
def JsonSame (v w : Value) : Prop := v.same w = true ∧ v.isBool = w.isBool

/-- Values are equal in JSON, where the order of members does not count. -/
def JsonEq : Value → Value → Prop := Matches JsonSame

instance : DecidableRel JsonSame := fun v w =>
  inferInstanceAs (Decidable (v.same w = true ∧ v.isBool = w.isBool))

instance : DecidableRel JsonEq := fun v w => inferInstanceAs (Decidable (Matches JsonSame v w))

/-- A difference of JSON values that the comparison of stored values does not see. -/
inductive HiddenDifference : Value → Value → Prop where
  /-- Under a private key stand values that are not equal, or a value in one mapping only. -/
  | underPrivate {ms ns : Members} (s : String) (hs : isPrivateName s = true)
      (h : ¬ Option.Rel JsonEq (Members.getText? ms s) (Members.getText? ns s)) :
      HiddenDifference (dict ms) (dict ns)
  /-- At one place of two lists of plain values stand a truth value and the number that it
  counts as. -/
  | confused {xs ys : List Value} {x y : Value} (hxs : xs.all isBasic = true)
      (hys : ys.all isBasic = true) (hxy : (x, y) ∈ xs.zip ys) (hsame : x.same y = true)
      (hbool : x.isBool ≠ y.isBool) : HiddenDifference (list xs) (list ys)
  /-- Under one key of two mappings stand values with a hidden difference. -/
  | underKey {ms ns : Members} {v w : Value} (s : String) (hv : Members.getText? ms s = some v)
      (hw : Members.getText? ns s = some w) (h : HiddenDifference v w) :
      HiddenDifference (dict ms) (dict ns)
  /-- At one place of two lists stand values with a hidden difference. -/
  | inItem {xs ys : List Value} {x y : Value} (hxy : (x, y) ∈ xs.zip ys)
      (h : HiddenDifference x y) : HiddenDifference (list xs) (list ys)

section

variable {v w : Value} {xs ys : List Value} {ms ns : Members}

@[simp] lemma isJson_list : (list xs).IsJson ↔ ∀ x ∈ xs, x.IsJson := by
  rw [IsJson]
  induction xs with
  | nil => simp [AllJson]
  | cons x xs ih => simp [AllJson, ih]

lemma membersJson_iff :
    MembersJson ms ↔ ∀ m ∈ ms, (∃ s, m.1 = text s) ∧ m.2.IsJson := by
  induction ms with
  | nil => simp [MembersJson]
  | cons m ms ih => rw [MembersJson, ih, List.forall_mem_cons, and_assoc]

@[simp] lemma isJson_dict : (dict ms).IsJson ↔
    ms.IsKeyed ∧ ∀ m ∈ ms, (∃ s, m.1 = text s) ∧ m.2.IsJson := by
  rw [IsJson, membersJson_iff]

/-- What stands under a key of a JSON mapping is a JSON value. -/
lemma IsJson.getText? (h : (dict ms).IsJson) {s : String} (hv : Members.getText? ms s = some v) :
    v.IsJson := by
  obtain ⟨k, hm, -⟩ := Members.exists_mem_of_getText? hv
  exact ((isJson_dict.1 h).2 (k, v) hm).2

/-- A JSON value is its own plain form. -/
lemma IsJson.normalize_eq (h : v.IsJson) : v.normalize = v := by
  cases v <;> first | rfl | simp [IsJson] at h

lemma isSelfEqual_float {x : Binary} (h : x.IsKept .double) : IsSelfEqual (float x) := by
  have hsame : (float x).same (float x) = true := by
    cases x <;> simp_all [same, number?, sameNumber, RealValue.ofBinary, RealValue.eq,
      Binary.ratio?, Binary.IsKept]
  exact ⟨hsame, by simp [differs, hsame]⟩

/-- A JSON value is equal to itself. -/
lemma IsJson.isFormed (h : v.IsJson) : v.IsFormed IsSelfEqual := by
  induction v using structured_induction with
  | list xs ih => exact isFormed_list.2 fun x hx => ih x hx (isJson_list.1 h x hx)
  | dict ms ih =>
    obtain ⟨hms, h⟩ := isJson_dict.1 h
    exact isFormed_dict.2 ⟨hms, fun m hm => ih m hm (h m hm).2⟩
  | leaf v hleaf =>
    rw [isFormed_leaf hleaf]
    cases v with
    | null => exact ⟨rfl, rfl⟩
    | bool b => exact ⟨by simp [same, number?, sameNumber, RealValue.eq],
        by simp [differs, same, number?, sameNumber, RealValue.eq]⟩
    | int n => exact ⟨by simp [same, number?, sameNumber, RealValue.eq],
        by simp [differs, same, number?, sameNumber, RealValue.eq]⟩
    | float x => exact isSelfEqual_float h
    | text s => exact ⟨by simp [asText?], by simp [differs, asText?]⟩
    | _ => first | (simp [isStructured] at hleaf; done) | simp [IsJson] at h

lemma jsonEq_refl (h : v.IsJson) : JsonEq v v :=
  matches_refl (fun _ h => ⟨h.same, rfl⟩) h.isFormed

lemma isStructured_of_isBasic (h : v.isBasic = true) : v.isStructured = false := by
  cases v <;> first | rfl | simp [isBasic] at h

/-- A hidden difference is a difference. -/
theorem not_jsonEq_of_hidden (h : HiddenDifference v w) (hv : v.IsJson) (hw : w.IsJson) :
    ¬ JsonEq v w := by
  induction h with
  | @underPrivate ms ns s hs hne =>
    intro heq
    exact hne ((matches_dict_iff (isJson_dict.1 hv).1 (isJson_dict.1 hw).1).1 heq s)
  | @confused xs ys x y hxs hys hxy hsame hbool =>
    intro heq
    have hmatch := List.forall₂_zip (matches_list_list.1 heq) hxy
    have hbasic := List.all_eq_true.1 hxs x (List.of_mem_zip hxy).1
    exact hbool ((matches_leaf (isStructured_of_isBasic hbasic)).1 hmatch).2.2
  | @underKey ms ns v w s hms hns _ ih =>
    intro heq
    have hrel := (matches_dict_iff (isJson_dict.1 hv).1 (isJson_dict.1 hw).1).1 heq s
    rw [hms, hns, Option.rel_some_some] at hrel
    exact ih (hv.getText? hms) (hw.getText? hns) hrel
  | @inItem xs ys x y hxy _ ih =>
    intro heq
    obtain ⟨hx, hy⟩ := List.of_mem_zip hxy
    exact ih (isJson_list.1 hv x hx) (isJson_list.1 hw y hy)
      (List.forall₂_zip (matches_list_list.1 heq) hxy)

/-- Two lists that are related at each place where a relation holds of all pairs. -/
lemma forall₂_or_exists {α : Type} {S T : α → α → Prop} {xs ys : List α}
    (h : List.Forall₂ S xs ys) :
    List.Forall₂ T xs ys ∨ ∃ x y, (x, y) ∈ xs.zip ys ∧ S x y ∧ ¬ T x y := by
  induction h with
  | nil => exact Or.inl List.Forall₂.nil
  | @cons x y xs ys hxy _ ih =>
    by_cases hT : T x y
    · rcases ih with hall | ⟨a, b, hab, hS, hnot⟩
      · exact Or.inl (List.Forall₂.cons hT hall)
      · exact Or.inr ⟨a, b, List.mem_cons_of_mem _ hab, hS, hnot⟩
    · exact Or.inr ⟨x, y, by simp, hxy, hT⟩

/-- JSON values that do not differ are equal, or their difference is hidden. -/
theorem jsonEq_or_hidden (hv : v.IsJson) (hw : w.IsJson) (h : v.differs w = false) :
    JsonEq v w ∨ HiddenDifference v w := by
  induction v using structured_induction generalizing w with
  | leaf v hleaf =>
    have hleaf' := isStructured_of_not_differs hleaf h
    refine Or.inl ((matches_leaf hleaf).2 ⟨hleaf', ?_⟩)
    -- plain values that do not differ are of one class, so both or none are truth values
    cases v <;> first
      | (simp [isStructured] at hleaf; done)
      | (simp [IsJson] at hv; done)
      | (cases w <;> first
          | (simp [isStructured] at hleaf'; done)
          | (simp [IsJson] at hw; done)
          | (simp [differs, className] at h; done)
          | exact ⟨by simpa [differs, className] using h, rfl⟩)
  | list xs ih =>
    obtain ⟨ys, rfl⟩ := exists_list_of_not_differs h
    rw [differs_list_list] at h
    split at h
    · next hbasic =>
      obtain ⟨hxs, hys⟩ := Bool.and_eq_true _ _ ▸ hbasic
      rw [Bool.not_eq_false', sameAll_iff] at h
      rcases forall₂_or_exists (T := JsonEq) h with hall | ⟨x, y, hxy, hsame, hne⟩
      · exact Or.inl (matches_list_list.2 hall)
      · right
        refine HiddenDifference.confused hxs hys hxy hsame fun hbool => hne ?_
        have hx := List.all_eq_true.1 hxs x (List.of_mem_zip hxy).1
        have hy := List.all_eq_true.1 hys y (List.of_mem_zip hxy).2
        exact (matches_leaf (isStructured_of_isBasic hx)).2
          ⟨isStructured_of_isBasic hy, hsame, hbool⟩
    · rw [itemsDiffer_eq_false_iff] at h
      rcases forall₂_or_exists (T := JsonEq) h with hall | ⟨x, y, hxy, hsame, hne⟩
      · exact Or.inl (matches_list_list.2 hall)
      · obtain ⟨hx, hy⟩ := List.of_mem_zip hxy
        have hcase := ih x hx (isJson_list.1 hv x hx) (isJson_list.1 hw y hy) hsame
        exact Or.inr (HiddenDifference.inItem hxy (hcase.resolve_left hne))
  | dict ms ih =>
    obtain ⟨ns, rfl⟩ := exists_dict_of_not_differs h
    have hms := (isJson_dict.1 hv).1
    have hns := (isJson_dict.1 hw).1
    rw [differs_dict_iff hms hns] at h
    by_cases hall : ∀ s, Option.Rel JsonEq (Members.getText? ms s) (Members.getText? ns s)
    · exact Or.inl ((matches_dict_iff hms hns).2 hall)
    · right
      obtain ⟨s, hne⟩ := not_forall.1 hall
      cases hs : isPrivateName s with
      | true => exact HiddenDifference.underPrivate s hs hne
      | false =>
        rcases optionRel_cases (h s hs) with ⟨hx, hy⟩ | ⟨x, y, hx, hy, hxy⟩
        · rw [hx, hy] at hne
          exact absurd Option.Rel.none hne
        · rw [hx, hy, Option.rel_some_some] at hne
          obtain ⟨k, hm, -⟩ := Members.exists_mem_of_getText? hx
          have hcase := ih (k, x) hm (hv.getText? hx) (hw.getText? hy) hxy
          exact HiddenDifference.underKey s hx hy (hcase.resolve_left hne)

end

end Value

end DocumentSql

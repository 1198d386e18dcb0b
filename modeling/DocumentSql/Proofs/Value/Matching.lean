/-
Values up to the order of members.

Mappings are compared under their text keys, lists element by element, and what has no parts by a
given relation (`Value.Matches`).  Mappings whose keys are texts, no two of them the same, match
when they have matching values under every key (`Value.matches_dict_iff`).  Whether two values
differ is told in the same terms (`Value.differs_dict_iff`), so it does not depend on the order
of members.
-/
import DocumentSql.Proofs.Value.Members
import DocumentSql.Value.Difference

namespace DocumentSql

/-! ### Mappings with text keys -/

namespace Members

/-- The keys are texts, and no two of them are the same. -/
def IsKeyed (ms : Members) : Prop :=
  (∀ m ∈ ms, m.1.asText?.isSome) ∧ (ms.map (·.1.asText?)).Nodup

lemma isKeyed_nil : IsKeyed [] := ⟨by simp, by simp⟩

lemma get?_of_asText {k : Value} {s : String} (h : k.asText? = some s) (ms : Members) :
    get? ms k = getText? ms s := by
  unfold getText? get?
  congr 2
  funext m
  rw [Value.same_of_asText?_right h, Value.same_of_asText?_right rfl]

lemma exists_mem_of_getText? {ms : Members} {s : String} {v : Value}
    (h : getText? ms s = some v) : ∃ k, (k, v) ∈ ms ∧ k.asText? = some s := by
  obtain ⟨⟨k, w⟩, hm, rfl⟩ := Option.map_eq_some_iff.1 h
  have hkey := List.find?_some hm
  exact ⟨k, List.mem_of_find?_eq_some hm, by simpa using hkey⟩

/-- No text stands twice as a key. -/
def HasTextsOnce (ms : Members) : Prop :=
  ms.Pairwise fun m n => ∀ s, m.1.asText? = some s → n.1.asText? ≠ some s

lemma HasTextsOnce.getText?_tail_eq_none {m : Value × Value} {ms : Members}
    (h : HasTextsOnce (m :: ms)) {s : String} (hm : m.1.asText? = some s) :
    getText? ms s = none := by
  by_contra hne
  obtain ⟨v, hv⟩ := Option.ne_none_iff_exists'.1 hne
  obtain ⟨k, hk, hs⟩ := exists_mem_of_getText? hv
  exact (List.pairwise_cons.1 h).1 (k, v) hk s hm hs

/-- Of two mappings that are merged, the later one counts where it has a value under a text key. -/
lemma getText?_merge_of_hasTextsOnce (ms : Members) {extra : Members} (h : extra.HasTextsOnce)
    (s : String) : getText? (merge ms extra) s = (getText? extra s).or (getText? ms s) := by
  rw [getText?_merge]
  generalize getText? ms s = found
  induction extra generalizing found with
  | nil => rfl
  | cons m extra ih =>
    rw [List.foldl_cons, ih (List.pairwise_cons.1 h).2, getText?_cons]
    by_cases hm : m.1.asText? = some s
    · simp [hm, h.getText?_tail_eq_none hm]
    · simp [hm]

namespace IsKeyed

variable {ms : Members}

lemma hasTextsOnce (h : ms.IsKeyed) : ms.HasTextsOnce :=
  (List.pairwise_map.1 h.2).imp fun hne _ hm hn => hne (hm.trans hn.symm)

lemma tail {m : Value × Value} (h : IsKeyed (m :: ms)) : IsKeyed ms :=
  ⟨fun n hn => h.1 n (List.mem_cons_of_mem m hn), (List.nodup_cons.1 h.2).2⟩

/-- A mapping with text keys has nothing under other keys. -/
lemma get?_eq (h : ms.IsKeyed) (k : Value) : get? ms k = k.asText?.bind (getText? ms) := by
  cases hk : k.asText? with
  | some s => exact get?_of_asText hk ms
  | none =>
    rw [Option.bind_none, get?, Option.map_eq_none_iff, List.find?_eq_none]
    intro m hm
    obtain ⟨s, hs⟩ := Option.isSome_iff_exists.1 (h.1 m hm)
    simp [Value.same_of_asText? hs, hk]

/-- Every member is found under its key. -/
lemma getText?_of_mem (h : ms.IsKeyed) {k v : Value} {s : String} (hm : (k, v) ∈ ms)
    (hk : k.asText? = some s) : getText? ms s = some v := by
  induction ms with
  | nil => simp at hm
  | cons n ms ih =>
    rw [getText?_cons]
    rcases List.mem_cons.1 hm with rfl | hm
    · rw [if_pos hk]
    · have hne : n.1.asText? ≠ some s := by
        intro heq
        refine (List.nodup_cons.1 h.2).1 (List.mem_map.2 ⟨(k, v), hm, ?_⟩)
        exact hk.trans heq.symm
      rw [if_neg hne, ih h.tail hm]

lemma getText?_tail_eq_none {m : Value × Value} (h : IsKeyed (m :: ms)) {s : String}
    (hm : m.1.asText? = some s) : getText? ms s = none :=
  h.hasTextsOnce.getText?_tail_eq_none hm

end IsKeyed

lemma getText?_merge_of_isKeyed (ms : Members) {extra : Members} (h : extra.IsKeyed)
    (s : String) : getText? (merge ms extra) s = (getText? extra s).or (getText? ms s) :=
  getText?_merge_of_hasTextsOnce ms h.hasTextsOnce s

lemma map_asText?_insert {k : Value} {s : String} (hk : k.asText? = some s) (v : Value)
    (ms : Members) : (insert k v ms).map (·.1.asText?) =
      if some s ∈ ms.map (·.1.asText?) then ms.map (·.1.asText?)
      else ms.map (·.1.asText?) ++ [some s] := by
  induction ms with
  | nil => simp [insert, hk]
  | cons m ms ih =>
    rw [insert]
    split
    · next hm =>
      have hm : m.1.asText? = some s := by simpa [Value.same_of_asText?_right hk] using hm
      simp [hm]
    · next hm =>
      have hm : ¬ some s = m.1.asText? := by
        intro heq
        simp [Value.same_of_asText?_right hk, ← heq] at hm
      rw [List.map_cons, ih]
      simp only [List.map_cons, List.mem_cons, hm, false_or, List.cons_append]
      split <;> rfl

lemma isKeyed_insert {ms : Members} (h : ms.IsKeyed) {k : Value} (hk : k.asText?.isSome)
    (v : Value) : (insert k v ms).IsKeyed := by
  obtain ⟨s, hs⟩ := Option.isSome_iff_exists.1 hk
  have hkeys := map_asText?_insert hs v ms
  constructor
  · intro m hm
    have hmem : m.1.asText? ∈ (insert k v ms).map (·.1.asText?) :=
      List.mem_map.2 ⟨m, hm, rfl⟩
    have hall : ∀ o ∈ ms.map (·.1.asText?), o.isSome := by
      intro o ho
      obtain ⟨n, hn, rfl⟩ := List.mem_map.1 ho
      exact h.1 n hn
    rw [hkeys] at hmem
    split at hmem
    · exact hall _ hmem
    · rcases List.mem_append.1 hmem with hmem | hmem
      · exact hall _ hmem
      · simp [List.mem_singleton.1 hmem]
  · rw [hkeys]
    split
    · exact h.2
    · next hnot =>
      refine List.nodup_append.2 ⟨h.2, by simp, ?_⟩
      rintro o ho o' ho' rfl
      rw [List.mem_singleton.1 ho'] at ho
      exact hnot ho

lemma isKeyed_merge {ms extra : Members} (h : ms.IsKeyed)
    (hextra : ∀ m ∈ extra, m.1.asText?.isSome) : (merge ms extra).IsKeyed := by
  induction extra generalizing ms with
  | nil => exact h
  | cons m extra ih =>
    exact ih (isKeyed_insert h (hextra m (by simp)) m.2)
      fun n hn => hextra n (List.mem_cons_of_mem m hn)

end Members

namespace Value

/-! ### Induction over lists and mappings -/

mutual
/-- What holds of values without parts, of a list when it holds of its elements, and of a
mapping when it holds of the values of its members, holds of every value. -/
theorem structured_induction {motive : Value → Prop}
    (list : ∀ xs, (∀ x ∈ xs, motive x) → motive (.list xs))
    (dict : ∀ ms, (∀ m ∈ ms, motive m.2) → motive (.dict ms))
    (leaf : ∀ v, v.isStructured = false → motive v) : ∀ v, motive v
  | .list xs => list xs (structured_induction_items list dict leaf xs)
  | .dict ms => dict ms (structured_induction_members list dict leaf ms)
  | .null => leaf _ rfl
  | .bool _ => leaf _ rfl
  | .int _ => leaf _ rfl
  | .float _ => leaf _ rfl
  | .text _ => leaf _ rfl
  | .tuple _ => leaf _ rfl
  | .set _ => leaf _ rfl
  | .complex .. => leaf _ rfl
  | .decimal _ => leaf _ rfl
  | .date _ => leaf _ rfl
  | .moment _ => leaf _ rfl
  | .time _ => leaf _ rfl
  | .uuid _ => leaf _ rfl
  | .bytes _ => leaf _ rfl
  | .scalar .. => leaf _ rfl
  | .array .. => leaf _ rfl
  | .frame .. => leaf _ rfl
  | .function .. => leaf _ rfl
  | .callable _ => leaf _ rfl
  | .class_ _ => leaf _ rfl
  | .key _ => leaf _ rfl
  | .cast _ => leaf _ rfl
  | .documentType .. => leaf _ rfl
  termination_by structural v => v
/-- The same for the elements of a list. -/
theorem structured_induction_items {motive : Value → Prop}
    (list : ∀ xs, (∀ x ∈ xs, motive x) → motive (.list xs))
    (dict : ∀ ms, (∀ m ∈ ms, motive m.2) → motive (.dict ms))
    (leaf : ∀ v, v.isStructured = false → motive v) : ∀ xs : List Value, ∀ x ∈ xs, motive x
  | [] => by simp
  | x :: xs => List.forall_mem_cons.2
    ⟨structured_induction list dict leaf x, structured_induction_items list dict leaf xs⟩
  termination_by structural xs => xs
/-- The same for the members of a mapping. -/
theorem structured_induction_members {motive : Value → Prop}
    (list : ∀ xs, (∀ x ∈ xs, motive x) → motive (.list xs))
    (dict : ∀ ms, (∀ m ∈ ms, motive m.2) → motive (.dict ms))
    (leaf : ∀ v, v.isStructured = false → motive v) :
    ∀ ms : List (Value × Value), ∀ m ∈ ms, motive m.2
  | [] => by simp
  | (_, v) :: ms => List.forall_mem_cons.2
    ⟨structured_induction list dict leaf v, structured_induction_members list dict leaf ms⟩
  termination_by structural ms => ms
end

/-! ### Parts of values -/

mutual
/-- Every mapping in the value has text keys, and whatever in it has no parts has a property. -/
def IsFormed (P : Value → Prop) : Value → Prop
  | list xs => AllFormed P xs
  | dict ms => Members.IsKeyed ms ∧ MembersFormed P ms
  | v => P v
  termination_by structural v => v
/-- All values are formed. -/
def AllFormed (P : Value → Prop) : List Value → Prop
  | [] => True
  | v :: vs => v.IsFormed P ∧ AllFormed P vs
  termination_by structural vs => vs
/-- The values of all members are formed. -/
def MembersFormed (P : Value → Prop) : List (Value × Value) → Prop
  | [] => True
  | (_, v) :: ms => v.IsFormed P ∧ MembersFormed P ms
  termination_by structural ms => ms
end

@[simp] lemma isFormed_list {P : Value → Prop} {xs : List Value} :
    (list xs).IsFormed P ↔ ∀ x ∈ xs, x.IsFormed P := by
  rw [IsFormed]
  induction xs with
  | nil => simp [AllFormed]
  | cons x xs ih => simp [AllFormed, ih]

mutual
/-- The values match: mappings under their keys, lists element by element, and what has no parts
by the relation. -/
def Matches (R : Value → Value → Prop) : Value → Value → Prop
  | list xs, list ys => ItemsMatch R xs ys
  | dict ms, dict ns => MembersMatch R ms ns ∧ ∀ n ∈ ns, (Members.get? ms n.1).isSome
  | v, w => v.isStructured = false ∧ w.isStructured = false ∧ R v w
  termination_by structural v => v
/-- Two lists match element by element. -/
def ItemsMatch (R : Value → Value → Prop) : List Value → List Value → Prop
  | [], [] => True
  | v :: vs, w :: ws => Matches R v w ∧ ItemsMatch R vs ws
  | _, _ => False
  termination_by structural vs => vs
/-- Every member has a matching value under its key. -/
def MembersMatch (R : Value → Value → Prop) :
    List (Value × Value) → List (Value × Value) → Prop
  | [], _ => True
  | (k, v) :: ms, ns =>
    (match Members.get? ns k with
      | some w => Matches R v w
      | none => False) ∧ MembersMatch R ms ns
  termination_by structural ms => ms
end

@[simp] lemma matches_list_list {R : Value → Value → Prop} {xs ys : List Value} :
    Matches R (list xs) (list ys) ↔ List.Forall₂ (Matches R) xs ys := by
  rw [Matches]
  induction xs generalizing ys with
  | nil => cases ys <;> simp [ItemsMatch]
  | cons x xs ih => cases ys <;> simp [ItemsMatch, ih]

mutual
/-- `Matches` for a relation that is decided. -/
def matchesBy (r : Value → Value → Bool) : Value → Value → Bool
  | list xs, list ys => itemsMatchBy r xs ys
  | dict ms, dict ns => membersMatchBy r ms ns && ns.all fun n => (Members.get? ms n.1).isSome
  | v, w => !v.isStructured && !w.isStructured && r v w
  termination_by structural v => v
/-- `ItemsMatch` for a relation that is decided. -/
def itemsMatchBy (r : Value → Value → Bool) : List Value → List Value → Bool
  | [], [] => true
  | v :: vs, w :: ws => matchesBy r v w && itemsMatchBy r vs ws
  | _, _ => false
  termination_by structural vs => vs
/-- `MembersMatch` for a relation that is decided. -/
def membersMatchBy (r : Value → Value → Bool) :
    List (Value × Value) → List (Value × Value) → Bool
  | [], _ => true
  | (k, v) :: ms, ns =>
    (match Members.get? ns k with
      | some w => matchesBy r v w
      | none => false) && membersMatchBy r ms ns
  termination_by structural ms => ms
end

section

variable {P : Value → Prop} {R : Value → Value → Prop} {v w : Value} {xs ys : List Value}
  {ms ns : Members}

lemma membersFormed_iff : MembersFormed P ms ↔ ∀ m ∈ ms, m.2.IsFormed P := by
  induction ms with
  | nil => simp [MembersFormed]
  | cons m ms ih => rw [MembersFormed, ih, List.forall_mem_cons]

@[simp] lemma isFormed_dict :
    (dict ms).IsFormed P ↔ ms.IsKeyed ∧ ∀ m ∈ ms, m.2.IsFormed P := by
  rw [IsFormed, membersFormed_iff]

lemma isFormed_leaf (h : v.isStructured = false) : v.IsFormed P ↔ P v := by
  cases v <;> first | rfl | simp [isStructured] at h

@[simp] lemma isFormed_text (s : String) : (text s).IsFormed P ↔ P (text s) :=
  isFormed_leaf rfl

@[simp] lemma isFormed_int (n : Int) : (int n).IsFormed P ↔ P (int n) := isFormed_leaf rfl

/-- What stands under a key of a formed mapping is formed. -/
lemma IsFormed.getText? (h : (dict ms).IsFormed P) {s : String}
    (hv : Members.getText? ms s = some v) : v.IsFormed P := by
  obtain ⟨k, hm, -⟩ := Members.exists_mem_of_getText? hv
  exact (isFormed_dict.1 h).2 (k, v) hm

/-- A mapping with text keys is formed when what stands under its keys is. -/
lemma isFormed_dict_of_getText? (hms : ms.IsKeyed)
    (h : ∀ s v, Members.getText? ms s = some v → v.IsFormed P) : (dict ms).IsFormed P := by
  refine isFormed_dict.2 ⟨hms, fun m hm => ?_⟩
  obtain ⟨s, hs⟩ := Option.isSome_iff_exists.1 (hms.1 m hm)
  exact h s m.2 (hms.getText?_of_mem hm hs)

lemma IsFormed.mono {Q : Value → Prop} (h : v.IsFormed P) (hPQ : ∀ v, P v → Q v) :
    v.IsFormed Q := by
  induction v using structured_induction with
  | list xs ih => exact isFormed_list.2 fun x hx => ih x hx (isFormed_list.1 h x hx)
  | dict ms ih =>
    obtain ⟨hms, h⟩ := isFormed_dict.1 h
    exact isFormed_dict.2 ⟨hms, fun m hm => ih m hm (h m hm)⟩
  | leaf v hleaf => exact (isFormed_leaf hleaf).2 (hPQ v ((isFormed_leaf hleaf).1 h))

lemma matches_list_iff : Matches R (list xs) w ↔
    ∃ ys, w = list ys ∧ List.Forall₂ (Matches R) xs ys := by
  constructor
  · intro h
    cases w with
    | list ys => exact ⟨ys, rfl, matches_list_list.1 h⟩
    | _ => simp [Matches, isStructured] at h
  · rintro ⟨ys, rfl, h⟩
    exact matches_list_list.2 h

lemma membersMatch_iff : MembersMatch R ms ns ↔
    ∀ m ∈ ms, ∃ w, Members.get? ns m.1 = some w ∧ Matches R m.2 w := by
  induction ms with
  | nil => simp [MembersMatch]
  | cons m ms ih =>
    obtain ⟨k, v⟩ := m
    rw [MembersMatch, ih, List.forall_mem_cons]
    refine and_congr_left fun _ => ?_
    cases Members.get? ns k <;> simp

lemma matches_dict_dict : Matches R (dict ms) (dict ns) ↔
    (∀ m ∈ ms, ∃ w, Members.get? ns m.1 = some w ∧ Matches R m.2 w) ∧
      ∀ n ∈ ns, (Members.get? ms n.1).isSome := by
  rw [Matches, membersMatch_iff]

lemma exists_dict_of_matches (h : Matches R (dict ms) w) : ∃ ns, w = dict ns := by
  cases w with
  | dict ns => exact ⟨ns, rfl⟩
  | _ => simp [Matches, isStructured] at h

lemma matches_leaf (h : v.isStructured = false) :
    Matches R v w ↔ w.isStructured = false ∧ R v w := by
  cases v <;> first | (simp [isStructured] at h; done) | simp [Matches, isStructured]

/-- Whether values match is decided with the relation. -/
lemma matchesBy_iff {r : Value → Value → Bool} (hr : ∀ v w, r v w = true ↔ R v w) :
    matchesBy r v w = true ↔ Matches R v w := by
  induction v using structured_induction generalizing w with
  | list xs ih =>
    cases w with
    | list ys =>
      rw [matchesBy, matches_list_list]
      induction xs generalizing ys with
      | nil => cases ys <;> simp [itemsMatchBy]
      | cons x xs ihxs =>
        cases ys with
        | nil => simp [itemsMatchBy]
        | cons y ys =>
          rw [itemsMatchBy, Bool.and_eq_true, List.forall₂_cons, ih x (by simp),
            ihxs fun x' hx' => ih x' (by simp [hx'])]
    | _ => simp [matchesBy, Matches, isStructured]
  | dict ms ih =>
    cases w with
    | dict ns =>
      have hmembers : membersMatchBy r ms ns = true ↔ MembersMatch R ms ns := by
        induction ms with
        | nil => simp [membersMatchBy, MembersMatch]
        | cons m ms ihms =>
          obtain ⟨k, v⟩ := m
          rw [membersMatchBy, MembersMatch, Bool.and_eq_true,
            ihms fun m' hm' => ih m' (by simp [hm'])]
          refine and_congr_left fun _ => ?_
          cases Members.get? ns k with
          | none => simp
          | some w => exact ih (k, v) (by simp)
      rw [matchesBy, Matches, Bool.and_eq_true, List.all_eq_true, hmembers]
    | _ => simp [matchesBy, Matches, isStructured]
  | leaf v hleaf =>
    rw [matches_leaf hleaf, ← hr v w]
    cases v <;> first
      | (simp [isStructured] at hleaf; done)
      | simp [matchesBy, isStructured]

instance [DecidableRel R] (v w : Value) : Decidable (Matches R v w) :=
  decidable_of_iff _ (matchesBy_iff (r := fun v w => decide (R v w)) fun _ _ => decide_eq_true_iff)

/-- Mappings with text keys match when they have matching values under every key. -/
theorem matches_dict_iff (hms : ms.IsKeyed) (hns : ns.IsKeyed) :
    Matches R (dict ms) (dict ns) ↔
      ∀ s, Option.Rel (Matches R) (Members.getText? ms s) (Members.getText? ns s) := by
  rw [matches_dict_dict]
  constructor
  · rintro ⟨hleft, hright⟩ s
    cases hv : Members.getText? ms s with
    | some v =>
      obtain ⟨k, hm, hk⟩ := Members.exists_mem_of_getText? hv
      obtain ⟨w, hw, hmatch⟩ := hleft (k, v) hm
      rw [← Members.get?_of_asText hk ns, hw]
      exact Option.Rel.some hmatch
    | none =>
      cases hw : Members.getText? ns s with
      | none => exact Option.Rel.none
      | some w =>
        obtain ⟨k, hn, hk⟩ := Members.exists_mem_of_getText? hw
        have hsome := hright (k, w) hn
        rw [Members.get?_of_asText hk, hv] at hsome
        simp at hsome
  · intro h
    constructor
    · rintro ⟨k, v⟩ hm
      obtain ⟨s, hs⟩ := Option.isSome_iff_exists.1 (hms.1 (k, v) hm)
      have hrel := h s
      rw [hms.getText?_of_mem hm hs] at hrel
      rw [Members.get?_of_asText hs]
      cases hw : Members.getText? ns s with
      | none => simp [hw] at hrel
      | some w => exact ⟨w, rfl, by simpa [hw] using hrel⟩
    · rintro ⟨k, w⟩ hn
      obtain ⟨s, hs⟩ := Option.isSome_iff_exists.1 (hns.1 (k, w) hn)
      have hrel := h s
      rw [hns.getText?_of_mem hn hs] at hrel
      rw [Members.get?_of_asText hs]
      cases hv : Members.getText? ms s with
      | none => simp [hv] at hrel
      | some v => rfl

/-- A formed value matches itself. -/
lemma matches_refl (hR : ∀ v, P v → R v v) (hv : v.IsFormed P) : Matches R v v := by
  induction v using structured_induction with
  | list xs ih =>
    rw [matches_list_list, List.forall₂_same]
    exact fun x hx => ih x hx (isFormed_list.1 hv x hx)
  | dict ms ih =>
    rw [matches_dict_iff (isFormed_dict.1 hv).1 (isFormed_dict.1 hv).1]
    intro s
    cases hs : Members.getText? ms s with
    | none => exact Option.Rel.none
    | some w =>
      obtain ⟨k, hm, -⟩ := Members.exists_mem_of_getText? hs
      exact Option.Rel.some (ih (k, w) hm ((isFormed_dict.1 hv).2 (k, w) hm))
  | leaf v h => exact (matches_leaf h).2 ⟨h, hR v ((isFormed_leaf h).1 hv)⟩

lemma forall₂_mono_mem {α β : Type} {S T : α → β → Prop} {xs : List α} {ys : List β}
    (h : List.Forall₂ S xs ys) (hST : ∀ x ∈ xs, ∀ y ∈ ys, S x y → T x y) :
    List.Forall₂ T xs ys := by
  induction h with
  | nil => exact List.Forall₂.nil
  | @cons x y xs ys hxy _ ih =>
    refine List.Forall₂.cons (hST x (by simp) y (by simp) hxy) (ih fun a ha b hb => ?_)
    exact hST a (List.mem_cons_of_mem x ha) b (List.mem_cons_of_mem y hb)

lemma optionRel_symm {α : Type} {S T : α → α → Prop} {x y : Option α} (hxy : Option.Rel S x y)
    (hT : ∀ a b, x = some a → y = some b → S a b → T b a) : Option.Rel T y x := by
  cases hxy with
  | none => exact Option.Rel.none
  | some hab => exact Option.Rel.some (hT _ _ rfl rfl hab)

lemma optionRel_trans {α : Type} {S T U : α → α → Prop} {x y z : Option α}
    (hxy : Option.Rel S x y) (hyz : Option.Rel T y z)
    (hU : ∀ a b c, x = some a → y = some b → z = some c → S a b → T b c → U a c) :
    Option.Rel U x z := by
  cases hxy with
  | none =>
    cases hyz
    exact Option.Rel.none
  | some hab =>
    cases hyz with
    | some hbc => exact Option.Rel.some (hU _ _ _ rfl rfl rfl hab hbc)

lemma matches_symm {Q : Value → Prop} (hR : ∀ v w, R v w → R w v) (hv : v.IsFormed P)
    (hw : w.IsFormed Q) (h : Matches R v w) : Matches R w v := by
  induction v using structured_induction generalizing w with
  | list xs ih =>
    obtain ⟨ys, rfl, hall⟩ := matches_list_iff.1 h
    rw [matches_list_list]
    refine List.Forall₂.flip (forall₂_mono_mem hall fun x hx y hy hxy => ?_)
    exact ih x hx (isFormed_list.1 hv x hx) (isFormed_list.1 hw y hy) hxy
  | dict ms ih =>
    obtain ⟨ns, rfl⟩ := exists_dict_of_matches h
    have hms := (isFormed_dict.1 hv).1
    have hns := (isFormed_dict.1 hw).1
    rw [matches_dict_iff hms hns] at h
    rw [matches_dict_iff hns hms]
    intro s
    refine optionRel_symm (h s) fun x y hx hy hxy => ?_
    obtain ⟨k, hm, -⟩ := Members.exists_mem_of_getText? hx
    exact ih (k, x) hm (hv.getText? hx) (hw.getText? hy) hxy
  | leaf v hleaf =>
    obtain ⟨hleaf', hvw⟩ := (matches_leaf hleaf).1 h
    exact (matches_leaf hleaf').2 ⟨hleaf, hR v w hvw⟩

lemma forall₂_trans_mem {α : Type} {S T U : α → α → Prop} {xs ys zs : List α}
    (hxy : List.Forall₂ S xs ys) (hyz : List.Forall₂ T ys zs)
    (hU : ∀ x ∈ xs, ∀ y z, S x y → T y z → U x z) : List.Forall₂ U xs zs := by
  induction hxy generalizing zs with
  | nil =>
    cases hyz
    exact List.Forall₂.nil
  | @cons x y xs ys hx _ ih =>
    cases hyz with
    | cons hz hrest =>
      refine List.Forall₂.cons (hU x (by simp) y _ hx hz) (ih hrest fun a ha b c => ?_)
      exact hU a (List.mem_cons_of_mem x ha) b c

lemma matches_trans {Q : Value → Prop} {u : Value} (hR : ∀ u v w, R u v → R v w → R u w)
    (hu : u.IsFormed P) (hv : v.IsFormed Q) (hw : w.IsFormed Q) (huv : Matches R u v)
    (hvw : Matches R v w) : Matches R u w := by
  induction u using structured_induction generalizing v w with
  | list xs ih =>
    obtain ⟨ys, rfl, hxy⟩ := matches_list_iff.1 huv
    obtain ⟨zs, rfl, hyz⟩ := matches_list_iff.1 hvw
    have hall : List.Forall₂ (fun y z => (y.IsFormed Q ∧ z.IsFormed Q) ∧ Matches R y z) ys zs :=
      forall₂_mono_mem hyz fun y hy z hz h =>
        ⟨⟨isFormed_list.1 hv y hy, isFormed_list.1 hw z hz⟩, h⟩
    refine matches_list_list.2 (forall₂_trans_mem hxy hall fun x hx y z hxy hyz => ?_)
    exact ih x hx (isFormed_list.1 hu x hx) hyz.1.1 hyz.1.2 hxy hyz.2
  | dict ms ih =>
    obtain ⟨ns, rfl⟩ := exists_dict_of_matches huv
    obtain ⟨os, rfl⟩ := exists_dict_of_matches hvw
    have hms := (isFormed_dict.1 hu).1
    have hns := (isFormed_dict.1 hv).1
    have hos := (isFormed_dict.1 hw).1
    rw [matches_dict_iff hms hns] at huv
    rw [matches_dict_iff hns hos] at hvw
    rw [matches_dict_iff hms hos]
    intro s
    refine optionRel_trans (huv s) (hvw s) fun x y z hx hy hz hxy hyz => ?_
    obtain ⟨k, hm, -⟩ := Members.exists_mem_of_getText? hx
    exact ih (k, x) hm (hu.getText? hx) (hv.getText? hy) (hw.getText? hz) hxy hyz
  | leaf u hleaf =>
    obtain ⟨hleaf', huv⟩ := (matches_leaf hleaf).1 huv
    obtain ⟨hleaf'', hvw⟩ := (matches_leaf hleaf').1 hvw
    exact (matches_leaf hleaf).2 ⟨hleaf'', hR u v w huv hvw⟩

end

end Value

end DocumentSql

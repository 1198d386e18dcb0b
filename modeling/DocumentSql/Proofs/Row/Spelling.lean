/-
Patches of one row that is spelled in two ways.

A property of the data container can be given under its plain key, or in a value for the
container itself, and both spellings make the same row.  A patch of the two spellings has the
same outcome unless it gives a value for the container: then the stored object keeps what it has
under plain keys, against the patch.  `Row.SpelledAlike` says when nothing comes of this, and
`Row.changedColumns_agree_iff` that no other case is an exception.
-/
import DocumentSql.Proofs.Row.Change

namespace DocumentSql

namespace Row

open Members (getText? merge IsKeyed)
open Value (Matches IsSelfEqual isPrivateName)

/-! ### Rows and outcomes that are the same -/

/-- The rows have the same value in every column, up to the order of the members of mappings. -/
def Alike (r s : Row) : Prop := ∀ c, Option.Rel (Matches Eq) (get? r c) (get? s c)

/-- The outcomes are the same row, or the same error. -/
def Agree : Result Row → Result Row → Prop
  | .ok r, .ok s => Alike r s
  | .error x, .error y => x = y
  | _, _ => False

/-- The object makes the row: it gives no key twice and a mapping for the data container, if
anything, and every value of the row is equal to itself. -/
structure IsStored (e : Entity) (o : Members) (r : Row) : Prop where
  unique : o.IsUnique
  row_eq : ofMembers e o = .ok r
  explicit : ∀ v, explicit? e o = some v → ∃ ms, v = .dict ms ∧ IsKeyed ms
  formed : IsFormed IsSelfEqual r

/-- The patch gives no key twice, and its mappings have text keys. -/
structure IsPatch (patch : Members) : Prop where
  unique : patch.IsUnique
  formed : ∀ m ∈ patch, m.2.normalize.IsFormed fun _ => True

/-- The patch gives a value for a property: under its plain key, or in a value for the data
container that no plain key of the patch competes with. -/
def Gives (e : Entity) (patch : Members) (s : String) (v : Value) : Prop :=
  plain? patch s = some v ∨
    plain? patch s = none ∧ getText? (membersOf (explicit? e patch)) s = some v

/-- It makes no difference in which of two ways the row is spelled: where the patch gives a
mapping for the data container, it gives in it the value of the row for every property that just
one of the objects spells with a plain key, unless it has a plain key for it.  Where it gives for
the container what plain keys cannot be merged with, both objects are refused or none is. -/
def SpelledAlike (e : Entity) (o₁ o₂ patch : Members) (r : Row) : Prop :=
  ∀ v, explicit? e patch = some v →
    match containerMembers v with
    | .ok given => ∀ s, plain? patch s = none → (plain? o₁ s).isSome ≠ (plain? o₂ s).isSome →
        Option.Rel (Matches Eq) (inContainer? e r s) (getText? given s)
    | .error _ => (givesPlain o₁ || givesPlain patch) = (givesPlain o₂ || givesPlain patch)

/-- The patch leaves the data container as it is. -/
def LeavesContainer (e : Entity) (o patch : Members) : Prop :=
  ∃ changes, changedColumns e (.dict o) (.dict patch) = .ok changes ∧
    get? changes e.container = none

section

variable {e : Entity} {o o₁ o₂ patch : Members} {r r₁ r₂ after a₁ a₂ : Row}

lemma IsStored.isKeyed (h : IsStored e o r) : o.IsKeyed := by
  obtain ⟨columns, data, hpartition, -⟩ := ofMembers_eq_ok h.row_eq
  exact isKeyed_of_partition h.unique hpartition

lemma IsStored.isKeyed_explicit (h : IsStored e o r) : (membersOf (explicit? e o)).IsKeyed := by
  cases hv : explicit? e o with
  | none => exact Members.isKeyed_nil
  | some v =>
    obtain ⟨ms, rfl, hms⟩ := h.explicit v hv
    exact hms

namespace IsPatch

lemma isFormed_of_getText? (h : IsPatch patch) {s : String} {v : Value}
    (hv : (getText? patch s).map Value.normalize = some v) : v.IsFormed fun _ => True := by
  obtain ⟨w, hw, rfl⟩ := Option.map_eq_some_iff.1 hv
  obtain ⟨k, hm, -⟩ := Members.exists_mem_of_getText? hw
  exact h.formed (k, w) hm

lemma isFormed_of_plain? (h : IsPatch patch) {s : String} {v : Value}
    (hv : plain? patch s = some v) : v.IsFormed fun _ => True := by
  rw [plain?_eq] at hv
  split at hv
  · exact h.isFormed_of_getText? hv
  · simp at hv

lemma isKeyed_explicit (h : IsPatch patch) : (membersOf (explicit? e patch)).IsKeyed := by
  cases hv : explicit? e patch with
  | none => exact Members.isKeyed_nil
  | some v =>
    have hformed := h.isFormed_of_getText? hv
    cases v with
    | dict ms => exact (Value.isFormed_dict.1 hformed).1
    | _ => exact Members.isKeyed_nil

lemma isFormed_of_explicit (h : IsPatch patch) {s : String} {v : Value}
    (hv : getText? (membersOf (explicit? e patch)) s = some v) : v.IsFormed fun _ => True := by
  obtain ⟨ms, hms, hv⟩ := getText?_membersOf hv
  exact (h.isFormed_of_getText? hms).getText? hv

end IsPatch

namespace IsStored

/-- What the data container holds after a patch is given by the patch, or it was there before. -/
lemma inContainer?_after (h : IsStored e o r) (hkeyed : patch.IsKeyed)
    (hafter : ofMembers e (merge o patch) = .ok after) {s : String} {v : Value}
    (hv : inContainer? e after s = some v) :
    plain? patch s = some v ∨ getText? (membersOf (explicit? e patch)) s = some v ∨
      inContainer? e r s = some v := by
  have hmerged := Members.isKeyed_merge h.isKeyed hkeyed.1
  rw [inContainer?_ofMembers hmerged hafter, plain?_merge hkeyed, explicit?_merge hkeyed] at hv
  rw [inContainer?_ofMembers h.isKeyed h.row_eq]
  cases hp : plain? patch s with
  | some w =>
    rw [hp, Option.some_or, Option.some_or] at hv
    exact Or.inl hv
  | none =>
    rw [hp, Option.none_or] at hv
    right
    cases ho : plain? o s with
    | some w =>
      rw [ho, Option.some_or] at hv
      exact Or.inr hv
    | none =>
      rw [ho, Option.none_or] at hv
      cases hf : explicit? e patch with
      | some w =>
        rw [hf, Option.some_or] at hv
        exact Or.inl hv
      | none =>
        rw [hf, Option.none_or] at hv
        exact Or.inr hv

/-- The row after a patch holds mappings with text keys. -/
lemma patched (h : IsStored e o r) (hpatch : IsPatch patch) (hkeyed : patch.IsKeyed)
    (hafter : ofMembers e (merge o patch) = .ok after) : Patched e o patch r after := by
  have hmerged := Members.isKeyed_merge h.isKeyed hkeyed.1
  have hformed : IsFormed (fun _ => True) r :=
    fun c v hv => (h.formed c v hv).mono fun _ _ => trivial
  refine ⟨h.isKeyed, hkeyed, h.row_eq, hafter, h.formed, fun c v hv => ?_⟩
  by_cases hc : c = e.container
  · subst hc
    cases hplain : givesPlain (merge o patch) with
    | false =>
      rw [get?_container hafter hplain, explicit?_merge hkeyed] at hv
      rw [givesPlain_merge h.isKeyed hkeyed, Bool.or_eq_false_iff] at hplain
      cases hf : explicit? e patch with
      | some w =>
        rw [hf, Option.some_or] at hv
        exact hpatch.isFormed_of_getText? (hf.trans hv)
      | none =>
        rw [hf, Option.none_or, ← get?_container h.row_eq hplain.1] at hv
        exact hformed _ _ hv
    | true =>
      obtain ⟨ns, hns⟩ := exists_get?_container hafter hplain
      obtain rfl := Option.some.inj (hns.symm.trans hv)
      have hkeys : (membersOf (explicit? e (merge o patch))).IsKeyed := by
        have hgiven : (membersOf (explicit? e patch)).IsKeyed := hpatch.isKeyed_explicit
        rw [explicit?_merge hkeyed]
        cases hf : explicit? e patch with
        | none => exact h.isKeyed_explicit
        | some w => rwa [hf] at hgiven
      have hns' := isKeyed_container hmerged hafter hkeys
      rw [hns] at hns'
      refine Value.isFormed_dict_of_getText? hns' fun s y hy => ?_
      have hlookup : inContainer? e after s = some y := by rw [inContainer?, hns, membersOf, hy]
      rcases h.inContainer?_after hkeyed hafter hlookup with hy | hy | hy
      · exact hpatch.isFormed_of_plain? hy
      · exact hpatch.isFormed_of_explicit hy
      · exact hformed.of_inContainer? hy
  · rw [get?_ofMembers hafter hc, Members.getText?_merge_of_isKeyed o hkeyed] at hv
    cases hp : getText? patch ("$" ++ c) with
    | some w =>
      rw [hp, Option.some_or] at hv
      exact hpatch.isFormed_of_getText? (by rw [hp]; exact hv)
    | none =>
      rw [hp, Option.none_or, ← get?_ofMembers h.row_eq hc] at hv
      exact hformed _ _ hv

end IsStored

/-! ### Two patched objects -/

lemma alike_inContainer? (hr : IsFormed (fun _ => True) r₁) (hs : IsFormed (fun _ => True) r₂)
    (h : Option.Rel (Matches Eq) (get? r₁ e.container) (get? r₂ e.container)) (s : String) :
    Option.Rel (Matches Eq) (inContainer? e r₁ s) (inContainer? e r₂ s) := by
  unfold inContainer?
  cases hv : get? r₁ e.container with
  | none =>
    cases hw : get? r₂ e.container with
    | none => exact Option.Rel.none
    | some w => simp [hv, hw] at h
  | some v =>
    cases hw : get? r₂ e.container with
    | none => simp [hv, hw] at h
    | some w =>
      rw [hv, hw, Option.rel_some_some] at h
      have hvf := hr _ _ hv
      have hwf := hs _ _ hw
      cases v with
      | dict ms =>
        obtain ⟨ns, rfl⟩ := Value.exists_dict_of_matches h
        exact (Value.matches_dict_iff (Value.isFormed_dict.1 hvf).1
          (Value.isFormed_dict.1 hwf).1).1 h s
      | list xs =>
        obtain ⟨ys, rfl, -⟩ := Value.matches_list_iff.1 h
        exact Option.Rel.none
      | _ =>
        obtain ⟨-, rfl⟩ := (Value.matches_leaf rfl).1 h
        exact Option.Rel.none

lemma alike_container_of_inContainer? {ms ns : Members} (hr : IsFormed (fun _ => True) r₁)
    (hs : IsFormed (fun _ => True) r₂) (hms : get? r₁ e.container = some (.dict ms))
    (hns : get? r₂ e.container = some (.dict ns))
    (h : ∀ s, Option.Rel (Matches Eq) (inContainer? e r₁ s) (inContainer? e r₂ s)) :
    Option.Rel (Matches Eq) (get? r₁ e.container) (get? r₂ e.container) := by
  rw [hms, hns, Option.rel_some_some, Value.matches_dict_iff
    (Value.isFormed_dict.1 (hr _ _ hms)).1 (Value.isFormed_dict.1 (hs _ _ hns)).1]
  intro s
  have hrel := h s
  rwa [inContainer?, inContainer?, hms, hns] at hrel

lemma alike_refl {x : Option Value} (hx : ∀ v, x = some v → v.IsFormed fun _ => True) :
    Option.Rel (Matches Eq) x x := by
  cases x with
  | none => exact Option.Rel.none
  | some v => exact Option.Rel.some (Value.matches_refl (fun _ _ => rfl) (hx v rfl))

lemma alike_symm {x y : Option Value} (hx : ∀ v, x = some v → v.IsFormed fun _ => True)
    (hy : ∀ v, y = some v → v.IsFormed fun _ => True) (h : Option.Rel (Matches Eq) x y) :
    Option.Rel (Matches Eq) y x :=
  Value.optionRel_symm h fun v w hv hw hvw =>
    Value.matches_symm (fun _ _ => Eq.symm) (hx v hv) (hy w hw) hvw

lemma alike_trans {x y z : Option Value} (hx : ∀ v, x = some v → v.IsFormed fun _ => True)
    (hy : ∀ v, y = some v → v.IsFormed fun _ => True)
    (hz : ∀ v, z = some v → v.IsFormed fun _ => True) (hxy : Option.Rel (Matches Eq) x y)
    (hyz : Option.Rel (Matches Eq) y z) : Option.Rel (Matches Eq) x z :=
  Value.optionRel_trans hxy hyz fun u v w hu hv hw huv hvw =>
    Value.matches_trans (fun _ _ _ => Eq.trans) (hx u hu) (hy v hv) (hz w hw) huv hvw

namespace Patched

/-- With plain keys, the data container holds a property after the patch. -/
lemma exists_inContainer?_after (h : Patched e o patch r after)
    (hplain : givesPlain (merge o patch) = true) : ∃ s v, inContainer? e after s = some v := by
  obtain ⟨s, v, hv⟩ := (givesPlain_iff h.merged_keyed).1 hplain
  exact ⟨s, v, by rw [inContainer?_ofMembers h.merged_keyed h.after_eq, hv, Option.some_or]⟩

/-- Where the patch gives for the data container what plain keys cannot be merged with, there are
none. -/
lemma givesPlain_eq_false (h : Patched e o patch r after) {v : Value} {x : Error}
    (hv : explicit? e patch = some v) (hx : containerMembers v = .error x) :
    givesPlain o = false ∧ givesPlain patch = false := by
  rw [← Bool.or_eq_false_iff, ← givesPlain_merge h.stored_keyed h.patch_keyed]
  obtain ⟨columns, data, -, ⟨hno, -⟩ | ⟨-, given, hgiven, -⟩⟩ := ofMembers_eq_ok h.after_eq
  · exact hno
  · rw [explicit?_merge h.patch_keyed, hv, Option.some_or, Option.getD_some, hx] at hgiven
    simp at hgiven

end Patched

/-- Two objects that make the same row, and one patch of both. -/
structure SameRow (e : Entity) (o₁ o₂ patch : Members) (r₁ r₂ a₁ a₂ : Row) : Prop where
  first : Patched e o₁ patch r₁ a₁
  second : Patched e o₂ patch r₂ a₂
  alike : Alike r₁ r₂
  isPatch : IsPatch patch

namespace SameRow

variable (h : SameRow e o₁ o₂ patch r₁ r₂ a₁ a₂)
include h

lemma formed_first : IsFormed (fun _ => True) r₁ :=
  fun c v hv => (h.first.before_formed c v hv).mono fun _ _ => trivial

lemma formed_second : IsFormed (fun _ => True) r₂ :=
  fun c v hv => (h.second.before_formed c v hv).mono fun _ _ => trivial

lemma alike_before (s : String) :
    Option.Rel (Matches Eq) (inContainer? e r₁ s) (inContainer? e r₂ s) :=
  alike_inContainer? h.formed_first h.formed_second (h.alike e.container) s

/-- Columns other than the data container are the same after the patch. -/
lemma alike_after {c : String} (hc : c ≠ e.container) :
    Option.Rel (Matches Eq) (get? a₁ c) (get? a₂ c) := by
  rw [h.first.get?_after hc, h.second.get?_after hc]
  cases hp : (getText? patch ("$" ++ c)).map Value.normalize with
  | none => simpa using h.alike c
  | some v =>
    rw [Option.some_or, Option.some_or]
    exact alike_refl fun w hw => h.isPatch.isFormed_of_getText? (hp.trans hw)

/-- A column that is the same after the patch is changed in both rows, or in none. -/
lemma alike_changes {c : String} (hafter : Option.Rel (Matches Eq) (get? a₁ c) (get? a₂ c)) :
    Option.Rel (Matches Eq) (get? (changes e o₁ patch r₁ a₁) c)
      (get? (changes e o₂ patch r₂ a₂) c) := by
  rw [h.first.get?_changes, h.second.get?_changes]
  have hbefore := h.alike c
  cases hw₁ : get? a₁ c with
  | none =>
    cases hw₂ : get? a₂ c with
    | none => exact Option.Rel.none
    | some w₂ => simp [hw₁, hw₂] at hafter
  | some w₁ =>
    cases hw₂ : get? a₂ c with
    | none => simp [hw₁, hw₂] at hafter
    | some w₂ =>
      rw [hw₁, hw₂, Option.rel_some_some] at hafter
      -- the same is found of both pairs of values
      have hsame : ((get? r₁ c).all fun v => v.differs w₁) =
          (get? r₂ c).all fun v => v.differs w₂ := by
        cases hv₁ : get? r₁ c with
        | none =>
          cases hv₂ : get? r₂ c with
          | none => rfl
          | some v₂ => simp [hv₁, hv₂] at hbefore
        | some v₁ =>
          cases hv₂ : get? r₂ c with
          | none => simp [hv₁, hv₂] at hbefore
          | some v₂ =>
            rw [hv₁, hv₂, Option.rel_some_some] at hbefore
            have hf₁ := h.formed_first _ _ hv₁
            have hf₂ := h.formed_second _ _ hv₂
            rw [Option.all_some, Option.all_some, Value.differs_congr hf₁ hf₂ hbefore,
              Value.differs_congr_right hf₂ (h.first.after_formed _ _ hw₁)
                (h.second.after_formed _ _ hw₂) hafter]
      simp only [Option.filter_some, hsame]
      split
      · exact Option.Rel.some hafter
      · exact Option.Rel.none

/-- A property in the data container is the same after the patch when, unless the patch has a
plain key for it, what the patch gives in a value for the container is what the row has, or both
objects or none of them spell the property with a plain key. -/
lemma alike_inContainer?_after_iff (s : String) :
    Option.Rel (Matches Eq) (inContainer? e a₁ s) (inContainer? e a₂ s) ↔
      ∀ v, explicit? e patch = some v → plain? patch s = none →
        (plain? o₁ s).isSome ≠ (plain? o₂ s).isSome →
          Option.Rel (Matches Eq) (inContainer? e r₁ s) (getText? (membersOf (some v)) s) := by
  have hrow := h.alike_before s
  have hrow₁ := inContainer?_ofMembers h.first.stored_keyed h.first.before_eq s
  have hrow₂ := inContainer?_ofMembers h.second.stored_keyed h.second.before_eq s
  rw [h.first.inContainer?_after, h.second.inContainer?_after]
  cases hp : plain? patch s with
  | some v =>
    have hv := alike_refl fun w hw => h.isPatch.isFormed_of_plain? (hp.trans hw)
    simpa using hv
  | none =>
    rw [Option.none_or, Option.none_or]
    cases hf : explicit? e patch with
    | none =>
      rw [Option.none_or, Option.none_or, ← hrow₁, ← hrow₂]
      simpa using hrow
    | some f =>
      have hg := fun w (hw : getText? (membersOf (some f)) s = some w) =>
        h.isPatch.isFormed_of_explicit (e := e) (hf ▸ hw)
      simp only [Option.some_or, Option.some.injEq, forall_eq', forall_const]
      cases ho₁ : plain? o₁ s with
      | none =>
        cases ho₂ : plain? o₂ s with
        | none => simpa using alike_refl hg
        | some u =>
          rw [ho₂, Option.some_or] at hrow₂
          simp only [Option.none_or, Option.some_or, ne_eq, reduceCtorEq, Option.isSome_none,
            Option.isSome_some, not_false_eq_true, forall_const]
          rw [← hrow₂]
          have hb₁ := fun w => h.formed_first.of_inContainer? (e := e) (s := s) (v := w)
          have hb₂ := fun w => h.formed_second.of_inContainer? (e := e) (s := s) (v := w)
          exact ⟨fun hrel => alike_trans hb₁ hb₂ hg hrow (alike_symm hg hb₂ hrel),
            fun hrel => alike_trans hg hb₁ hb₂ (alike_symm hb₁ hg hrel) hrow⟩
      | some u =>
        rw [ho₁, Option.some_or] at hrow₁
        cases ho₂ : plain? o₂ s with
        | none => simp [hrow₁]
        | some u' =>
          rw [ho₂, Option.some_or] at hrow₂
          rw [hrow₁, hrow₂] at hrow
          simpa using hrow

/-- The data containers are the same after the patch when their properties are. -/
lemma alike_container_after_iff :
    Option.Rel (Matches Eq) (get? a₁ e.container) (get? a₂ e.container) ↔
      ∀ s, Option.Rel (Matches Eq) (inContainer? e a₁ s) (inContainer? e a₂ s) := by
  refine ⟨alike_inContainer? h.first.after_formed h.second.after_formed, fun hrel => ?_⟩
  -- a property makes both containers mappings
  have hdicts : ∀ s, (inContainer? e a₁ s).isSome ∨ (inContainer? e a₂ s).isSome →
      Option.Rel (Matches Eq) (get? a₁ e.container) (get? a₂ e.container) := by
    intro s hsome
    have hs := hrel s
    cases hv : inContainer? e a₁ s with
    | none =>
      cases hw : inContainer? e a₂ s with
      | none => simp [hv, hw] at hsome
      | some w => simp [hv, hw] at hs
    | some v =>
      cases hw : inContainer? e a₂ s with
      | none => simp [hv, hw] at hs
      | some w =>
        obtain ⟨ms, hms, -⟩ := getText?_membersOf hv
        obtain ⟨ns, hns, -⟩ := getText?_membersOf hw
        exact alike_container_of_inContainer? h.first.after_formed h.second.after_formed hms hns
          hrel
  cases hplain₁ : givesPlain (merge o₁ patch) with
  | true =>
    obtain ⟨s, v, hv⟩ := h.first.exists_inContainer?_after hplain₁
    exact hdicts s (Or.inl (by simp [hv]))
  | false =>
    cases hplain₂ : givesPlain (merge o₂ patch) with
    | true =>
      obtain ⟨s, v, hv⟩ := h.second.exists_inContainer?_after hplain₂
      exact hdicts s (Or.inr (by simp [hv]))
    | false =>
      rw [get?_container h.first.after_eq hplain₁, get?_container h.second.after_eq hplain₂,
        explicit?_merge h.first.patch_keyed, explicit?_merge h.first.patch_keyed]
      rw [givesPlain_merge h.first.stored_keyed h.first.patch_keyed, Bool.or_eq_false_iff]
        at hplain₁
      rw [givesPlain_merge h.second.stored_keyed h.first.patch_keyed, Bool.or_eq_false_iff]
        at hplain₂
      cases hf : explicit? e patch with
      | some v =>
        rw [Option.some_or, Option.some_or]
        exact alike_refl fun w hw => h.isPatch.isFormed_of_getText? (hf.trans hw)
      | none =>
        have hrows := h.alike e.container
        rw [get?_container h.first.before_eq hplain₁.1,
          get?_container h.second.before_eq hplain₂.1] at hrows
        simpa using hrows

/-- It makes no difference in which way the row is spelled when the data containers are the same
after the patch. -/
lemma spelledAlike_iff : SpelledAlike e o₁ o₂ patch r₁ ↔
    Option.Rel (Matches Eq) (get? a₁ e.container) (get? a₂ e.container) := by
  rw [h.alike_container_after_iff]
  simp only [h.alike_inContainer?_after_iff]
  constructor
  · intro hspelled s v hv hp hne
    have hcase := hspelled v hv
    cases hgiven : containerMembers v with
    | ok given =>
      rw [hgiven] at hcase
      rw [membersOf_of_containerMembers hgiven]
      exact hcase s hp hne
    | error x =>
      -- then neither object has plain keys
      have hplain₁ := h.first.givesPlain_eq_false hv hgiven
      have hplain₂ := h.second.givesPlain_eq_false hv hgiven
      rw [plain?_eq_none hplain₁.1 h.first.stored_keyed,
        plain?_eq_none hplain₂.1 h.second.stored_keyed] at hne
      exact absurd rfl hne
  · intro hrel v hv
    cases hgiven : containerMembers v with
    | ok given =>
      intro s hp hne
      have hcase := hrel s v hv hp hne
      rwa [membersOf_of_containerMembers hgiven] at hcase
    | error x =>
      have hplain₁ := h.first.givesPlain_eq_false hv hgiven
      have hplain₂ := h.second.givesPlain_eq_false hv hgiven
      simp only [hplain₁.1, hplain₂.1]

lemma agree_iff : Agree (.ok (changes e o₁ patch r₁ a₁)) (.ok (changes e o₂ patch r₂ a₂)) ↔
    SpelledAlike e o₁ o₂ patch r₁ ∨ get? (changes e o₁ patch r₁ a₁) e.container = none ∧
      get? (changes e o₂ patch r₂ a₂) e.container = none := by
  rw [h.spelledAlike_iff]
  constructor
  · intro hagree
    have hcontainer := hagree e.container
    cases hc₁ : get? (changes e o₁ patch r₁ a₁) e.container with
    | none =>
      cases hc₂ : get? (changes e o₂ patch r₂ a₂) e.container with
      | none => exact Or.inr ⟨rfl, rfl⟩
      | some w => simp [hc₁, hc₂] at hcontainer
    | some v =>
      cases hc₂ : get? (changes e o₂ patch r₂ a₂) e.container with
      | none => simp [hc₁, hc₂] at hcontainer
      | some w =>
        -- what is changed to is what stands there after the patch
        rw [hc₁, hc₂] at hcontainer
        rw [h.first.get?_changes, Option.filter_eq_some_iff] at hc₁
        rw [h.second.get?_changes, Option.filter_eq_some_iff] at hc₂
        rw [hc₁.1, hc₂.1]
        exact Or.inl hcontainer
  · rintro hsame c
    by_cases hc : c = e.container
    · subst hc
      rcases hsame with hafter | ⟨hc₁, hc₂⟩
      · exact h.alike_changes hafter
      · rw [hc₁, hc₂]
        exact Option.Rel.none
    · exact h.alike_changes (h.alike_after hc)

end SameRow

/-! ### What becomes of a patch -/

lemma IsStored.changedColumns_eq (h : IsStored e o r) :
    changedColumns e (.dict o) (.dict patch) =
      (ofMembers e (merge o patch)).map fun after => changes e o patch r after := by
  simp only [changedColumns, ofObject, mergeable, h.row_eq]
  cases hafter : ofMembers e (merge o patch) <;>
    simp [bind, Except.bind, Except.map, hafter]

lemma IsStored.hasPlace (h : IsStored e o r) : ∀ m ∈ o, HasPlace e m.1 := by
  obtain ⟨columns, data, ho, -⟩ := ofMembers_eq_ok h.row_eq
  exact partition_eq_ok_iff.1 ⟨_, ho⟩

/-- A patch that has a key without a place is refused because of it. -/
lemma IsStored.ofMembers_merge_refused (h : IsStored e o r) {x : Error}
    (hx : partition e patch = .error x) : ofMembers e (merge o patch) = .error x := by
  rw [ofMembers, (partition_merge_eq_error_iff h.hasPlace).2 hx]
  rfl

/-- A patch whose keys have a place is applied, or it gives for the data container what plain keys
cannot be merged with. -/
lemma IsStored.ofMembers_merge (h : IsStored e o r) (hkeyed : patch.IsKeyed)
    {p : Row × Members} (hpartition : partition e patch = .ok p) :
    (∃ after, ofMembers e (merge o patch) = .ok after) ∨
      ofMembers e (merge o patch) = .error (.fault .wrongType) ∧
        (givesPlain o || givesPlain patch) = true ∧
          ∃ v x, explicit? e patch = some v ∧ containerMembers v = .error x := by
  have hmerged : ∃ q, partition e (merge o patch) = .ok q := by
    cases hq : partition e (merge o patch) with
    | ok q => exact ⟨q, rfl⟩
    | error x =>
      rw [partition_merge_eq_error_iff h.hasPlace, hpartition] at hq
      simp at hq
  obtain ⟨q, hq⟩ := hmerged
  rcases ofMembers_eq_of_partition hq with ⟨hafter, -⟩ | ⟨hafter, hplain, hgiven⟩
  · exact Or.inl hafter
  · rw [givesPlain_merge h.isKeyed hkeyed] at hplain
    refine Or.inr ⟨hafter, hplain, ?_⟩
    rw [explicit?_merge hkeyed] at hgiven
    cases hf : explicit? e patch with
    | some v =>
      rw [hf, Option.some_or, Option.getD_some] at hgiven
      exact ⟨v, _, rfl, hgiven⟩
    | none =>
      -- what the stored object gives is a mapping
      rw [hf, Option.none_or] at hgiven
      cases hx : explicit? e o with
      | none => simp [hx, containerMembers, Value.truth] at hgiven
      | some w =>
        obtain ⟨ms, rfl, -⟩ := h.explicit w hx
        rw [hx, Option.getD_some, containerMembers_dict] at hgiven
        simp at hgiven

lemma not_spelledAlike {v : Value} {x : Error} (hv : explicit? e patch = some v)
    (hx : containerMembers v = .error x)
    (hne : (givesPlain o₁ || givesPlain patch) ≠ (givesPlain o₂ || givesPlain patch)) :
    ¬ SpelledAlike e o₁ o₂ patch r := by
  intro hspelled
  have hcase := hspelled v hv
  rw [hx] at hcase
  exact hne hcase

/-- Two spellings of one row have the same outcome when the patch is refused, when it makes no
difference how the row is spelled, and when the data container is left as it is; otherwise they
have not. -/
theorem IsStored.agree_iff (h₁ : IsStored e o₁ r₁) (h₂ : IsStored e o₂ r₂) (hrows : Alike r₁ r₂)
    (hpatch : IsPatch patch) :
    Agree (changedColumns e (.dict o₁) (.dict patch)) (changedColumns e (.dict o₂) (.dict patch)) ↔
      (∃ x, partition e patch = .error x) ∨ SpelledAlike e o₁ o₂ patch r₁ ∨
        LeavesContainer e o₁ patch ∧ LeavesContainer e o₂ patch := by
  simp only [LeavesContainer, h₁.changedColumns_eq, h₂.changedColumns_eq]
  cases hpartition : partition e patch with
  | error x =>
    rw [h₁.ofMembers_merge_refused hpartition, h₂.ofMembers_merge_refused hpartition]
    simp [Except.map, Agree]
  | ok p =>
    have hkeyed := isKeyed_of_partition hpatch.unique hpartition
    rcases h₁.ofMembers_merge hkeyed hpartition with ⟨a₁, ha₁⟩ | ⟨he₁, hplain₁, v, x, hv, hx⟩
    · rcases h₂.ofMembers_merge hkeyed hpartition with ⟨a₂, ha₂⟩ | ⟨he₂, hplain₂, v, x, hv, hx⟩
      · have h : SameRow e o₁ o₂ patch r₁ r₂ a₁ a₂ :=
          ⟨h₁.patched hpatch hkeyed ha₁, h₂.patched hpatch hkeyed ha₂, hrows, hpatch⟩
        rw [ha₁, ha₂]
        simpa [Except.map] using h.agree_iff
      · -- only the second object has plain keys
        obtain ⟨ho, hp⟩ := (h₁.patched hpatch hkeyed ha₁).givesPlain_eq_false hv hx
        have hno : ¬ SpelledAlike e o₁ o₂ patch r₁ :=
          not_spelledAlike hv hx (by rw [hplain₂, ho, hp]; simp)
        rw [ha₁, he₂]
        simp [Except.map, Agree, hno]
    · rcases h₂.ofMembers_merge hkeyed hpartition with ⟨a₂, ha₂⟩ | ⟨he₂, hplain₂, w, y, hw, hy⟩
      · -- only the first object has plain keys
        obtain ⟨ho, hp⟩ := (h₂.patched hpatch hkeyed ha₂).givesPlain_eq_false hv hx
        have hno : ¬ SpelledAlike e o₁ o₂ patch r₁ :=
          not_spelledAlike hv hx (by rw [hplain₁, ho, hp]; simp)
        rw [he₁, ha₂]
        simp [Except.map, Agree, hno]
      · have hspelled : SpelledAlike e o₁ o₂ patch r₁ := by
          intro w hw
          obtain rfl := Option.some.inj (hv.symm.trans hw)
          rw [hx]
          exact hplain₁.trans hplain₂.symm
        rw [he₁, he₂]
        simp [Except.map, Agree, hspelled]

/-- After a patch, the data container holds what the patch gives for a property, unless the stored
object spells the property with a plain key and the patch does not. -/
lemma Patched.exists_inContainer?_of_gives (h : Patched e o patch r after) (hpatch : IsPatch patch)
    {s : String} {w : Value} (hgives : Gives e patch s w) :
    ∃ x, inContainer? e after s = some x ∧ (Matches Eq x w ↔
      (plain? patch s).isSome ∨ ∀ u, plain? o s = some u → Matches Eq u w) := by
  have hw : w.IsFormed fun _ => True := by
    rcases hgives with hw | ⟨-, hw⟩
    · exact hpatch.isFormed_of_plain? hw
    · exact hpatch.isFormed_of_explicit hw
  have hrefl := Value.matches_refl (fun _ _ => rfl) hw
  rw [h.inContainer?_after]
  rcases hgives with hp | ⟨hp, hf⟩
  · exact ⟨w, by rw [hp, Option.some_or, Option.some_or], by simp [hp, hrefl]⟩
  · obtain ⟨ms, hms, hf⟩ := getText?_membersOf hf
    rw [hp, hms, Option.none_or, Option.some_or, membersOf]
    cases ho : plain? o s with
    | none => exact ⟨w, hf, by simp [hrefl]⟩
    | some u => exact ⟨u, rfl, by simp⟩

/-- Where the data container is left as it is, it holds a value that does not differ from what
would stand there after the patch. -/
lemma Patched.not_differs_of_leaves (h : Patched e o patch r after) {s : String} {x : Value}
    (hx : inContainer? e after s = some x)
    (hleaves : get? (changes e o patch r after) e.container = none) (hs : isPrivateName s = false)
    (hid : e.container ≠ "id") : ∃ v, inContainer? e r s = some v ∧ v.differs x = false := by
  obtain ⟨ns, hns, hx⟩ := getText?_membersOf hx
  rw [h.get?_changes, hns, Option.filter_eq_none_iff] at hleaves
  have hdiffers := hleaves _ rfl
  simp only [Bool.and_eq_true, bne_iff_ne, ne_eq, hid, not_false_eq_true, true_and,
    Bool.not_eq_true] at hdiffers
  cases hv : get? r e.container with
  | none => simp [hv] at hdiffers
  | some v =>
    rw [hv, Option.all_some] at hdiffers
    obtain ⟨ms, rfl⟩ := Value.exists_dict_of_not_differs_dict hdiffers
    have hms := (Value.isFormed_dict.1 (h.before_formed _ _ hv)).1
    have hns' := (Value.isFormed_dict.1 (h.after_formed _ _ hns)).1
    have hrel := (Value.differs_dict_iff hms hns').1 hdiffers s hs
    rw [hx] at hrel
    cases hy : getText? ms s with
    | none => simp [hy] at hrel
    | some y =>
      rw [hy, Option.rel_some_some] at hrel
      exact ⟨y, by rw [inContainer?, hv, membersOf, hy], hrel⟩

/-- Two spellings of one row have the same outcome when the patch is refused, when it makes no
difference how the row is spelled, and when the data container is left as it is; otherwise they
have not.  Of a property that the patch gives, the updated row holds the value of the patch when
the patch has a plain key for it, or the stored object has none with another value; otherwise it
holds the value of the stored object.  That is so when the data container is written; when it is
not, the value that it holds does not differ from this one, unless the property is private. -/
theorem changedColumns_of_same_row (h₁ : IsStored e o₁ r₁) (h₂ : IsStored e o₂ r₂)
    (hrows : Alike r₁ r₂) (hpatch : IsPatch patch) :
    (Agree (changedColumns e (.dict o₁) (.dict patch))
        (changedColumns e (.dict o₂) (.dict patch)) ↔
      (∃ x, partition e patch = .error x) ∨ SpelledAlike e o₁ o₂ patch r₁ ∨
        LeavesContainer e o₁ patch ∧ LeavesContainer e o₂ patch) ∧
    ∀ changes, changedColumns e (.dict o₁) (.dict patch) = .ok changes →
      ∀ s w, Gives e patch s w → ∃ x,
        (Matches Eq x w ↔ (plain? patch s).isSome ∨
          ∀ u, plain? o₁ s = some u → Matches Eq u w) ∧
        ((get? changes e.container).isSome →
          inContainer? e (updated r₁ changes) s = some x) ∧
        (get? changes e.container = none →
          e.container = "id" ∨ isPrivateName s = true ∨
            ∃ v, inContainer? e (updated r₁ changes) s = some v ∧ v.differs x = false) := by
  refine ⟨h₁.agree_iff h₂ hrows hpatch, fun changes hchanges s w hgives => ?_⟩
  rw [h₁.changedColumns_eq] at hchanges
  obtain ⟨after, hafter, rfl⟩ := Result.map_eq_ok_iff.1 hchanges
  have hmerged := ofMembers_eq_ok hafter
  have hkeyed : patch.IsKeyed := by
    obtain ⟨columns, data, hpartition, -⟩ := hmerged
    cases hp : partition e patch with
    | ok p => exact isKeyed_of_partition hpatch.unique hp
    | error x =>
      rw [(partition_merge_eq_error_iff h₁.hasPlace).2 hp] at hpartition
      simp at hpartition
  have h := h₁.patched hpatch hkeyed hafter
  obtain ⟨x, hx, hmatches⟩ := h.exists_inContainer?_of_gives hpatch hgives
  refine ⟨x, hmatches, fun hsome => ?_, fun hnone => ?_⟩
  · obtain ⟨v, hv⟩ := Option.isSome_iff_exists.1 hsome
    have hafter' : get? after e.container = some v := by
      rw [h.get?_changes, Option.filter_eq_some_iff] at hv
      exact hv.1
    rw [inContainer?, get?_updated h.isDistinct_changes, hv, Option.some_or, ← hafter']
    exact hx
  · by_cases hid : e.container = "id"
    · exact Or.inl hid
    · right
      cases hs : isPrivateName s with
      | true => exact Or.inl rfl
      | false =>
        obtain ⟨v, hv, hdiffers⟩ := h.not_differs_of_leaves hx hnone hs hid
        refine Or.inr ⟨v, ?_, hdiffers⟩
        rw [inContainer?, get?_updated h.isDistinct_changes, hnone, Option.none_or]
        exact hv

end

/-! ### A person under two spellings -/

/-- A person, named under a plain key. -/
def plainPerson : Members := [(.text "$id", .int 1), (.text "name", .text "Ann")]

/-- The same person, named in a value for the data container. -/
def nestedPerson : Members :=
  [(.text "$id", .int 1), (.text "$content", .dict [(.text "name", .text "Ann")])]

/-- The row of the person. -/
def personRow : Row := [("id", .int 1), ("content", .dict [(.text "name", .text "Ann")])]

/-- Another name, under a plain key. -/
def plainName : Members := [(.text "name", .text "Bob")]

/-- Another name, in a value for the data container. -/
def nestedName : Members := [(.text "$content", .dict [(.text "name", .text "Bob")])]

lemma isFormed_personRow : IsFormed IsSelfEqual personRow := by
  intro c v hv
  have hmem := mem_of_get? hv
  have hint : IsSelfEqual (.int 1) := ⟨rfl, rfl⟩
  have htext : IsSelfEqual (.text "Ann") := ⟨rfl, rfl⟩
  simp only [personRow, List.mem_cons, Prod.mk.injEq, List.not_mem_nil, or_false] at hmem
  rcases hmem with ⟨-, rfl⟩ | ⟨-, rfl⟩
  · simpa using hint
  · simpa [IsKeyed, Value.asText?] using htext

lemma isStored_plainPerson : IsStored .document plainPerson personRow where
  unique := by simp [Members.IsUnique, plainPerson, Value.asText?]
  row_eq := rfl
  explicit v hv := by
    have hnone : explicit? .document plainPerson = none := rfl
    rw [hnone] at hv
    cases hv
  formed := isFormed_personRow

lemma isStored_nestedPerson : IsStored .document nestedPerson personRow where
  unique := by simp [Members.IsUnique, nestedPerson, Value.asText?]
  row_eq := rfl
  explicit v hv := by
    have hsome : explicit? .document nestedPerson =
        some (.dict [(.text "name", .text "Ann")]) := rfl
    obtain rfl := Option.some.inj (hsome.symm.trans hv)
    exact ⟨_, rfl, by simp [IsKeyed, Value.asText?]⟩
  formed := isFormed_personRow

lemma isPatch_plainName : IsPatch plainName where
  unique := by simp [Members.IsUnique, plainName]
  formed := by simp [plainName, Value.normalize]

lemma isPatch_nestedName : IsPatch nestedName where
  unique := by simp [Members.IsUnique, nestedName]
  formed := by simp [nestedName, Value.normalize, IsKeyed, Value.asText?]

lemma alike_personRow : Alike personRow personRow := fun c =>
  alike_refl fun v hv => (isFormed_personRow c v hv).mono fun _ _ => trivial

/-- A name under a plain key has the same outcome for both spellings of the person. -/
theorem plainName_agrees :
    Agree (changedColumns .document (.dict plainPerson) (.dict plainName))
      (changedColumns .document (.dict nestedPerson) (.dict plainName)) := by
  refine (changedColumns_of_same_row isStored_plainPerson isStored_nestedPerson alike_personRow
    isPatch_plainName).1.2 (Or.inr (Or.inl fun v hv => ?_))
  have hnone : explicit? .document plainName = none := rfl
  rw [hnone] at hv
  cases hv

/-- A name in a value for the data container is lost where the person is named under a plain key:
both spellings make the same row, but only the other one is changed. -/
theorem nestedName_disagrees :
    IsStored .document plainPerson personRow ∧ IsStored .document nestedPerson personRow ∧
      IsPatch nestedName ∧
      changedColumns .document (.dict plainPerson) (.dict nestedName) = .ok [] ∧
      changedColumns .document (.dict nestedPerson) (.dict nestedName) =
        .ok [("content", .dict [(.text "name", .text "Bob")])] ∧
      ¬ Agree (changedColumns .document (.dict plainPerson) (.dict nestedName))
        (changedColumns .document (.dict nestedPerson) (.dict nestedName)) := by
  have hplain : changedColumns .document (.dict plainPerson) (.dict nestedName) = .ok [] := rfl
  have hnested : changedColumns .document (.dict nestedPerson) (.dict nestedName) =
      .ok [("content", .dict [(.text "name", .text "Bob")])] := rfl
  refine ⟨isStored_plainPerson, isStored_nestedPerson, isPatch_nestedName, hplain, hnested, ?_⟩
  rw [hplain, hnested]
  intro hagree
  have hcontent := hagree "content"
  simp [get?] at hcontent

end Row

end DocumentSql

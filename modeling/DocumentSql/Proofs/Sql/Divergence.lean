/-
Where two compiled fragments part.

Two fragments that are built the same way are equal, or there is a place up to which they have
the same parts and at which they have different characters.  Joining keeps this: what differs in
one operand differs in the whole (`join_diverges`), so that equal texts come from equal operands.
-/
import DocumentSql.Proofs.Sql.Fragment

namespace DocumentSql

namespace Sql

/-- Up to some place the parts are the same, and there they are different characters. -/
def Diverge (w v : List Token) : Prop :=
  ∃ pre c d rest rest', w = pre ++ .plain c :: rest ∧ v = pre ++ .plain d :: rest' ∧ c ≠ d

namespace Diverge

variable {w v : List Token}

lemma ne (h : Diverge w v) : w ≠ v := by
  obtain ⟨pre, c, d, rest, rest', rfl, rfl, hcd⟩ := h
  intro heq
  have htail := List.append_cancel_left heq
  exact hcd (Token.plain.inj (List.cons.inj htail).1)

lemma symm (h : Diverge w v) : Diverge v w := by
  obtain ⟨pre, c, d, rest, rest', hw, hv, hcd⟩ := h
  exact ⟨pre, d, c, rest', rest, hv, hw, hcd.symm⟩

lemma ne_nil (h : Diverge w v) : w ≠ [] ∧ v ≠ [] := by
  obtain ⟨pre, c, d, rest, rest', rfl, rfl, -⟩ := h
  simp

/-- What stands in front of both and behind each of them does not matter. -/
lemma wrap (h : Diverge w v) (pre post post' : List Token) :
    Diverge (pre ++ w ++ post) (pre ++ v ++ post') := by
  obtain ⟨mid, c, d, rest, rest', rfl, rfl, hcd⟩ := h
  exact ⟨pre ++ mid, c, d, rest ++ post, rest' ++ post', by simp, by simp, hcd⟩

lemma intercalate {g : List Token} {ws vs : List (List Token)}
    (h : List.Forall₂ (fun w v => w = v ∨ Diverge w v) ws vs) (hne : ws ≠ vs) :
    Diverge (g.intercalate ws) (g.intercalate vs) := by
  induction h with
  | nil => exact absurd rfl hne
  | @cons w v ws vs hwv hrest ih =>
    rcases hwv with rfl | hwv
    · -- the first ones are equal, so the rest is not
      have hne' : ws ≠ vs := fun heq => hne (by rw [heq])
      cases hrest with
      | nil => exact absurd rfl hne'
      | cons hxy hrest =>
        rw [List.intercalate_cons_cons, List.intercalate_cons_cons]
        simpa using (ih hne').wrap (w ++ g) [] []
    · have htail : ∀ w : List Token, ∀ us : List (List Token),
          ∃ rest, g.intercalate (w :: us) = w ++ rest := by
        intro w us
        cases us with
        | nil => exact ⟨[], by simp [List.intercalate]⟩
        | cons u us => exact ⟨_, by rw [List.intercalate_cons_cons, List.append_assoc]⟩
      obtain ⟨rest, hw⟩ := htail w ws
      obtain ⟨rest', hv⟩ := htail v vs
      rw [hw, hv]
      simpa using hwv.wrap [] rest rest'

end Diverge

end Sql

namespace Predicate

open Sql

/-- The fragments are equal, or their texts part at some place. -/
def Agrees (p q : Predicate) : Prop := p = q ∨ Diverge (shape p.text) (shape q.text)

namespace Agrees

variable {p q : Predicate}

lemma eq_of_shape_eq (h : p.Agrees q) (ht : shape p.text = shape q.text) : p = q := by
  rcases h with h | h
  · exact h
  · exact absurd ht h.ne

lemma eq_of_text_eq (h : p.Agrees q) (ht : p.text = q.text) : p = q :=
  h.eq_of_shape_eq (by rw [ht])

lemma isEmpty_eq (h : p.Agrees q) : p.isEmpty = q.isEmpty := by
  rcases h with rfl | h
  · rfl
  · have hp : p.isEmpty = false := by
      by_contra hp
      exact h.ne_nil.1 (shape_eq_nil_of_isEmpty (by simpa using hp))
    have hq : q.isEmpty = false := by
      by_contra hq
      exact h.ne_nil.2 (shape_eq_nil_of_isEmpty (by simpa using hq))
    rw [hp, hq]

end Agrees

lemma forall₂_filter {ps qs : List Predicate} (h : List.Forall₂ Agrees ps qs) :
    List.Forall₂ Agrees (ps.filter (!·.isEmpty)) (qs.filter (!·.isEmpty)) ∧
      (ps.filter (!·.isEmpty) = qs.filter (!·.isEmpty) → ps = qs) := by
  induction h with
  | nil => exact ⟨List.Forall₂.nil, fun _ => rfl⟩
  | @cons p q ps qs hpq _ ih =>
    obtain ⟨hall, heq⟩ := ih
    have hempty := hpq.isEmpty_eq
    by_cases hp : p.isEmpty = true
    · have hq : q.isEmpty = true := hempty ▸ hp
      rw [List.filter_cons_of_neg (by simp [hp]), List.filter_cons_of_neg (by simp [hq])]
      refine ⟨hall, fun h => ?_⟩
      have htext : p.text = q.text := by
        rw [show p.text = "" by simpa [isEmpty] using hp,
          show q.text = "" by simpa [isEmpty] using hq]
      rw [heq h, hpq.eq_of_text_eq htext]
    · have hq : ¬ q.isEmpty = true := hempty ▸ hp
      rw [List.filter_cons_of_pos (by simp [hp]), List.filter_cons_of_pos (by simp [hq])]
      refine ⟨List.Forall₂.cons hpq hall, fun h => ?_⟩
      obtain ⟨hpq', h⟩ := List.cons.inj h
      rw [hpq', heq h]

lemma shape_enclosed {p q : Predicate} (hp : p.Sound) (h : p.enclosed = .ok q) :
    shape q.text = shape "(" ++ shape p.text ++ shape ")" := by
  have hopen : Inert "(" := by decide
  rw [shape_of_make h, shape_append (closed_append hopen.closed hp.closed),
    shape_append hopen.closed]
  · exact Or.inl (by decide)
  · exact Or.inr (by decide)

lemma enclosedAll_shapes {ps qs : List Predicate} (hps : ∀ p ∈ ps, p.Sound)
    (h : enclosedAll ps = .ok qs) :
    (qs.filter (!·.isEmpty)).map (fun q => shape q.text) =
      ps.map fun p => shape "(" ++ shape p.text ++ shape ")" := by
  have heach := forall₂_enclosedAll h
  clear h
  induction heach with
  | nil => rfl
  | @cons p q ps qs hq _ ih =>
    have hshape := shape_enclosed (hps p (by simp)) hq
    have hq : q.isEmpty = false := by
      by_contra hempty
      rw [shape_eq_nil_of_isEmpty (by simpa using hempty)] at hshape
      have hopen : shape "(" = [.plain '('] := by decide
      simp [hopen] at hshape
    rw [List.filter_cons_of_pos (by simp [hq]), List.map_cons, List.map_cons, hshape,
      ih fun r hr => hps r (by simp [hr])]

lemma forall₂_shapes {ps qs : List Predicate} (h : List.Forall₂ Agrees ps qs) (hne : ps ≠ qs)
    (pre post : List Token) :
    List.Forall₂ (fun w v => w = v ∨ Diverge w v)
        (ps.map fun p => pre ++ shape p.text ++ post)
        (qs.map fun q => pre ++ shape q.text ++ post) ∧
      (ps.map fun p => pre ++ shape p.text ++ post) ≠
        qs.map fun q => pre ++ shape q.text ++ post := by
  induction h with
  | nil => exact absurd rfl hne
  | @cons p q ps qs hpq hrest ih =>
    have hhead : pre ++ shape p.text ++ post = pre ++ shape q.text ++ post ∨
        Diverge (pre ++ shape p.text ++ post) (pre ++ shape q.text ++ post) := by
      rcases hpq with rfl | hpq
      · exact Or.inl rfl
      · exact Or.inr (hpq.wrap pre post post)
    by_cases htail : ps = qs
    · -- the first ones differ
      have hfirst : p ≠ q := fun heq => hne (by rw [heq, htail])
      have hdiverge : Diverge (pre ++ shape p.text ++ post) (pre ++ shape q.text ++ post) :=
        (hpq.resolve_left hfirst).wrap pre post post
      subst htail
      refine ⟨List.Forall₂.cons hhead (List.forall₂_same.2 fun _ _ => Or.inl rfl), fun heq => ?_⟩
      exact hdiverge.ne (List.cons.inj heq).1
    · obtain ⟨hall, hne'⟩ := ih htail
      exact ⟨List.Forall₂.cons hhead hall, fun heq => hne' (List.cons.inj heq).2⟩

/-- Joined fragments part where the operands do. -/
theorem join_diverges {ps qs : List Predicate} {op : Operator} {p q : Predicate}
    (hps : ∀ r ∈ ps, r.Sound) (hqs : ∀ r ∈ qs, r.Sound) (h : List.Forall₂ Agrees ps qs)
    (hne : ps ≠ qs) (hp : join ps op = .ok p) (hq : join qs op = .ok q) :
    Diverge (shape p.text) (shape q.text) := by
  obtain ⟨hall, heq⟩ := forall₂_filter h
  have hne' : ps.filter (!·.isEmpty) ≠ qs.filter (!·.isEmpty) := fun hf => hne (heq hf)
  have hps' : ∀ r ∈ ps.filter (!·.isEmpty), r.Sound :=
    fun r hr => hps r (List.mem_of_mem_filter hr)
  have hqs' : ∀ r ∈ qs.filter (!·.isEmpty), r.Sound :=
    fun r hr => hqs r (List.mem_of_mem_filter hr)
  unfold join at hp hq
  generalize ps.filter (!·.isEmpty) = fs at hall hne' hps' hp
  generalize qs.filter (!·.isEmpty) = gs at hall hne' hqs' hq
  cases hall with
  | nil => exact absurd rfl hne'
  | @cons r t fs gs hrt hrest =>
    cases hrest with
    | nil =>
      obtain rfl : r = p := Except.ok.inj hp
      obtain rfl : t = q := Except.ok.inj hq
      exact hrt.resolve_left fun heq => hne' (by rw [heq])
    | @cons r' t' fs gs hrt' hrest =>
      obtain ⟨rs, hrs, hp⟩ := Result.bind_eq_ok_iff.1 hp
      obtain ⟨ts, hts, hq⟩ := Result.bind_eq_ok_iff.1 hq
      have hrsSound := (enclosedAll_assembles hps' hrs).1
      have htsSound := (enclosedAll_assembles hqs' hts).1
      rw [shape_of_chain hrsSound (glue_operator op) hp,
        shape_of_chain htsSound (glue_operator op) hq, enclosedAll_shapes hps' hrs,
        enclosedAll_shapes hqs' hts]
      obtain ⟨hshapes, hshapesNe⟩ :=
        forall₂_shapes (List.Forall₂.cons hrt (List.Forall₂.cons hrt' hrest)) hne' _ _
      exact Diverge.intercalate hshapes hshapesNe

end Predicate

end DocumentSql

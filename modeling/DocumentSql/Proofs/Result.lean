/-
Results of computations that may fail, taken apart.
-/
import DocumentSql.Error
import Mathlib

namespace DocumentSql.Result

variable {α β : Type}

lemma bind_eq_ok_iff {x : Result α} {f : α → Result β} {b : β} :
    x >>= f = .ok b ↔ ∃ a, x = .ok a ∧ f a = .ok b := by
  cases x with
  | ok a => simp [bind, Except.bind]
  | error e => simp [bind, Except.bind]

/-- A sequence fails with its first part, or with what follows it. -/
lemma bind_eq_error_iff {x : Result α} {f : α → Result β} {err : Error} :
    x >>= f = .error err ↔ x = .error err ∨ ∃ a, x = .ok a ∧ f a = .error err := by
  cases x with
  | ok a => simp [bind, Except.bind]
  | error e => simp [bind, Except.bind]

lemma map_eq_ok_iff {ε : Type} {x : Except ε α} {f : α → β} {b : β} :
    x.map f = .ok b ↔ ∃ a, x = .ok a ∧ f a = b := by
  cases x with
  | ok a => simp [Except.map]
  | error e => simp [Except.map]

/-- What neither a computation nor what follows it fails with, both together do not. -/
lemma bind_ne_error {x : Result α} {f : α → Result β} {err : Error} (hx : x ≠ .error err)
    (hf : ∀ a, x = .ok a → f a ≠ .error err) : x >>= f ≠ .error err := by
  cases x with
  | ok a => exact hf a rfl
  | error e => simpa [bind, Except.bind] using hx

/-- The test that a computation comes to a value is one that can be evaluated. -/
lemma map_eq_ok_of_beq [BEq β] [LawfulBEq β] {x : Result α} {f : α → β} {b : β}
    (h : (match x with
      | .ok a => f a == b
      | .error _ => false) = true) : x.map f = .ok b := by
  cases x with
  | ok a => simpa [Except.map] using h
  | error e => simp at h

/-- A function that goes through a list and answers for each element in turn. -/
lemma forall₂_of_each {f : α → Result β} {g : List α → Result (List β)}
    (hnil : g [] = .ok [])
    (hcons : ∀ x xs, g (x :: xs) = (f x).bind fun y => (g xs).bind fun ys => .ok (y :: ys))
    {xs : List α} {ys : List β} (h : g xs = .ok ys) :
    List.Forall₂ (fun x y => f x = .ok y) xs ys := by
  induction xs generalizing ys with
  | nil =>
    obtain rfl : [] = ys := by simpa [hnil] using h
    exact List.Forall₂.nil
  | cons x xs ih =>
    rw [hcons] at h
    obtain ⟨y, hy, h⟩ := bind_eq_ok_iff.1 h
    obtain ⟨zs, hzs, h⟩ := bind_eq_ok_iff.1 h
    obtain rfl : y :: zs = ys := by simpa using h
    exact List.Forall₂.cons hy (ih hzs)

/-- What relates the answers for related elements relates the lists of answers. -/
lemma forall₂_answers {α' β' : Type} {R : α → α' → Prop} {P : α → β → Prop} {P' : α' → β' → Prop}
    {S : β → β' → Prop} {xs : List α} {xs' : List α'} {ys : List β} {ys' : List β'}
    (h : List.Forall₂ R xs xs') (hys : List.Forall₂ P xs ys) (hys' : List.Forall₂ P' xs' ys')
    (hS : ∀ {x x' y y'}, R x x' → P x y → P' x' y' → S y y') : List.Forall₂ S ys ys' := by
  induction h generalizing ys ys' with
  | nil =>
    cases hys
    cases hys'
    exact .nil
  | cons hx _ ih =>
    cases hys with
    | cons hy hys =>
      cases hys' with
      | cons hy' hys' => exact .cons (hS hx hy hy') (ih hys hys')

/-- Every element of a list is related to one of a related list. -/
lemma exists_of_forall₂ {R : α → β → Prop} {xs : List α} {ys : List β} (h : List.Forall₂ R xs ys)
    {x : α} (hx : x ∈ xs) : ∃ y ∈ ys, R x y := by
  induction h with
  | nil => simp at hx
  | cons hxy _ ih =>
    rcases List.mem_cons.1 hx with rfl | hx
    · exact ⟨_, List.mem_cons_self, hxy⟩
    · obtain ⟨y, hy, hR⟩ := ih hx
      exact ⟨y, List.mem_cons_of_mem _ hy, hR⟩

/-- What holds of everything that an element of a list is related to holds of a related list. -/
lemma forall_of_forall₂ {R : α → β → Prop} {P : β → Prop} {xs : List α} {ys : List β}
    (h : List.Forall₂ R xs ys) (hR : ∀ x ∈ xs, ∀ y, R x y → P y) : ∀ y ∈ ys, P y := by
  induction h with
  | nil => simp
  | cons hxy _ ih =>
    obtain ⟨hfirst, hrest⟩ := List.forall_mem_cons.1 hR
    exact List.forall_mem_cons.2 ⟨hfirst _ hxy, ih hrest⟩

end DocumentSql.Result

/-
Lists of values under names.

Rows, settings, field maps and the registry of functions keep what they hold under names, in the
order in which the names were taken.  Each of them sets a value in the same way: a name that is
there keeps its place, and a new one is added at the end (`Named.Sets`).  The laws of lookup are
those of finite maps.
-/
import Mathlib

namespace DocumentSql.Named

variable {α : Type} {name key : String} {a : α} {m : String × α} {ms : List (String × α)}

lemma lookup_cons (m : String × α) (ms : List (String × α)) (name : String) :
    (m :: ms).lookup name = if name = m.1 then some m.2 else ms.lookup name := by
  rw [List.lookup_cons]
  by_cases h : name = m.1
  · simp [h]
  · rw [if_neg h, beq_eq_false_iff_ne.2 h]

/-- What stands under a name, for the first pair of the name is the one that counts. -/
lemma find?_eq_lookup (ms : List (String × α)) (name : String) :
    (ms.find? (·.1 == name)).map Prod.snd = ms.lookup name := by
  induction ms with
  | nil => rfl
  | cons m ms ih =>
    rw [lookup_cons, ← ih]
    by_cases h : name = m.1
    · simp [h]
    · simp [h, Ne.symm h]

lemma lookup_of_mem (h : (ms.map Prod.fst).Nodup) (hm : m ∈ ms) :
    ms.lookup m.1 = some m.2 := by
  induction ms with
  | nil => simp at hm
  | cons n ms ih =>
    obtain ⟨hnot, hrest⟩ := List.nodup_cons.1 h
    rw [lookup_cons]
    rcases List.mem_cons.1 hm with rfl | hm
    · rw [if_pos rfl]
    · rw [if_neg, ih hrest hm]
      intro heq
      exact hnot (heq ▸ List.mem_map_of_mem hm)

/-- What is left without a name. -/
lemma lookup_filter_ne (ms : List (String × α)) (name key : String) :
    (ms.filter (·.1 != name)).lookup key = if key = name then none else ms.lookup key := by
  induction ms with
  | nil => simp
  | cons m ms ih =>
    rw [List.filter_cons, lookup_cons]
    by_cases hm : m.1 = name
    · rw [if_neg (by simp [hm]), ih]
      by_cases hk : key = name <;> simp [hm, hk]
    · rw [if_pos (by simpa using hm), lookup_cons, ih]
      by_cases hk : key = m.1 <;> simp [hm, hk]

lemma mem_of_lookup (h : ms.lookup name = some a) : (name, a) ∈ ms := by
  obtain ⟨before, after, rfl, -⟩ := List.lookup_eq_some_iff.1 h
  simp

lemma mem_map_fst_of_lookup (h : ms.lookup name = some a) : name ∈ ms.map Prod.fst :=
  List.mem_map_of_mem (mem_of_lookup h)

/-- The function sets what stands under a name. A name that is there keeps its place. -/
structure Sets (put : String → α → List (String × α) → List (String × α)) : Prop where
  nil (name : String) (a : α) : put name a [] = [(name, a)]
  cons (name : String) (a : α) (m : String × α) (ms : List (String × α)) :
    put name a (m :: ms) = if m.1 = name then (name, a) :: ms else m :: put name a ms

namespace Sets

variable {put : String → α → List (String × α) → List (String × α)}

/-- Setting a value changes what stands under its name only. -/
lemma lookup (hput : Sets put) (name : String) (a : α) (ms : List (String × α)) (key : String) :
    (put name a ms).lookup key = if key = name then some a else ms.lookup key := by
  induction ms with
  | nil => rw [hput.nil, lookup_cons]
  | cons m ms ih =>
    rw [hput.cons]
    split
    · next hm =>
      rw [lookup_cons, lookup_cons, hm]
      split <;> rfl
    · next hm =>
      rw [lookup_cons, lookup_cons, ih]
      by_cases h : key = m.1
      · simp [h, hm]
      · simp [h]

lemma mem_map_fst_iff (hput : Sets put) :
    key ∈ (put name a ms).map Prod.fst ↔ key = name ∨ key ∈ ms.map Prod.fst := by
  induction ms with
  | nil => simp [hput.nil]
  | cons m ms ih =>
    rw [hput.cons]
    split
    · next hm => simp [hm]
    · rw [List.map_cons, List.mem_cons, ih, List.map_cons, List.mem_cons]
      tauto

lemma nodup (hput : Sets put) (h : (ms.map Prod.fst).Nodup) (name : String) (a : α) :
    ((put name a ms).map Prod.fst).Nodup := by
  induction ms with
  | nil => simp [hput.nil]
  | cons m ms ih =>
    obtain ⟨hnot, hrest⟩ := List.nodup_cons.1 h
    rw [hput.cons]
    split
    · next hm => exact List.nodup_cons.2 ⟨hm ▸ hnot, hrest⟩
    · next hm =>
      refine List.nodup_cons.2 ⟨?_, ih hrest⟩
      rw [hput.mem_map_fst_iff]
      rintro (heq | hmem)
      · exact hm heq
      · exact hnot hmem

/-- A pair that is there afterwards is the one that was set or was there before. -/
lemma eq_or_mem (hput : Sets put) (h : m ∈ put name a ms) : m = (name, a) ∨ m ∈ ms := by
  induction ms with
  | nil => simpa [hput.nil] using h
  | cons n ms ih =>
    rw [hput.cons] at h
    split at h
    · exact (List.mem_cons.1 h).imp_right (List.mem_cons_of_mem n)
    · rcases List.mem_cons.1 h with rfl | h
      · exact Or.inr List.mem_cons_self
      · exact (ih h).imp_right (List.mem_cons_of_mem n)

/-- A new name is added at the end. -/
lemma of_not_mem (hput : Sets put) (h : name ∉ ms.map Prod.fst) :
    put name a ms = ms ++ [(name, a)] := by
  induction ms with
  | nil => rw [hput.nil, List.nil_append]
  | cons m ms ih =>
    obtain ⟨hne, hrest⟩ : name ≠ m.1 ∧ name ∉ ms.map Prod.fst := by simpa using h
    rw [hput.cons, if_neg (Ne.symm hne), ih hrest, List.cons_append]

end Sets

end DocumentSql.Named

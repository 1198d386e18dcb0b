/-
Texts cut at separators.

Joining the parts of a text gives the text back (`Text.joined_split`), and a text that was joined
from parts without the separator falls into those parts again (`Text.splitAll_intercalate`).
-/
import DocumentSql.Text.Cut
import Mathlib

namespace DocumentSql.Text

variable {sep : Char}

lemma splitAll_of_not_mem {cs : List Char} (h : sep ∉ cs) : splitAll sep cs = [cs] := by
  induction cs with
  | nil => rfl
  | cons c cs ih =>
    have hc : ¬ (c == sep) = true := by
      rintro heq
      exact h (by simp [(beq_iff_eq.1 heq).symm])
    rw [splitAll, if_neg hc, ih fun hm => h (List.mem_cons_of_mem c hm)]

/-- The first part ends at the first separator. -/
lemma splitAll_append_cons {cs : List Char} (h : sep ∉ cs) (ds : List Char) :
    splitAll sep (cs ++ sep :: ds) = cs :: splitAll sep ds := by
  induction cs with
  | nil => simp [splitAll]
  | cons c cs ih =>
    have hc : ¬ (c == sep) = true := by
      rintro heq
      exact h (by simp [(beq_iff_eq.1 heq).symm])
    rw [List.cons_append, splitAll, if_neg hc, ih fun hm => h (List.mem_cons_of_mem c hm)]

/-- What stands behind a text without a separator belongs to the last part. -/
lemma splitAll_append {ds : List Char} (h : sep ∉ ds) (cs : List Char) :
    ∃ parts last, splitAll sep cs = parts ++ [last] ∧
      splitAll sep (cs ++ ds) = parts ++ [last ++ ds] := by
  induction cs with
  | nil => exact ⟨[], [], rfl, splitAll_of_not_mem h⟩
  | cons c cs ih =>
    obtain ⟨parts, last, hcs, happend⟩ := ih
    rw [List.cons_append, splitAll, splitAll, hcs, happend]
    by_cases hc : (c == sep) = true
    · exact ⟨[] :: parts, last, by simp [hc], by simp [hc]⟩
    · cases parts with
      | nil => exact ⟨[], c :: last, by simp [hc], by simp [hc]⟩
      | cons part parts => exact ⟨(c :: part) :: parts, last, by simp [hc], by simp [hc]⟩

/-- Joined parts are found again, when the separator is in none of them. -/
lemma splitAll_intercalate {parts : List (List Char)} (hne : parts ≠ [])
    (h : ∀ part ∈ parts, sep ∉ part) : splitAll sep (List.intercalate [sep] parts) = parts := by
  induction parts with
  | nil => exact absurd rfl hne
  | cons part parts ih =>
    have hpart : sep ∉ part := h part (by simp)
    cases parts with
    | nil =>
      rw [List.intercalate_singleton]
      exact splitAll_of_not_mem hpart
    | cons p ps =>
      rw [List.intercalate_cons_cons, List.append_assoc, List.singleton_append,
        splitAll_append_cons hpart, ih (by simp) fun q hq => h q (List.mem_cons_of_mem part hq)]

lemma intercalate_splitAll (sep : Char) (cs : List Char) :
    List.intercalate [sep] (splitAll sep cs) = cs := by
  induction cs with
  | nil => rfl
  | cons c cs ih =>
    have hne := splitAll_ne_nil sep cs
    rw [splitAll]
    cases hsplit : splitAll sep cs with
    | nil => exact absurd hsplit hne
    | cons part parts =>
      rw [hsplit] at ih
      split
      · next hc =>
        obtain rfl : c = sep := by simpa using hc
        rw [List.intercalate_cons_cons, ih]
        rfl
      · cases parts with
        | nil => simpa using ih
        | cons p ps =>
          rw [List.intercalate_cons_cons] at ih ⊢
          rw [List.cons_append, List.cons_append, ih]

/-- The parts of a text make the text. -/
lemma joined_split (sep : Char) (s : String) :
    String.intercalate (String.singleton sep) (split sep s) = s := by
  rw [← String.toList_inj, String.toList_intercalate, split, List.map_map]
  simpa using intercalate_splitAll sep s.toList

end DocumentSql.Text

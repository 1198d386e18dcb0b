/-
Numbering again.

A text falls into the stretches around its placeholders and the placeholders between them
(`FallsInto`, `fallsInto_self`).  Numbering puts other placeholders between the same stretches,
whatever literals, open quotes and other dollar signs stand in them, and the numbered text falls
into the same stretches again (`FallsInto.renumber`).  So the numbers that a text has do not count,
and numbering may be repeated with any offset (`renumber_stable`).
-/
import DocumentSql.Proofs.Sql.Clause

namespace DocumentSql.Sql

/-! ### Stretches and placeholders -/

/-- The stretches of characters in front of, between and behind the placeholders. -/
def stretches : List Token → List (List Char)
  | [] => [[]]
  | .plain c :: ts => (stretches ts).modifyHead (c :: ·)
  | .mark _ :: ts => [] :: stretches ts

/-- The characters of each placeholder. -/
def markTexts : List Token → List (List Char)
  | [] => []
  | .plain _ :: ts => markTexts ts
  | .mark digits :: ts => ('$' :: digits) :: markTexts ts

/-- Stretches with placeholders between them. -/
def interleaved : List (List Char) → List (List Char) → List Char
  | g :: gs, m :: ms => g ++ m ++ interleaved gs ms
  | gs, _ => gs.flatten

/-- A text is read as placeholders between stretches of other characters, and made of them. -/
structure FallsInto (s : String) (gs ms : List (List Char)) : Prop where
  stretches_eq : stretches (tokens s.toList) = gs
  marks_eq : markTexts (tokens s.toList) = ms
  text_eq : s.toList = interleaved gs ms

lemma exists_stretches (ts : List Token) : ∃ g gs, stretches ts = g :: gs := by
  induction ts with
  | nil => exact ⟨[], [], rfl⟩
  | cons t ts ih =>
    obtain ⟨g, gs, heq⟩ := ih
    cases t with
    | plain c => exact ⟨c :: g, gs, by simp [stretches, heq]⟩
    | mark digits => exact ⟨[], g :: gs, by simp [stretches, heq]⟩

lemma interleaved_stretches (ts : List Token) :
    interleaved (stretches ts) (markTexts ts) = ts.flatMap Token.chars := by
  induction ts with
  | nil => rfl
  | cons t ts ih =>
    cases t with
    | plain c =>
      -- the character goes in front of the first stretch, with or without placeholders behind it
      obtain ⟨g, gs, heq⟩ := exists_stretches ts
      rw [List.flatMap_cons, ← ih]
      cases hmarks : markTexts ts <;>
        simp [stretches, markTexts, heq, hmarks, interleaved, Token.chars]
    | mark digits => simp [stretches, markTexts, interleaved, Token.chars, ih]

/-- Every text falls into the parts that it is read into. -/
lemma fallsInto_self (s : String) :
    FallsInto s (stretches (tokens s.toList)) (markTexts (tokens s.toList)) := by
  refine ⟨rfl, rfl, ?_⟩
  rw [interleaved_stretches, tokens_eq_scan, flatMap_chars_scan (by decide)]

lemma length_markTexts (ts : List Token) :
    (markTexts ts).length = ts.countP Token.isMark := by
  induction ts with
  | nil => rfl
  | cons t ts ih => cases t <;> simp [markTexts, ih, List.countP_cons]

lemma FallsInto.length_marks {s : String} {gs ms : List (List Char)} (h : FallsInto s gs ms) :
    ms.length = countPlaceholders s := by
  rw [← h.marks_eq, length_markTexts, countPlaceholders]

/-! ### Numbering -/

/-- The placeholders of a number of parameters behind others. -/
def numberedMarks (n k : ℕ) : List (List Char) :=
  (List.range k).map fun i => ("$" ++ toString (n + (i + 1))).toList

lemma stretches_numbered (n : ℕ) (ts : List Token) :
    stretches (numbered n ts) = stretches ts := by
  induction ts generalizing n with
  | nil => rfl
  | cons t ts ih => cases t <;> simp [numbered, stretches, ih]

lemma numberedMarks_succ (n k : ℕ) :
    numberedMarks n (k + 1) = ('$' :: Nat.toDigits 10 (n + 1)) :: numberedMarks (n + 1) k := by
  have hfirst : ("$" ++ toString (n + 1)).toList = '$' :: Nat.toDigits 10 (n + 1) := by
    rw [← Renumbers.ofList_cons_toDigits, String.toList_ofList]
  rw [numberedMarks, List.range_succ_eq_map, List.map_cons, List.map_map, Nat.zero_add, hfirst]
  congr 1
  refine List.map_congr_left fun i _ => ?_
  rw [Function.comp_apply, Nat.add_assoc, Nat.add_comm 1]

lemma markTexts_numbered (n : ℕ) (ts : List Token) :
    markTexts (numbered n ts) = numberedMarks n (ts.countP Token.isMark) := by
  induction ts generalizing n with
  | nil => rfl
  | cons t ts ih =>
    cases t with
    | plain c => simpa [numbered, markTexts] using ih n
    | mark digits =>
      rw [List.countP_cons_of_pos rfl, numberedMarks_succ, numbered, markTexts, ih]

/-- Numbering a text leaves its stretches, and nothing but its placeholders is written anew. -/
lemma FallsInto.renumber {s : String} {gs ms : List (List Char)} (h : FallsInto s gs ms) (n : ℕ) :
    FallsInto (renumber s n) gs (numberedMarks n ms.length) := by
  have hself := fallsInto_self (Sql.renumber s n)
  rw [tokens_renumber, stretches_numbered, markTexts_numbered, h.stretches_eq] at hself
  rwa [h.length_marks]

/-- Numbering keeps the number of placeholders, and numbering a numbered text is numbering the text
itself. Behind `a` parameters the placeholders become `$(a + 1)`, `$(a + 2)` and so on, between the
stretches that were around them before and that are around them when the text is read again. -/
theorem renumber_stable (s : String) (a b : ℕ) :
    countPlaceholders (renumber s a) = countPlaceholders s ∧
      renumber (renumber s a) b = renumber s b ∧
      ∃ gs ms, ms.length = countPlaceholders s ∧ FallsInto s gs ms ∧
        FallsInto (renumber s a) gs
          ((List.range (countPlaceholders s)).map fun i =>
            ("$" ++ toString (a + (i + 1))).toList) := by
  have hself := fallsInto_self s
  have hnumbered := hself.renumber a
  rw [hself.length_marks] at hnumbered
  exact ⟨countPlaceholders_renumber s a, renumber_renumber s a b, _, _, hself.length_marks, hself,
    hnumbered⟩

example : renumber "a = $ OR $9 < '$' || 'it''s $' || $x || $1y OR 'b = $7" 2 =
    "a = $3 OR $4 < '$' || 'it''s $' || $x || $1y OR 'b = $5" := by
  decide +kernel

end DocumentSql.Sql

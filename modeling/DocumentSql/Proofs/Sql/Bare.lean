/-
Texts without the numbers of their placeholders.

Numbering the placeholders of a text changes digits behind dollar signs only, whatever its
literals are.  So without such digits a fragment reads the same alone and inside of what is built
of it, and what is built has the texts of its fragments, one by one.
-/
import DocumentSql.Proofs.Result
import DocumentSql.Proofs.Sql.Fragment
import DocumentSql.Proofs.Sql.Grammar

namespace DocumentSql

namespace Sql

/-- The text without the digits behind dollar signs; the flag says that one stands before it. -/
def bareFrom (behindDollar : Bool) : List Char → List Char
  | [] => []
  | c :: cs =>
    if behindDollar && Text.isDigit c then bareFrom true cs else c :: bareFrom (c == '$') cs

/-- The characters of a text without the numbers of its placeholders. -/
def bare (s : String) : List Char := bareFrom false s.toList

lemma bareFrom_cons_of_not_digit {c : Char} (hc : Text.isDigit c = false) (b : Bool)
    (cs : List Char) : bareFrom b (c :: cs) = c :: bareFrom (c == '$') cs := by
  rw [bareFrom, hc, Bool.and_false, if_neg Bool.false_ne_true]

/-- What stands behind a character that is no digit does not depend on what stands before it. -/
lemma bareFrom_append_cons {c : Char} (hc : Text.isDigit c = false) (b : Bool)
    (as bs : List Char) :
    bareFrom b (as ++ c :: bs) = bareFrom b as ++ c :: bareFrom (c == '$') bs := by
  induction as generalizing b with
  | nil => exact bareFrom_cons_of_not_digit hc b bs
  | cons a as ih =>
    rw [List.cons_append, bareFrom, bareFrom]
    split
    · exact ih true
    · rw [ih, List.cons_append]

/-- A text without dollar signs has no placeholders. -/
lemma bareFrom_append_of_no_dollar {as : List Char} (h : '$' ∉ as) (bs : List Char) :
    bareFrom false (as ++ bs) = as ++ bareFrom false bs := by
  induction as with
  | nil => rfl
  | cons a as ih =>
    have ha : (a == '$') = false := by
      rw [beq_eq_false_iff_ne]
      rintro rfl
      simp at h
    rw [List.cons_append, bareFrom, Bool.false_and, if_neg Bool.false_ne_true, ha,
      ih fun hmem => h (List.mem_cons_of_mem a hmem), List.cons_append]

lemma bareFrom_digits_append {digits : List Char} (h : ∀ d ∈ digits, Text.isDigit d = true)
    (cs : List Char) : bareFrom true (digits ++ cs) = bareFrom true cs := by
  induction digits with
  | nil => rfl
  | cons d digits ih =>
    rw [List.cons_append, bareFrom, h d List.mem_cons_self, Bool.and_true, if_pos rfl,
      ih fun e he => h e (List.mem_cons_of_mem d he)]

lemma isDigit_dollar : Text.isDigit '$' = false := by decide

/-- The numbers of placeholders consist of digits. -/
lemma digits_of_mem_scan {m : Mode} {cs digits : List Char} (h : .mark digits ∈ scan m cs) :
    ∀ d ∈ digits, Text.isDigit d = true := by
  induction cs generalizing m with
  | nil => simp at h
  | cons c cs ih =>
    rw [scan_cons, List.mem_append] at h
    rcases h with h | h
    · unfold step at h
      split at h
      · simp at h
      · split at h
        · simp at h
        · split at h
          · simp at h
          · split at h
            · split at h
              · next digits' hmark =>
                obtain rfl : digits = digits' := by simpa using h
                rw [markDigits?_eq_takeWhile hmark]
                exact fun d hd => List.mem_takeWhile_imp hd
              · simp at h
            · simp at h
    · exact ih h

lemma bareFrom_numbered {ts : List Token}
    (h : ∀ digits, .mark digits ∈ ts → ∀ d ∈ digits, Text.isDigit d = true) (b : Bool) (n : ℕ) :
    bareFrom b ((numbered n ts).flatMap Token.chars) = bareFrom b (ts.flatMap Token.chars) := by
  induction ts generalizing b n with
  | nil => rfl
  | cons t ts ih =>
    have hrest := ih fun digits hmem => h digits (List.mem_cons_of_mem t hmem)
    cases t with
    | plain c =>
      rw [numbered, List.flatMap_cons, List.flatMap_cons]
      simp only [Token.chars, List.singleton_append]
      rw [bareFrom, bareFrom, hrest, hrest]
    | mark digits =>
      rw [numbered, List.flatMap_cons, List.flatMap_cons]
      simp only [Token.chars, List.cons_append]
      rw [bareFrom_cons_of_not_digit isDigit_dollar, bareFrom_cons_of_not_digit isDigit_dollar,
        beq_self_eq_true, bareFrom_digits_append (fun d => Text.isDigit_of_mem_toDigits),
        bareFrom_digits_append (h digits List.mem_cons_self), hrest]

/-- Numbering the placeholders of a text changes their numbers only. -/
theorem bare_renumber (s : String) (n : ℕ) : bare (renumber s n) = bare s := by
  rw [bare, renumber, String.toList_ofList, render_eq_flatMap, tokens_eq_scan,
    bareFrom_numbered (fun digits hmem => digits_of_mem_scan hmem), flatMap_chars_scan (by decide),
    bare]

lemma isNeutral_of_isDigit {c : Char} (h : Text.isDigit c = true) : isNeutral c = true := by
  simp only [isNeutral, Bool.and_eq_true, bne_iff_ne, and_assoc]
  refine ⟨?_, ?_, ?_, ?_⟩ <;> rintro rfl <;> revert h <;> decide

/-- Parentheses and quotes stay where they are. -/
lemma after_bareFrom (l : Level) (b : Bool) (cs : List Char) :
    l.after (bareFrom b cs) = l.after cs := by
  induction cs generalizing l b with
  | nil => rfl
  | cons c cs ih =>
    rw [bareFrom]
    split
    · next hdigit =>
      have hneutral := isNeutral_of_isDigit (Bool.and_eq_true_iff.1 hdigit).2
      rw [ih, Level.after, Level.next_neutral hneutral, Option.bind_some]
    · rw [Level.after, Level.after]
      cases l.next c with
      | none => rfl
      | some l' => exact ih l' _

lemma wellNested_bare_iff (s : String) : WellNested (bare s) ↔ WellNested s.toList := by
  rw [WellNested, WellNested, bare, after_bareFrom]

end Sql

namespace Predicate

open Sql

lemma bare_of_make {text : String} {params : List Value} {origin : Members} {p : Predicate}
    (h : make text params origin = .ok p) : bare p.text = bare text := by
  obtain ⟨-, rfl⟩ := make_eq_ok_iff.1 h
  exact bare_renumber text 0

lemma wellNested_of_make {text : String} {params : List Value} {origin : Members} {p : Predicate}
    (h : make text params origin = .ok p) (htext : WellNested text.toList) :
    WellNested p.text.toList := by
  rwa [← wellNested_bare_iff, bare_of_make h, wellNested_bare_iff]

lemma bare_eq_nil_iff {s : String} : bare s = [] ↔ s = "" := by
  constructor
  · intro h
    cases hs : s.toList with
    | nil => simpa using hs
    | cons c cs => simp [bare, hs, bareFrom] at h
  · rintro rfl
    rfl

lemma bare_ne_nil_iff {p : Predicate} : bare p.text ≠ [] ↔ p.isEmpty = false := by
  rw [Ne, bare_eq_nil_iff, isEmpty, String.isEmpty_eq_false_iff]

lemma bare_enclosed {p q : Predicate} (h : p.enclosed = .ok q) :
    bare q.text = '(' :: (bare p.text ++ [')']) := by
  rw [bare_of_make h]
  have hopen : Text.isDigit '(' = false := by decide
  have hclose : Text.isDigit ')' = false := by decide
  have htext : ("(" ++ p.text ++ ")").toList = '(' :: (p.text.toList ++ ')' :: []) := by simp
  rw [bare, htext, bareFrom_cons_of_not_digit hopen, bareFrom_append_cons hclose]
  rfl

/-- The text separates what stands around it: it begins with a character that is no digit, and
holds no dollar sign. -/
def Separates (sep : String) : Prop :=
  (∃ c ∈ sep.toList.head?, Text.isDigit c = false) ∧ '$' ∉ sep.toList

lemma bare_append_append {sep : String} (hsep : Separates sep) (s t : String) :
    bare (s ++ sep ++ t) = bare s ++ sep.toList ++ bare t := by
  obtain ⟨⟨c, hc, hdigit⟩, hdollar⟩ := hsep
  obtain ⟨cs, hcs⟩ : ∃ cs, sep.toList = c :: cs := by
    cases hlist : sep.toList with
    | nil => simp [hlist] at hc
    | cons d ds =>
      obtain rfl : d = c := by simpa [hlist] using hc
      exact ⟨ds, rfl⟩
  rw [hcs, List.mem_cons, not_or] at hdollar
  rw [bare, String.toList_append, String.toList_append, hcs, List.append_assoc, List.cons_append,
    bareFrom_append_cons hdigit, beq_eq_false_iff_ne.2 (Ne.symm hdollar.1),
    bareFrom_append_of_no_dollar hdollar.2, bare, bare]
  simp

lemma bare_intercalate {sep : String} (hsep : Separates sep) (ss : List String) :
    bare (String.intercalate sep ss) = sep.toList.intercalate (ss.map bare) := by
  induction ss with
  | nil => rfl
  | cons s ss ih =>
    cases ss with
    | nil => simp [List.intercalate]
    | cons t ss =>
      rw [String.intercalate_cons_cons, List.map_cons, List.map_cons, List.intercalate_cons_cons,
        ← List.map_cons, ← ih, bare_append_append hsep]

lemma bare_shifted (p : Predicate) (n : ℕ) : bare (p.shifted n) = bare p.text :=
  bare_renumber p.text n

lemma map_bare_shiftedTexts (n : ℕ) (ps : List Predicate) :
    (shiftedTexts n ps).map bare = ps.map fun p => bare p.text := by
  induction ps generalizing n with
  | nil => rfl
  | cons p ps ih => rw [shiftedTexts, List.map_cons, List.map_cons, bare_shifted, ih]

/-- Fragments one behind the other, with a separator between them. -/
lemma bare_chain {ps : List Predicate} {sep : String} {q : Predicate} (hsep : Separates sep)
    (h : chain ps sep = .ok q) :
    bare q.text = sep.toList.intercalate
      ((ps.filter (!·.isEmpty)).map fun p => bare p.text) := by
  rw [bare_of_make h, bare_intercalate hsep, map_bare_shiftedTexts]

lemma enclosedAll_bare {ps qs : List Predicate} (h : enclosedAll ps = .ok qs) :
    qs.filter (!·.isEmpty) = qs ∧
      qs.map (fun q => bare q.text) = ps.map fun p => parenthesized (bare p.text) := by
  have heach := forall₂_enclosedAll h
  clear h
  induction heach with
  | nil => exact ⟨rfl, rfl⟩
  | @cons p q ps qs hq _ ih =>
    obtain ⟨hfilter, hmap⟩ := ih
    constructor
    · rw [List.filter_cons_of_pos (by simp [isEmpty_enclosed hq]), hfilter]
    · rw [List.map_cons, List.map_cons, bare_enclosed hq, hmap]
      rfl

/-- Several fragments joined are put in parentheses, with the operator between them. -/
theorem bare_join {ps : List Predicate} {op : Operator} {q : Predicate}
    (hps : 2 ≤ (ps.filter (!·.isEmpty)).length) (h : join ps op = .ok q) :
    bare q.text = (separator op).intercalate
      ((ps.filter (!·.isEmpty)).map fun p => parenthesized (bare p.text)) := by
  unfold join at h
  split at h
  · next hnil => simp [hnil] at hps
  · next p hone => simp [hone] at hps
  · obtain ⟨qs, hqs, h⟩ := Result.bind_eq_ok_iff.1 h
    obtain ⟨hfilter, hmap⟩ := enclosedAll_bare hqs
    have hsep : Separates (" " ++ op.name ++ " ") := by
      cases op <;> exact ⟨⟨' ', rfl, by decide⟩, by decide⟩
    rw [bare_chain hsep h, hfilter, hmap]
    cases op <;> rfl

/-! ### Parts of a statement -/

/-- The text of a part, without the numbers of its placeholders. -/
def Part.bare : Part → List Char
  | text s => Sql.bare s
  | predicate p => Sql.bare p.text

lemma Part.bare_of_toPredicate {part : Part} {p : Predicate} (h : part.toPredicate = .ok p) :
    Sql.bare p.text = part.bare := by
  cases part with
  | text s => exact bare_of_make h
  | predicate q =>
    obtain rfl := Except.ok.inj h
    rfl

/-- The texts of the parts that are not empty. -/
def bareParts (parts : List Part) : List (List Char) := (parts.map Part.bare).filter (· ≠ [])

lemma bareParts_append (as bs : List Part) :
    bareParts (as ++ bs) = bareParts as ++ bareParts bs := by
  simp [bareParts]

lemma bareParts_of_ofParts {parts : List Part} {ps : List Predicate} (h : ofParts parts = .ok ps) :
    (ps.filter (!·.isEmpty)).map (fun p => bare p.text) = bareParts parts := by
  have heach := forall₂_ofParts h
  clear h
  induction heach with
  | nil => rfl
  | @cons part p parts ps hp _ ih =>
    have hbare := Part.bare_of_toPredicate hp
    by_cases hempty : p.isEmpty = true
    · have hnil : part.bare = [] := by
        rw [← hbare, bare_eq_nil_iff]
        simpa [isEmpty] using hempty
      rw [List.filter_cons_of_neg (by simp [hempty]), ih, bareParts, bareParts, List.map_cons,
        List.filter_cons_of_neg (by simp [hnil])]
    · have hne : part.bare ≠ [] := by
        rw [← hbare, bare_ne_nil_iff]
        simpa using hempty
      rw [List.filter_cons_of_pos (by simp [hempty]), List.map_cons, ih, bareParts, bareParts,
        List.map_cons, List.filter_cons_of_pos (by simp [hne]), hbare]

/-- Parts one behind the other, with blanks between them. -/
lemma bare_concat {parts : List Part} {q : Predicate} (h : concat parts " " = .ok q) :
    bare q.text = [' '].intercalate (bareParts parts) := by
  obtain ⟨ps, hps, h⟩ := Result.bind_eq_ok_iff.1 h
  have hsep : Separates " " := ⟨⟨' ', rfl, by decide⟩, by decide⟩
  rw [bare_chain hsep h, bareParts_of_ofParts hps]
  rfl

end Predicate

end DocumentSql

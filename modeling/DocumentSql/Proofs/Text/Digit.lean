/-
Numbers and their digits.

A number is read back from its digits (`Text.digitsValue_toDigits`), zeros in front of digits do
not count, and each zero behind them multiplies by ten.  What is read of digits stops at the first
character that is none (`Text.takeWhile_append_of_head`).  Digits are word characters
(`Text.isWord_of_isDigit`).
-/
import DocumentSql.Text.Digit
import DocumentSql.Text.Word
import Mathlib

namespace DocumentSql.Text

variable {as bs : List Char}

/-! ### Prefixes -/

/-- A prefix of characters of one kind ends in front of a character of another kind. -/
lemma takeWhile_append_of_head {p : Char → Bool} (has : ∀ c ∈ as, p c = true)
    (hbs : ∀ c ∈ bs.head?, p c = false) : (as ++ bs).takeWhile p = as := by
  rw [List.takeWhile_append_of_pos has]
  cases bs with
  | nil => simp
  | cons b bs => simp [hbs b (by simp)]

lemma dropWhile_append_of_head {p : Char → Bool} (has : ∀ c ∈ as, p c = true)
    (hbs : ∀ c ∈ bs.head?, p c = false) : (as ++ bs).dropWhile p = bs := by
  rw [List.dropWhile_append_of_pos has]
  cases bs with
  | nil => simp
  | cons b bs => simp [hbs b (by simp)]

/-! ### Digits among the word characters -/

/-- Every run of decimal digits lies in a run of word characters. -/
lemma exists_wordRange : ∀ z ∈ digitZeros, ∃ r ∈ wordRanges, r.1 ≤ z ∧ z + 9 ≤ r.2 := by
  decide +kernel

/-- A decimal digit is a word character, in any script. -/
lemma isWord_of_isDigit {c : Char} (h : isDigit c = true) : isWord c = true := by
  unfold isDigit digitValue? at h
  cases ha : isAscii c with
  | true =>
    have hdigit : c.isDigit = true := by
      by_contra hd
      simp [ha, hd] at h
    rw [isWord, inClass_of_isAscii ha]
    simp [Char.isAlphanum, hdigit]
  | false =>
    have hfound : (digitZeros.find? fun z => z ≤ c.toNat && c.toNat < z + 10).isSome = true := by
      simpa [ha] using h
    obtain ⟨z, hz, hrange⟩ := List.find?_isSome.1 hfound
    obtain ⟨r, hr, hle, hge⟩ := exists_wordRange z hz
    simp only [Bool.and_eq_true, decide_eq_true_eq] at hrange
    rw [isWord, inClass, ha, if_neg Bool.false_ne_true, within, List.any_eq_true]
    refine ⟨r, hr, ?_⟩
    simp only [Bool.and_eq_true, decide_eq_true_eq]
    omega

/-! ### Digits of ASCII -/

lemma isAscii_of_isDigit {c : Char} (h : c.isDigit = true) : isAscii c = true := by
  simp only [Char.isDigit, Bool.and_eq_true, decide_eq_true_eq] at h
  have hle : c.val.toNat ≤ 57 := by simpa using UInt32.le_iff_toNat_le.1 h.2
  simp only [isAscii, decide_eq_true_eq, Char.toNat]
  omega

lemma isDigit_of_mem_toDigits {n : ℕ} {c : Char} (h : c ∈ Nat.toDigits 10 n) :
    isDigit c = true := by
  have hd : c.isDigit = true := Nat.isDigit_of_mem_toDigits (by omega) (by omega) h
  exact isDigit_of_ascii (isAscii_of_isDigit hd) hd

/-- All characters are digits of ASCII. -/
def AllDigits (cs : List Char) : Prop := ∀ c ∈ cs, c.isDigit = true

lemma allDigits_toDigits (n : ℕ) : AllDigits (Nat.toDigits 10 n) := fun _ h =>
  Nat.isDigit_of_mem_toDigits (by omega) (by omega) h

lemma AllDigits.append (ha : AllDigits as) (hb : AllDigits bs) : AllDigits (as ++ bs) := by
  intro c hc
  rcases List.mem_append.1 hc with h | h
  · exact ha c h
  · exact hb c h

lemma allDigits_zeros (k : ℕ) : AllDigits (List.replicate k '0') := by
  intro c hc
  obtain rfl := List.eq_of_mem_replicate hc
  rfl

/-- The first digit of a positive number is not a zero. -/
lemma head?_toDigits {n : ℕ} (hn : 0 < n) : ∀ c ∈ (Nat.toDigits 10 n).head?, c ≠ '0' := by
  induction n using Nat.strong_induction_on with
  | _ n ih =>
    rcases Nat.lt_or_ge n 10 with hlt | hge
    · rw [Nat.toDigits_of_lt_base hlt]
      intro c hc
      obtain rfl : n.digitChar = c := by simpa using hc
      interval_cases n <;> decide
    · have hpos : 0 < n / 10 := Nat.div_pos hge (by omega)
      have hne : Nat.toDigits 10 (n / 10) ≠ [] := Nat.toDigits_ne_nil
      rw [Nat.toDigits_of_base_le (by omega) hge, List.head?_append_of_ne_nil _ hne]
      exact ih (n / 10) (by omega) hpos

/-! ### The value of digits -/

lemma digitsValue_eq_ofDigitChars (h : AllDigits as) (n : ℕ) :
    digitsValue n as = Nat.ofDigitChars 10 as n := by
  induction as generalizing n with
  | nil => rfl
  | cons c cs ih =>
    have hc := h c (by simp)
    rw [Nat.ofDigitChars_cons, ← ih fun d hd => h d (by simp [hd])]
    simp [digitsValue, digitValue?, isAscii_of_isDigit hc, hc]

/-- A number is read back from its digits. -/
lemma digitsValue_toDigits (n : ℕ) : digitsValue 0 (Nat.toDigits 10 n) = n := by
  rw [digitsValue_eq_ofDigitChars (allDigits_toDigits n),
    Nat.ofDigitChars_toDigits (by omega) (by omega)]

lemma digitsValue_append (n : ℕ) (as bs : List Char) :
    digitsValue n (as ++ bs) = digitsValue (digitsValue n as) bs := List.foldl_append

lemma digitsValue_zeros (n k : ℕ) : digitsValue n (List.replicate k '0') = n * 10 ^ k := by
  rw [digitsValue_eq_ofDigitChars (allDigits_zeros k), Nat.ofDigitChars_replicate_zero, mul_comm]

lemma digitsValue_zeros_append (k : ℕ) (bs : List Char) :
    digitsValue 0 (List.replicate k '0' ++ bs) = digitsValue 0 bs := by
  rw [digitsValue_append, digitsValue_zeros, zero_mul]

end DocumentSql.Text

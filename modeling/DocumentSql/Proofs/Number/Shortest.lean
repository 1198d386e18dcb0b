/-
The shortest decimal of a double reads back.

What a decimal is read as depends on its value only, not on how the coefficient and the exponent
share it (`ofDecimal_congr`).  The cut-offs at four hundred digits do not matter: decimals that are
read as a finite number other than zero stay far away from them, as long as the coefficient has not
thousands of digits.  The decimal that `Binary.shortestDigits` finds was seen to read back, and the
exact one, which it falls back on, does so because a number of the format is rounded to itself
(`exists_shortestDigits`).
-/
import DocumentSql.Number.Shortest
import DocumentSql.Proofs.Number.Rounding
import DocumentSql.Proofs.Text.Digit

namespace DocumentSql

namespace BinaryFormat

variable {c c' m : ℕ} {e e' x : ℤ}

/-! ### The size of a decimal -/

/-- About the number of digits in front of the point. -/
def decimalSize (c : ℕ) (e : ℤ) : ℤ := (c.log2 * 3 / 10 : ℕ) + e

lemma ten_pow_le_two_pow (k : ℕ) : 10 ^ (k * 3 / 10) ≤ 2 ^ k := by
  refine (Nat.pow_le_pow_iff_left (n := 10) (by omega)).1 ?_
  calc (10 ^ (k * 3 / 10)) ^ 10 = 10 ^ (k * 3 / 10 * 10) := by rw [← pow_mul]
    _ ≤ 10 ^ (k * 3) := Nat.pow_le_pow_right (by omega) (Nat.div_mul_le_self _ _)
    _ = 1000 ^ k := by rw [mul_comm, pow_mul]; norm_num
    _ ≤ 1024 ^ k := Nat.pow_le_pow_left (by omega) k
    _ = (2 ^ k) ^ 10 := by rw [← pow_mul, mul_comm, pow_mul]; norm_num

/-- Ten binary digits are worth a little more than three decimal ones. -/
lemma pow_1024_le {a : ℕ} (ha : a ≤ 600) : 1024 ^ a ≤ 10 ^ 7 * 1000 ^ a := by
  have hratio : (1024 / 1000 : ℚ) ^ a ≤ 10 ^ 7 := by
    calc (1024 / 1000 : ℚ) ^ a ≤ (1024 / 1000) ^ (100 * 6) :=
          pow_le_pow_right₀ (by norm_num) ha
      _ = ((1024 / 1000) ^ 100) ^ 6 := pow_mul _ _ _
      _ ≤ 11 ^ 6 := pow_le_pow_left₀ (by positivity) (by norm_num) 6
      _ ≤ 10 ^ 7 := by norm_num
  rw [div_pow, div_le_iff₀ (by positivity)] at hratio
  exact_mod_cast hratio

lemma two_pow_le_ten_pow {k : ℕ} (hk : k ≤ 6000) : 2 ^ (k + 1) ≤ 10 ^ (k * 3 / 10 + 11) := by
  obtain ⟨a, b, hb, rfl⟩ : ∃ a b, b < 10 ∧ k = 10 * a + b :=
    ⟨k / 10, k % 10, Nat.mod_lt _ (by omega), by omega⟩
  calc 2 ^ (10 * a + b + 1) = 1024 ^ a * 2 ^ (b + 1) := by
        rw [add_assoc, pow_add, pow_mul]
        norm_num
    _ ≤ 10 ^ 7 * 1000 ^ a * 2 ^ 10 :=
        Nat.mul_le_mul (pow_1024_le (by omega)) (Nat.pow_le_pow_right (by omega) (by omega))
    _ ≤ 10 ^ 11 * 10 ^ (3 * a) := by
        rw [pow_mul]
        norm_num
        omega
    _ = 10 ^ (3 * a + 11) := by rw [← pow_add, add_comm]
    _ ≤ 10 ^ ((10 * a + b) * 3 / 10 + 11) := Nat.pow_le_pow_right (by omega) (by omega)

lemma ten_zpow_decimalSize (c : ℕ) (e : ℤ) :
    (10 : ℚ) ^ decimalSize c e = (10 ^ (c.log2 * 3 / 10) : ℕ) * 10 ^ e := by
  rw [decimalSize, zpow_add₀ (by norm_num), zpow_natCast]
  push_cast
  rfl

lemma ten_zpow_decimalSize_le (hc : 0 < c) (e : ℤ) :
    (10 : ℚ) ^ decimalSize c e ≤ c * 10 ^ e := by
  rw [ten_zpow_decimalSize]
  have hle : 10 ^ (c.log2 * 3 / 10) ≤ c :=
    (ten_pow_le_two_pow _).trans (Nat.log2_self_le hc.ne')
  exact mul_le_mul_of_nonneg_right (by exact_mod_cast hle) (by positivity)

lemma lt_ten_zpow_decimalSize (hc : c.log2 ≤ 6000) (e : ℤ) :
    (c : ℚ) * 10 ^ e < 10 ^ (decimalSize c e + 11) := by
  have hlt : c < 10 ^ (c.log2 * 3 / 10 + 11) := Nat.lt_log2_self.trans_le (two_pow_le_ten_pow hc)
  calc (c : ℚ) * 10 ^ e < (10 ^ (c.log2 * 3 / 10 + 11) : ℕ) * 10 ^ e :=
        mul_lt_mul_of_pos_right (by exact_mod_cast hlt) (by positivity)
    _ = 10 ^ (decimalSize c e + 11) := by
        rw [zpow_add₀ (by norm_num), ten_zpow_decimalSize, pow_add]
        push_cast
        rw [mul_right_comm]

/-- The range of doubles in powers of ten. -/
lemma two_zpow_bounds :
    (10 : ℚ) ^ (-380 : ℤ) < 2 ^ (-1075 : ℤ) ∧ (2 : ℚ) ^ (1024 : ℤ) < 10 ^ (400 : ℤ) := by
  have hpow : ∀ k ≤ 6000, (2 : ℚ) ^ (k + 1) ≤ 10 ^ (k * 3 / 10 + 11) := fun k hk => by
    exact_mod_cast two_pow_le_ten_pow hk
  have hlow : (2 : ℚ) ^ 1075 ≤ 10 ^ 333 := hpow 1074 (by omega)
  have hhigh : (2 : ℚ) ^ 1024 ≤ 10 ^ 317 := hpow 1023 (by omega)
  have hinv : ∀ j k : ℕ, (2 : ℚ) ^ k < 10 ^ j → (10 : ℚ) ^ (-(j : ℤ)) < 2 ^ (-(k : ℤ)) := by
    intro j k h
    rw [zpow_neg, zpow_neg, zpow_natCast, zpow_natCast]
    exact inv_strictAnti₀ (by positivity) h
  constructor
  · exact hinv 380 1075 (hlow.trans_lt (pow_lt_pow_right₀ (by norm_num) (by omega : 333 < 380)))
  · exact hhigh.trans_lt (pow_lt_pow_right₀ (by norm_num) (by omega : 317 < 400))

/-! ### Reading decimals -/

/-- The decimal is not cut off: it is read as its value is rounded. -/
lemma ofDecimal_eq_round (f : BinaryFormat) (negative : Bool) (hc : 0 < c)
    (hlow : -decimalReach ≤ decimalSize c e) (hhigh : decimalSize c e ≤ decimalReach) :
    ∃ n d : ℕ, 0 < d ∧ (n : ℚ) / d = c * 10 ^ e ∧
      f.ofDecimal negative c e = f.round negative n d := by
  have hc0 : (c == 0) = false := by simpa using hc.ne'
  have hnotHigh : ¬ ((c.log2 * 3 / 10 : ℕ) : ℤ) + e > decimalReach := not_lt.2 hhigh
  have hnotLow : ¬ ((c.log2 * 3 / 10 : ℕ) : ℤ) + e < -decimalReach := not_lt.2 hlow
  rcases lt_or_ge e 0 with hneg | hpos
  · refine ⟨c, 10 ^ e.natAbs, by positivity, ?_, ?_⟩
    · have hexp : e = -(e.natAbs : ℤ) := by omega
      conv_rhs => rw [hexp, zpow_neg, zpow_natCast]
      push_cast
      rw [div_eq_mul_inv]
    · have hno : ¬ e ≥ 0 := not_le.2 hneg
      simp only [ofDecimal, hc0, hnotHigh, hnotLow, hno, Bool.false_eq_true, if_false, Nat.pow_eq]
  · refine ⟨c * 10 ^ e.toNat, 1, one_pos, ?_, ?_⟩
    · have hexp : e = (e.toNat : ℤ) := by omega
      conv_rhs => rw [hexp, zpow_natCast]
      push_cast
      rw [div_one]
    · simp only [ofDecimal, hc0, hnotHigh, hnotLow, ge_iff_le, hpos, Bool.false_eq_true, if_false,
        if_true, Nat.pow_eq]

/-- What is read as a finite number other than zero is not cut off. -/
lemma decimalSize_of_ofDecimal {f : BinaryFormat} {negative : Bool} (hm : 0 < m)
    (h : f.ofDecimal negative c e = .finite negative m x) :
    0 < c ∧ -decimalReach ≤ decimalSize c e ∧ decimalSize c e ≤ decimalReach := by
  have hc : (c == 0) = false := by
    by_contra hc
    simp only [Bool.not_eq_false, beq_iff_eq] at hc
    simp only [ofDecimal, hc, beq_self_eq_true, if_true, Binary.finite.injEq] at h
    omega
  have hhigh : ¬ decimalSize c e > decimalReach := by
    intro hhigh
    rw [decimalSize] at hhigh
    simp only [ofDecimal, hc, hhigh, Bool.false_eq_true, if_true, if_false] at h
    exact Binary.noConfusion h
  have hlow : ¬ decimalSize c e < -decimalReach := by
    intro hlow
    rw [decimalSize] at hlow hhigh
    simp only [ofDecimal, hc, hhigh, hlow, Bool.false_eq_true, if_true, if_false,
      Binary.finite.injEq] at h
    omega
  exact ⟨Nat.pos_of_ne_zero (by simpa using hc), not_lt.1 hlow, not_lt.1 hhigh⟩

/-- A decimal within the range of doubles is not cut off, unless its coefficient has thousands of
digits. -/
lemma decimalSize_of_bounds (hc : 0 < c) (hbits : c.log2 ≤ 6000)
    (hlow : (2 : ℚ) ^ (double.minExponent - 1) ≤ c * 10 ^ e)
    (hhigh : (c : ℚ) * 10 ^ e < 2 ^ (double.maxExponent + double.precision)) :
    -decimalReach ≤ decimalSize c e ∧ decimalSize c e ≤ decimalReach := by
  constructor
  · have hleast : (10 : ℚ) ^ (-380 : ℤ) < 10 ^ (decimalSize c e + 11) := by
      calc (10 : ℚ) ^ (-380 : ℤ) < 2 ^ (double.minExponent - 1) := two_zpow_bounds.1
        _ ≤ c * 10 ^ e := hlow
        _ < 10 ^ (decimalSize c e + 11) := lt_ten_zpow_decimalSize hbits e
    have := (zpow_lt_zpow_iff_right₀ (by norm_num : (1 : ℚ) < 10)).1 hleast
    rw [decimalReach]
    omega
  · have hgreatest : (10 : ℚ) ^ decimalSize c e < 10 ^ (400 : ℤ) := by
      calc (10 : ℚ) ^ decimalSize c e ≤ c * 10 ^ e := ten_zpow_decimalSize_le hc e
        _ < 2 ^ (double.maxExponent + double.precision) := hhigh
        _ < 10 ^ (400 : ℤ) := two_zpow_bounds.2
    have := (zpow_lt_zpow_iff_right₀ (by norm_num : (1 : ℚ) < 10)).1 hgreatest
    rw [decimalReach]
    omega

/-- Decimals of equal value are read as the same double. -/
theorem ofDecimal_congr (hm : 0 < m) (h : double.ofDecimal false c e = .finite false m x)
    (hvalue : (c' : ℚ) * 10 ^ e' = c * 10 ^ e) (hbits : c'.log2 ≤ 6000) (negative : Bool) :
    double.ofDecimal negative c' e' = .finite negative m x := by
  obtain ⟨hc, hlow, hhigh⟩ := decimalSize_of_ofDecimal hm h
  obtain ⟨n, d, hd, hnd, hround⟩ := ofDecimal_eq_round double false hc hlow hhigh
  rw [hround] at h
  obtain ⟨hleast, hgreatest⟩ := bounds_of_round hd hm h
  rw [hnd, ← hvalue] at hleast hgreatest
  have hc' : 0 < c' := by
    have hpos : (0 : ℚ) < c' * 10 ^ e' := (zpow_pos two_pos _).trans_le hleast
    exact_mod_cast pos_of_mul_pos_left hpos (by positivity)
  obtain ⟨hlow', hhigh'⟩ := decimalSize_of_bounds hc' hbits hleast hgreatest
  obtain ⟨n', d', hd', hnd', hround'⟩ := ofDecimal_eq_round double false hc' hlow' hhigh'
  have hsame : double.round false n' d' = .finite false m x := by
    rw [← h]
    exact round_congr double false hd' hd (by rw [hnd', hnd, hvalue])
  obtain ⟨n'', d'', hd'', hnd'', hround''⟩ := ofDecimal_eq_round double negative hc' hlow' hhigh'
  rw [hround'', round_congr double negative hd'' hd' (by rw [hnd'', hnd'])]
  exact round_negative hsame negative

/-- The exact decimal of a double is read as the double. -/
theorem ofDecimal_of_value (hkept : (Binary.finite false m x).IsKept double) (hm : 0 < m)
    (hvalue : (c : ℚ) * 10 ^ e = m * 2 ^ x) (hbits : c.log2 ≤ 6000) :
    double.ofDecimal false c e = .finite false m x := by
  have hnumber := hkept
  obtain ⟨hmbits, hmin, hmax, -⟩ := hkept
  have hmone : (1 : ℚ) ≤ m := by exact_mod_cast hm
  have hc : 0 < c := by
    have hpos : (0 : ℚ) < c * 10 ^ e := hvalue ▸ mul_pos (by linarith) (zpow_pos two_pos x)
    exact_mod_cast pos_of_mul_pos_left hpos (by positivity)
  have hleast : (2 : ℚ) ^ (double.minExponent - 1) ≤ c * 10 ^ e := by
    calc (2 : ℚ) ^ (double.minExponent - 1) ≤ 2 ^ x :=
          zpow_le_zpow_right₀ one_le_two (by omega)
      _ ≤ m * 2 ^ x := le_mul_of_one_le_left (zpow_pos two_pos x).le hmone
      _ = c * 10 ^ e := hvalue.symm
  have hgreatest : (c : ℚ) * 10 ^ e < 2 ^ (double.maxExponent + double.precision) := by
    have hmlt : (m : ℚ) < 2 ^ double.precision := by exact_mod_cast hmbits
    calc (c : ℚ) * 10 ^ e = m * 2 ^ x := hvalue
      _ < 2 ^ double.precision * 2 ^ x := mul_lt_mul_of_pos_right hmlt (zpow_pos two_pos x)
      _ = 2 ^ (x + double.precision) := by
          rw [← zpow_natCast, ← zpow_add₀ two_ne_zero, add_comm]
      _ ≤ 2 ^ (double.maxExponent + double.precision) :=
          zpow_le_zpow_right₀ one_le_two (by omega)
  obtain ⟨hlow, hhigh⟩ := decimalSize_of_bounds hc hbits hleast hgreatest
  obtain ⟨n, d, hd, hnd, hround⟩ := ofDecimal_eq_round double false hc hlow hhigh
  rw [hround]
  exact round_eq_of_value hnumber (by decide) hd (hnd.trans hvalue)

end BinaryFormat

/-! ### The digits of a decimal -/

namespace DecimalDigits

/-- The digits are those of a positive number, without zeros at its ends. -/
structure IsProper (d : DecimalDigits) : Prop where
  allDigits : Text.AllDigits d.digits
  ne_nil : d.digits ≠ []
  head_ne_zero : ∀ c ∈ d.digits.head?, c ≠ '0'

/-- The exponent of the last digit. -/
def lastExponent (d : DecimalDigits) : ℤ := d.point - d.digits.length

/-- The digits of a scaled number are its own, the zeros at the end apart. -/
lemma ofScaled_spec {c : ℕ} (hc : 0 < c) (e : ℤ) :
    (ofScaled c e).IsProper ∧ ∃ k : ℕ, c = Text.digitsValue 0 (ofScaled c e).digits * 10 ^ k ∧
      (ofScaled c e).lastExponent = e + k := by
  set all := Nat.toDigits 10 c with hall
  set kept := (all.reverse.dropWhile (· == '0')).reverse with hkept
  obtain ⟨k, hzeros⟩ : ∃ k, (all.reverse.takeWhile (· == '0')).reverse = List.replicate k '0' := by
    refine ⟨_, List.eq_replicate_of_mem fun d hd => ?_⟩
    simpa using List.mem_takeWhile_imp (List.mem_reverse.1 hd)
  have hsplit : all = kept ++ List.replicate k '0' := by
    rw [hkept, ← hzeros, ← List.reverse_append, List.takeWhile_append_dropWhile,
      List.reverse_reverse]
  have hvalue : c = Text.digitsValue 0 kept * 10 ^ k := by
    rw [← Text.digitsValue_zeros, ← Text.digitsValue_append, ← hsplit, hall,
      Text.digitsValue_toDigits]
  have hne : kept ≠ [] := by
    intro hnil
    rw [hnil] at hvalue
    simp [Text.digitsValue] at hvalue
    omega
  have hofScaled : ofScaled c e = ⟨kept, all.length + e⟩ := rfl
  rw [hofScaled]
  refine ⟨⟨fun d hd => ?_, hne, fun d hd => ?_⟩, k, hvalue, ?_⟩
  · exact Text.allDigits_toDigits c d (by rw [← hall, hsplit]; exact List.mem_append_left _ hd)
  · refine Text.head?_toDigits hc d ?_
    rw [← hall, hsplit, List.head?_append_of_ne_nil _ hne]
    exact hd
  · have hlength : all.length = kept.length + k := by rw [hsplit]; simp
    rw [lastExponent, hlength]
    push_cast
    ring

end DecimalDigits

namespace Binary

open BinaryFormat (double)

variable {m : ℕ} {e : ℤ}

lemma scaleByTwo_up (m k : ℕ) : scaleByTwo m 1 (-(k : ℤ)) = (m * 2 ^ k, 1) := by
  unfold scaleByTwo
  split
  · simp
  · obtain rfl : k = 0 := by omega
    simp

lemma scaleByTwo_down (m k : ℕ) : scaleByTwo m 1 (-(-(k : ℤ))) = (m, 2 ^ k) := by
  rw [neg_neg, scaleByTwo, if_neg (by omega)]
  simp

/-- The first digit of a quotient does not stand farther behind the point than the denominator has
digits. -/
lemma le_decimalPoint {num den k : ℕ} (hden : den < 10 ^ k) (hk : 0 < k) :
    1 - (k : ℤ) ≤ decimalPoint num den := by
  unfold decimalPoint
  split
  · omega
  · have hlength : (Nat.toDigits 10 (den / num)).length ≤ k :=
      (Nat.length_toDigits_le_iff (by omega) hk).2 ((Nat.div_le_self _ _).trans_lt hden)
    dsimp only
    split <;> omega

/-- A decimal that was found reads back, and its coefficient is not too long. -/
lemma readingBack?_eq_some {num den count k : ℕ} {d : DecimalDigits} (hm : 0 < m)
    (hden : den < 10 ^ (k + 1)) (hk : k ≤ 1074) (hcount : count ≤ 17)
    (h : readingBack? double m e num den (decimalPoint num den) count = some d) :
    ∃ c x, 0 < c ∧ d = .ofScaled c x ∧ c.log2 ≤ 5000 ∧
      double.ofDecimal false c x = .finite false m e := by
  obtain ⟨c, hc, rfl⟩ := Option.map_eq_some_iff.1 h
  have hread : double.ofDecimal false c (decimalPoint num den - count) = .finite false m e := by
    simpa using List.find?_some hc
  obtain ⟨hpos, -, hsize⟩ := BinaryFormat.decimalSize_of_ofDecimal hm hread
  refine ⟨c, _, hpos, rfl, ?_, hread⟩
  have hpoint : 1 - ((k + 1 : ℕ) : ℤ) ≤ decimalPoint num den := le_decimalPoint hden (by omega)
  rw [BinaryFormat.decimalSize, BinaryFormat.decimalReach] at hsize
  push_cast at hpoint hsize
  omega

/-- The exact decimal of a double reads back. -/
lemma exact_spec (hkept : (finite false m e).IsKept double) (hm : 0 < m) {c k : ℕ} {x : ℤ}
    (hvalue : (c : ℚ) * 10 ^ x = m * 2 ^ e) (hbound : c < 2 ^ k) (hk : k ≤ 5000) :
    ∃ c' x', 0 < c' ∧ DecimalDigits.ofScaled c x = .ofScaled c' x' ∧ c'.log2 ≤ 5000 ∧
      double.ofDecimal false c' x' = .finite false m e := by
  have hpos : 0 < c := by
    have hm' : (0 : ℚ) < m := by exact_mod_cast hm
    have hc : (0 : ℚ) < c * 10 ^ x := hvalue ▸ mul_pos hm' (zpow_pos two_pos e)
    exact_mod_cast pos_of_mul_pos_left hc (by positivity)
  have hbits : c.log2 < k := (Nat.log2_lt hpos.ne').2 hbound
  exact ⟨c, x, hpos, rfl, by omega, BinaryFormat.ofDecimal_of_value hkept hm hvalue (by omega)⟩

/-- The shortest decimal of a positive double is read as the double. -/
theorem exists_shortestDigits (hkept : (finite false m e).IsKept double) (hm : 0 < m) :
    ∃ c x, 0 < c ∧ shortestDigits double m e = .ofScaled c x ∧ c.log2 ≤ 5000 ∧
      double.ofDecimal false c x = .finite false m e := by
  have hnumber := hkept
  obtain ⟨hbits, hmin, hmax, -⟩ := hkept
  have hmin' : -1074 ≤ e := hmin
  have hmax' : e ≤ 971 := hmax
  have hmlt : m < 2 ^ 53 := hbits
  -- above one the number is a whole one, below it is a quotient by a power of two
  obtain ⟨k, rfl | rfl⟩ := e.eq_nat_or_neg
  · rw [shortestDigits, scaleByTwo_up]
    dsimp only
    cases hfound : (List.range 17).findSome? fun i => readingBack? double m k (m * 2 ^ k) 1
      (decimalPoint (m * 2 ^ k) 1) (i + 1) with
    | some d =>
      obtain ⟨i, hi, hd⟩ := List.exists_of_findSome?_eq_some hfound
      have hi' : i < 17 := List.mem_range.1 hi
      exact readingBack?_eq_some hm (k := 0) (by omega) (by omega) (by omega) hd
    | none =>
      refine exact_spec hnumber hm (c := m * 2 ^ k) (x := 0) (k := 53 + k) ?_ ?_ (by omega)
      · push_cast
        rw [mul_one, zpow_natCast]
      · rw [pow_add]
        exact Nat.mul_lt_mul_of_pos_right hmlt (by positivity)
  · rw [shortestDigits, scaleByTwo_down]
    dsimp only
    have hden : 2 ^ k < 10 ^ (k + 1) :=
      (Nat.pow_le_pow_left (by omega) k).trans_lt (Nat.pow_lt_pow_right (by omega) (by omega))
    cases hfound : (List.range 17).findSome? fun i => readingBack? double m (-(k : ℤ)) m (2 ^ k)
      (decimalPoint m (2 ^ k)) (i + 1) with
    | some d =>
      obtain ⟨i, hi, hd⟩ := List.exists_of_findSome?_eq_some hfound
      have hi' : i < 17 := List.mem_range.1 hi
      exact readingBack?_eq_some hm hden (by omega) (by omega) hd
    | none =>
      rw [Option.getD_none, Int.natAbs_neg, Int.natAbs_natCast]
      split
      · next hone =>
        obtain rfl : k = 0 := by simpa using hone
        exact exact_spec hnumber hm (by simp) hmlt (by omega)
      · refine exact_spec hnumber hm (k := 53 + 3 * k) ?_ ?_ (by omega)
        · have hten : (10 : ℚ) ^ k = 2 ^ k * 5 ^ k := by
            rw [← mul_pow]
            norm_num
          push_cast [Nat.pow_eq]
          rw [zpow_neg, zpow_neg, zpow_natCast, zpow_natCast, hten]
          field_simp
        · rw [pow_add, pow_mul]
          calc m * 5 ^ k < 2 ^ 53 * 5 ^ k := Nat.mul_lt_mul_of_pos_right hmlt (by positivity)
            _ ≤ 2 ^ 53 * (2 ^ 3) ^ k :=
                Nat.mul_le_mul_left _ (Nat.pow_le_pow_left (by omega) _)

end Binary

end DocumentSql

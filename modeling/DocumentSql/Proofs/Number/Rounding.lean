/-
Rounding to a binary format.

What a quotient is rounded to depends on its value only (`BinaryFormat.round_congr`): the exponent
of the last bit is the one for which the mantissa has all bits, or the least one
(`BinaryFormat.exists_exponentOf`), and a quotient of natural numbers is rounded by its value.  A
number of the format is rounded to itself (`BinaryFormat.round_eq_of_value`), and what is rounded
to a finite number other than zero lies between half the least and the greatest number
(`BinaryFormat.bounds_of_round`).
-/
import DocumentSql.Number.Binary
import Mathlib

namespace DocumentSql

/-- The number is finite, and kept as a number of the format: with a mantissa of all bits, or at
the least exponent. -/
def Binary.IsKept (f : BinaryFormat) : Binary → Prop
  | .finite _ m e => m < 2 ^ f.precision ∧ f.minExponent ≤ e ∧ e ≤ f.maxExponent ∧
      (2 ^ (f.precision - 1) ≤ m ∨ e = f.minExponent)
  | _ => False

variable {n d m c : ℕ}

/-! ### Rounded quotients -/

lemma roundQuotient_mul {k : ℕ} (hk : 0 < k) (n d : ℕ) :
    roundQuotient (n * k) (d * k) = roundQuotient n d := by
  have hcompare : 2 * (n % d * k) < d * k ↔ 2 * (n % d) < d := by
    rw [← mul_assoc]
    exact Nat.mul_lt_mul_right hk
  have hequal : 2 * (n % d * k) = d * k ↔ 2 * (n % d) = d := by
    rw [← mul_assoc]
    exact Nat.mul_left_inj hk.ne'
  simp only [roundQuotient, Nat.mul_div_mul_right n d hk, Nat.mul_mod_mul_right, hcompare,
    Bool.or_eq_true, decide_eq_true_eq, Bool.and_eq_true, beq_iff_eq, hequal]

/-- Equal quotients are rounded to the same number. -/
lemma roundQuotient_congr (hd : 0 < d) (hc : 0 < c) (h : (n : ℚ) / d = m / c) :
    roundQuotient n d = roundQuotient m c := by
  have hcross : n * c = m * d := by
    have hd' : (d : ℚ) ≠ 0 := by positivity
    have hc' : (c : ℚ) ≠ 0 := by positivity
    exact_mod_cast (div_eq_div_iff hd' hc').1 h
  rw [← roundQuotient_mul hc n d, ← roundQuotient_mul hd m c, hcross, mul_comm d c]

/-- A quotient that is a natural number is rounded to it. -/
lemma roundQuotient_of_eq (hd : 0 < d) (h : (n : ℚ) / d = m) : roundQuotient n d = m := by
  have hone : roundQuotient m 1 = m := by simp [roundQuotient, Nat.mod_one]
  rw [← hone]
  exact roundQuotient_congr hd one_pos (by simpa using h)

/-- What is rounded to a positive number is at least one half. -/
lemma half_le_of_roundQuotient (hd : 0 < d) (h : 0 < roundQuotient n d) : (1 : ℚ) / 2 ≤ n / d := by
  have hd' : (0 : ℚ) < d := by exact_mod_cast hd
  rw [div_le_div_iff₀ two_pos hd']
  by_contra hlt
  have hsmall : 2 * n < d := by
    have : (2 : ℚ) * n < d := by linarith
    exact_mod_cast this
  have hzero : roundQuotient n d = 0 := by
    have hmod : n % d = n := Nat.mod_eq_of_lt (by omega)
    simp [roundQuotient, Nat.div_eq_of_lt (by omega : n < d), hmod, hsmall]
  omega

/-! ### Scaled quotients -/

lemma scaleByTwo_pos (n : ℕ) (hd : 0 < d) (e : ℤ) : 0 < (scaleByTwo n d e).2 := by
  unfold scaleByTwo
  split
  · exact hd
  · exact Nat.mul_pos hd (Nat.pow_pos two_pos)

/-- Scaling divides the value of a quotient by a power of two. -/
lemma scaleByTwo_value (n d : ℕ) (e : ℤ) :
    ((scaleByTwo n d e).1 : ℚ) / (scaleByTwo n d e).2 = n / d * 2 ^ (-e) := by
  unfold scaleByTwo
  split
  · next hneg =>
    have hexp : -e = (e.natAbs : ℤ) := by omega
    rw [hexp, zpow_natCast]
    push_cast [Nat.pow_eq]
    ring
  · next hpos =>
    have hexp : -e = -(e.toNat : ℤ) := by omega
    rw [hexp, zpow_neg, zpow_natCast]
    push_cast [Nat.pow_eq]
    rw [div_mul_eq_div_div, div_eq_mul_inv (_ / _ : ℚ)]

namespace BinaryFormat

variable {f : BinaryFormat} {q : ℚ} {e e' : ℤ}

/-! ### The exponent of the last bit -/

/-- With this exponent of the last bit the mantissa of the number has all bits. -/
def FillsAt (f : BinaryFormat) (q : ℚ) (e : ℤ) : Prop :=
  (2 : ℚ) ^ (e + f.precision - 1) ≤ q ∧ q < 2 ^ (e + f.precision)

lemma FillsAt.le (h : f.FillsAt q e) (h' : f.FillsAt q e') : e ≤ e' := by
  have hlt : (2 : ℚ) ^ (e + f.precision - 1) < 2 ^ (e' + f.precision) := h.1.trans_lt h'.2
  have hexp := (zpow_lt_zpow_iff_right₀ (one_lt_two (α := ℚ))).1 hlt
  omega

lemma FillsAt.unique (h : f.FillsAt q e) (h' : f.FillsAt q e') : e = e' :=
  le_antisymm (h.le h') (h'.le h)

/-- A number lies between the powers of two at its logarithm. -/
lemma log2_bounds (hn : 0 < n) :
    (2 : ℚ) ^ (n.log2 : ℤ) ≤ n ∧ (n : ℚ) < 2 ^ ((n.log2 : ℤ) + 1) := by
  obtain ⟨hlow, hhigh⟩ := (Nat.log2_eq_iff hn.ne').1 rfl
  constructor
  · rw [zpow_natCast]
    exact_mod_cast hlow
  · have hcast : ((n.log2 : ℤ) + 1) = ((n.log2 + 1 : ℕ) : ℤ) := by push_cast; rfl
    rw [hcast, zpow_natCast]
    exact_mod_cast hhigh

/-- The first guess is right or one too small. -/
lemma guess_bounds (hn : 0 < n) (hd : 0 < d) :
    (2 : ℚ) ^ ((n.log2 : ℤ) - d.log2 - 1) ≤ n / d ∧
      (n : ℚ) / d < 2 ^ ((n.log2 : ℤ) - d.log2 + 1) := by
  obtain ⟨hnlow, hnhigh⟩ := log2_bounds hn
  obtain ⟨hdlow, hdhigh⟩ := log2_bounds hd
  have hd' : (0 : ℚ) < d := by exact_mod_cast hd
  have hpow : ∀ k : ℤ, (0 : ℚ) < 2 ^ k := fun k => zpow_pos two_pos k
  constructor
  · rw [le_div_iff₀ hd']
    calc (2 : ℚ) ^ ((n.log2 : ℤ) - d.log2 - 1) * d
        ≤ 2 ^ ((n.log2 : ℤ) - d.log2 - 1) * 2 ^ ((d.log2 : ℤ) + 1) := by
          exact mul_le_mul_of_nonneg_left hdhigh.le (hpow _).le
      _ = 2 ^ (n.log2 : ℤ) := by
          rw [← zpow_add₀ two_ne_zero]
          congr 1
          omega
      _ ≤ n := hnlow
  · rw [div_lt_iff₀ hd']
    calc (n : ℚ) < 2 ^ ((n.log2 : ℤ) + 1) := hnhigh
      _ = 2 ^ ((n.log2 : ℤ) - d.log2 + 1) * 2 ^ (d.log2 : ℤ) := by
          rw [← zpow_add₀ two_ne_zero]
          congr 1
          omega
      _ ≤ 2 ^ ((n.log2 : ℤ) - d.log2 + 1) * d := by
          exact mul_le_mul_of_nonneg_left hdlow (hpow _).le

/-- The exponent is the one at which the mantissa has all bits, or the least one. -/
lemma exists_exponentOf (f : BinaryFormat) (hn : 0 < n) (hd : 0 < d) :
    ∃ e, f.exponentOf n d = max e f.minExponent ∧ f.FillsAt ((n : ℚ) / d) e := by
  obtain ⟨hlow, hhigh⟩ := guess_bounds hn hd
  set guess : ℤ := (n.log2 : ℤ) - d.log2 - f.precision with hguess
  have hpos := scaleByTwo_pos n hd guess
  have hvalue := scaleByTwo_value n d guess
  have htest : Nat.pow 2 f.precision ≤ (scaleByTwo n d guess).1 / (scaleByTwo n d guess).2 ↔
      (2 : ℚ) ^ (guess + f.precision) ≤ n / d := by
    have hpos' : (0 : ℚ) < (scaleByTwo n d guess).2 := by exact_mod_cast hpos
    have hsplit : (2 : ℚ) ^ (guess + f.precision) = 2 ^ f.precision * 2 ^ guess := by
      rw [add_comm, zpow_add₀ two_ne_zero, zpow_natCast]
    rw [Nat.le_div_iff_mul_le hpos, ← Nat.cast_le (α := ℚ), hsplit,
      ← le_div_iff₀ (zpow_pos two_pos guess), div_eq_mul_inv ((n : ℚ) / d), ← zpow_neg, ← hvalue,
      le_div_iff₀ hpos']
    push_cast [Nat.pow_eq]
    rfl
  rw [exponentOf, ← hguess]
  by_cases h : Nat.pow 2 f.precision ≤ (scaleByTwo n d guess).1 / (scaleByTwo n d guess).2
  · rw [if_pos h]
    refine ⟨guess + 1, rfl, ?_, ?_⟩
    · rw [show guess + 1 + (f.precision : ℤ) - 1 = guess + f.precision by ring]
      exact htest.1 h
    · rwa [show guess + 1 + (f.precision : ℤ) = (n.log2 : ℤ) - d.log2 + 1 by omega]
  · rw [if_neg h]
    refine ⟨guess, rfl, ?_, not_le.1 (mt htest.2 h)⟩
    rwa [show guess + (f.precision : ℤ) - 1 = (n.log2 : ℤ) - d.log2 - 1 by omega]

/-! ### Rounding -/

lemma pos_iff_of_div_eq (hd : 0 < d) (hc : 0 < c) (h : (n : ℚ) / d = m / c) : 0 < n ↔ 0 < m := by
  have hd' : (0 : ℚ) < d := by exact_mod_cast hd
  have hc' : (0 : ℚ) < c := by exact_mod_cast hc
  rw [← Nat.cast_pos (α := ℚ), ← Nat.cast_pos (α := ℚ) (n := m), ← div_pos_iff_of_pos_right hd', h,
    div_pos_iff_of_pos_right hc']

/-- Rounding depends on the value of the quotient only. -/
theorem round_congr (f : BinaryFormat) (negative : Bool) (hd : 0 < d) (hc : 0 < c)
    (h : (n : ℚ) / d = m / c) : f.round negative n d = f.round negative m c := by
  have hpos := pos_iff_of_div_eq hd hc h
  by_cases hn : 0 < n
  · have hm := hpos.1 hn
    obtain ⟨e, he, hfill⟩ := exists_exponentOf f hn hd
    obtain ⟨e', he', hfill'⟩ := exists_exponentOf f hm hc
    obtain rfl : e = e' := hfill.unique (h ▸ hfill')
    have hmantissa : roundQuotient (scaleByTwo n d (max e f.minExponent)).1
        (scaleByTwo n d (max e f.minExponent)).2 =
        roundQuotient (scaleByTwo m c (max e f.minExponent)).1
          (scaleByTwo m c (max e f.minExponent)).2 :=
      roundQuotient_congr (scaleByTwo_pos n hd _) (scaleByTwo_pos m hc _)
        (by rw [scaleByTwo_value, scaleByTwo_value, h])
    have hn0 : (n == 0) = false := by simpa using hn.ne'
    have hm0 : (m == 0) = false := by simpa using hm.ne'
    simp only [round, hn0, hm0, he, he', hmantissa]
  · obtain rfl : n = 0 := by omega
    obtain rfl : m = 0 := by
      have := mt hpos.2 hn
      omega
    rfl

/-- The exponent of a number of the format is the one at which it has all bits, or the least
one. -/
lemma max_exponent_of_kept {negative : Bool} (hkept : (Binary.finite negative m e).IsKept f)
    (hp : 0 < f.precision) {x : ℤ} (hfill : f.FillsAt ((m : ℚ) * 2 ^ e) x) :
    max x f.minExponent = e := by
  obtain ⟨hbits, hmin, -, hfull⟩ := hkept
  have hmlt : (m : ℚ) < 2 ^ f.precision := by exact_mod_cast hbits
  have hhigh : (m : ℚ) * 2 ^ e < 2 ^ (e + f.precision) := by
    calc (m : ℚ) * 2 ^ e < 2 ^ f.precision * 2 ^ e :=
          mul_lt_mul_of_pos_right hmlt (zpow_pos two_pos e)
      _ = 2 ^ (e + f.precision) := by rw [← zpow_natCast, ← zpow_add₀ two_ne_zero, add_comm]
  have hle : x ≤ e := by
    have hlt := hfill.1.trans_lt hhigh
    have := (zpow_lt_zpow_iff_right₀ (one_lt_two (α := ℚ))).1 hlt
    omega
  rcases hfull with hfull | rfl
  · have hmge : (2 : ℚ) ^ (f.precision - 1) ≤ m := by exact_mod_cast hfull
    have hlow : (2 : ℚ) ^ (e + f.precision - 1) ≤ m * 2 ^ e := by
      calc (2 : ℚ) ^ (e + f.precision - 1) = 2 ^ (f.precision - 1) * 2 ^ e := by
            rw [← zpow_natCast, ← zpow_add₀ two_ne_zero]
            congr 1
            omega
        _ ≤ m * 2 ^ e := mul_le_mul_of_nonneg_right hmge (zpow_pos two_pos e).le
    have hge : e ≤ x := FillsAt.le ⟨hlow, hhigh⟩ hfill
    omega
  · exact max_eq_right hle

/-- A number of the format is rounded to itself. -/
theorem round_eq_of_value {negative : Bool} (hkept : (Binary.finite negative m e).IsKept f)
    (hp : 0 < f.precision) (hd : 0 < d) (h : (n : ℚ) / d = m * 2 ^ e) :
    f.round negative n d = .finite negative m e := by
  have hexponent := fun x => max_exponent_of_kept hkept hp (x := x)
  obtain ⟨hbits, hmin, hmax, hfull⟩ := hkept
  have hd' : (0 : ℚ) < d := by exact_mod_cast hd
  rcases Nat.eq_zero_or_pos m with rfl | hm
  · have hn : n = 0 := by
      have hzero : (n : ℚ) / d = 0 := by simpa using h
      simpa [hd.ne'] using hzero
    have he : e = f.minExponent := by
      refine hfull.resolve_left ?_
      have := Nat.pow_pos (n := f.precision - 1) (zero_lt_two (α := ℕ))
      omega
    simp [round, hn, he]
  · have hn : 0 < n := by
      have hpos : (0 : ℚ) < n / d := h ▸ mul_pos (by exact_mod_cast hm) (zpow_pos two_pos e)
      exact_mod_cast (div_pos_iff_of_pos_right hd').1 hpos
    obtain ⟨x, hx, hfill⟩ := exists_exponentOf f hn hd
    have hexp : max x f.minExponent = e := hexponent x (h ▸ hfill)
    have hmantissa : roundQuotient (scaleByTwo n d e).1 (scaleByTwo n d e).2 = m := by
      refine roundQuotient_of_eq (scaleByTwo_pos n hd e) ?_
      rw [scaleByTwo_value, h, mul_assoc, ← zpow_add₀ two_ne_zero, add_neg_cancel, zpow_zero,
        mul_one]
    have hn0 : (n == 0) = false := by simpa using hn.ne'
    simp [round, hn0, hx, hexp, hmantissa, hbits.ne, hmax]

/-- What is rounded to a finite number other than zero lies between half the least positive
number of the format and the bound of its numbers. -/
theorem bounds_of_round {negative : Bool} (hd : 0 < d) (hm : 0 < m)
    (h : f.round negative n d = .finite negative m e) :
    (2 : ℚ) ^ (f.minExponent - 1) ≤ n / d ∧ (n : ℚ) / d < 2 ^ (f.maxExponent + f.precision) := by
  have hn : 0 < n := by
    by_contra hn
    obtain rfl : n = 0 := by omega
    have hzero : (0 : ℕ) = m := by
      simp only [round, beq_self_eq_true, if_true, Binary.finite.injEq] at h
      exact h.2.1
    omega
  obtain ⟨x, hx, hfill⟩ := exists_exponentOf f hn hd
  have hn0 : (n == 0) = false := by simpa using hn.ne'
  simp only [round, hn0, Bool.false_eq_true, if_false, hx] at h
  set y := max x f.minExponent with hy
  have hround : 0 < roundQuotient (scaleByTwo n d y).1 (scaleByTwo n d y).2 := by
    by_contra hzero
    have hzero' : roundQuotient (scaleByTwo n d y).1 (scaleByTwo n d y).2 = 0 := by omega
    have hcarry : ((0 : ℕ) == Nat.pow 2 f.precision) = false := by
      simpa using (Nat.pow_pos (n := f.precision) (zero_lt_two (α := ℕ))).ne
    simp only [hzero', hcarry, Bool.false_eq_true, if_false] at h
    split at h
    · simp at h
    · simp only [Binary.finite.injEq] at h
      omega
  have hmax : y ≤ f.maxExponent := by
    by_contra hlt
    split at h
    · rw [if_pos (by omega)] at h
      simp at h
    · rw [if_pos (by omega)] at h
      simp at h
  constructor
  · have hhalf := half_le_of_roundQuotient (scaleByTwo_pos n hd y) hround
    rw [scaleByTwo_value, zpow_neg, ← div_eq_mul_inv, le_div_iff₀ (zpow_pos two_pos y)] at hhalf
    calc (2 : ℚ) ^ (f.minExponent - 1) ≤ 2 ^ (y - 1) :=
          zpow_le_zpow_right₀ one_le_two (by omega)
      _ = 1 / 2 * 2 ^ y := by rw [zpow_sub_one₀ two_ne_zero]; ring
      _ ≤ n / d := hhalf
  · exact hfill.2.trans_le (zpow_le_zpow_right₀ one_le_two (by omega))

/-- The sign does not matter for the magnitude. -/
lemma round_negative (h : f.round false n d = .finite false m e) (negative : Bool) :
    f.round negative n d = .finite negative m e := by
  unfold round at h ⊢
  by_cases hn : (n == 0) = true
  · rw [if_pos hn] at h ⊢
    simpa using h
  · rw [if_neg hn] at h ⊢
    grind

end BinaryFormat

end DocumentSql

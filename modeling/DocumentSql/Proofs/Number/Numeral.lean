/-
Decimal numerals and what is read of them.

The text of a number has digits, perhaps a point with more digits behind it, and perhaps an
exponent (`DecimalText`).  It stands for a coefficient and the exponent of its last digit.  The
readers of decimals and of JSON numbers find these two in every numeral
(`DecimalText.ofText?_signed`, `DecimalText.readNumber?_chars`).

A floating-point number is written as such a numeral (`FloatStyle.exists_digitsText`), in one of
three forms: with an exponent, with zeros in front of its digits, or with its digits around the
point and zeros behind them.
-/
import DocumentSql.Number.Decimal
import DocumentSql.Json.Read
import DocumentSql.Json.Write
import DocumentSql.Proofs.Number.Shortest

namespace DocumentSql

/-- The parts of a decimal numeral. -/
structure DecimalText where
  /-- The digits in front of the point. -/
  whole : List Char
  /-- The digits behind the point. -/
  fraction : List Char
  /-- The exponent, if there is one. -/
  exponent : Option ℤ

namespace DecimalText

/-- The text of a numeral. -/
def chars (t : DecimalText) : List Char :=
  t.whole ++ ((if t.fraction.isEmpty then [] else '.' :: t.fraction) ++
    t.exponent.elim [] fun e => 'e' :: FloatStyle.exponentText e)

/-- The number that the digits write. -/
def coefficient (t : DecimalText) : ℕ := Text.digitsValue (Text.digitsValue 0 t.whole) t.fraction

/-- The exponent of the last digit. -/
def lastExponent (t : DecimalText) : ℤ := t.exponent.getD 0 - t.fraction.length

/-- The parts are digits, and a zero stands in front only when it is the only digit there. -/
structure IsProper (t : DecimalText) : Prop where
  whole : Text.AllDigits t.whole
  fraction : Text.AllDigits t.fraction
  ne_nil : t.whole ≠ []
  lone_zero : t.whole.head? = some '0' → t.whole = ['0']

/-! ### The digits of a numeral -/

/-- The numeral of a natural number. -/
def ofNat (n : ℕ) : DecimalText := ⟨Nat.toDigits 10 n, [], none⟩

@[simp] lemma chars_ofNat (n : ℕ) : (ofNat n).chars = Nat.toDigits 10 n := by
  simp [chars, ofNat]

@[simp] lemma coefficient_ofNat (n : ℕ) : (ofNat n).coefficient = n :=
  Text.digitsValue_toDigits n

@[simp] lemma lastExponent_ofNat (n : ℕ) : (ofNat n).lastExponent = 0 := rfl

lemma isProper_ofNat (n : ℕ) : (ofNat n).IsProper where
  whole := Text.allDigits_toDigits n
  fraction := by simp [Text.AllDigits, ofNat]
  ne_nil := Nat.toDigits_ne_nil
  lone_zero h := by
    rcases Nat.eq_zero_or_pos n with rfl | hn
    · rfl
    · exact absurd rfl (Text.head?_toDigits hn '0' h)

/-- The text of an exponent is a sign and digits, which write its magnitude. -/
lemma exponentText_spec (e : ℤ) : ∃ ds, FloatStyle.exponentText e =
    (if e < 0 then '-' else '+') :: ds ∧ Text.AllDigits ds ∧ ds ≠ [] ∧
      Text.digitsValue 0 ds = e.natAbs := by
  by_cases h : (Nat.toDigits 10 e.natAbs).length < 2
  · refine ⟨'0' :: Nat.toDigits 10 e.natAbs, ?_, ?_, by simp, ?_⟩
    · rw [FloatStyle.exponentText, if_pos h]
    · exact (Text.allDigits_zeros 1).append (Text.allDigits_toDigits _)
    · exact (Text.digitsValue_zeros_append 1 _).trans (Text.digitsValue_toDigits _)
  · refine ⟨Nat.toDigits 10 e.natAbs, ?_, Text.allDigits_toDigits _, Nat.toDigits_ne_nil,
      Text.digitsValue_toDigits _⟩
    rw [FloatStyle.exponentText, if_neg h]

variable {t : DecimalText}

/-- A character of a numeral. -/
def isNumeralChar (c : Char) : Bool := c.isDigit || c ∈ ['.', 'e', '+', '-']

lemma isNumeralChar_of_mem (ht : t.IsProper) : ∀ c ∈ t.chars, isNumeralChar c = true := by
  have hdigits : ∀ {ds : List Char}, Text.AllDigits ds → ∀ c ∈ ds, isNumeralChar c = true :=
    fun hds c hc => by simp [isNumeralChar, hds c hc]
  intro c hc
  rw [chars, List.mem_append, List.mem_append] at hc
  rcases hc with hc | hc | hc
  · exact hdigits ht.whole c hc
  · split at hc
    · simp at hc
    · rcases List.mem_cons.1 hc with rfl | hc
      · rfl
      · exact hdigits ht.fraction c hc
  · cases he : t.exponent with
    | none => simp [he] at hc
    | some e =>
      obtain ⟨ds, hds, hall, -⟩ := exponentText_spec e
      rw [he, Option.elim_some, hds] at hc
      rcases List.mem_cons.1 hc with rfl | hc
      · rfl
      · rcases List.mem_cons.1 hc with rfl | hc
        · split <;> rfl
        · exact hdigits hall c hc

/-- A numeral begins with a digit. -/
lemma exists_chars_eq_cons (ht : t.IsProper) : ∃ c cs, t.chars = c :: cs ∧ c.isDigit = true := by
  obtain ⟨c, cs, hwhole⟩ := List.exists_cons_of_ne_nil ht.ne_nil
  have hc := ht.whole c (by simp [hwhole])
  rw [chars, hwhole]
  exact ⟨c, _, rfl, hc⟩

lemma ne_of_isDigit {c d : Char} (hc : c.isDigit = true) (hd : d.isDigit = false) : c ≠ d := by
  rintro rfl
  simp [hc] at hd

/-! ### Read as a JSON number -/

/-- What follows a JSON number does not belong to it. -/
def EndsNumber (rest : List Char) : Prop :=
  ∀ c ∈ rest.head?, c.isDigit = false ∧ c ≠ '.' ∧ c ≠ 'e' ∧ c ≠ 'E'

/-- The text begins with no digit. -/
def NoDigit (rest : List Char) : Prop := ∀ c ∈ rest.head?, c.isDigit = false

section

variable {ds rest : List Char}

lemma takeDigits_append (hds : Text.AllDigits ds) (hrest : NoDigit rest) :
    Json.takeDigits (ds ++ rest) = (ds, rest) := by
  rw [Json.takeDigits, Text.takeWhile_append_of_head hds hrest,
    Text.dropWhile_append_of_head hds hrest]

lemma takeWhole?_append (hds : Text.AllDigits ds) (hne : ds ≠ [])
    (hlone : ds.head? = some '0' → ds = ['0']) (hrest : NoDigit rest) :
    Json.takeWhole? (ds ++ rest) = some (Text.digitsValue 0 ds, rest) := by
  unfold Json.takeWhole?
  split
  · next more heq =>
    obtain ⟨d, ds', rfl⟩ := List.exists_cons_of_ne_nil hne
    obtain ⟨rfl, -⟩ : d = '0' ∧ _ := List.cons.inj heq
    obtain ⟨-, rfl⟩ : '0' = '0' ∧ ds' = [] := List.cons.inj (hlone rfl)
    obtain rfl : rest = more := by simpa using heq
    rfl
  · rw [takeDigits_append hds hrest]
    obtain ⟨d, ds', rfl⟩ := List.exists_cons_of_ne_nil hne
    rfl

lemma takeFraction_of_ne (h : ∀ c ∈ rest.head?, c ≠ '.') :
    Json.takeFraction rest = (none, rest) := by
  unfold Json.takeFraction
  split
  · next more => exact absurd rfl (h '.' rfl)
  · rfl

lemma takeFraction_append (hds : Text.AllDigits ds) (hne : ds ≠ []) (hrest : NoDigit rest) :
    Json.takeFraction ('.' :: (ds ++ rest)) = (some ds, rest) := by
  obtain ⟨d, ds', rfl⟩ := List.exists_cons_of_ne_nil hne
  simp only [Json.takeFraction, takeDigits_append hds hrest]

lemma takeExponent_of_ne (h : ∀ c ∈ rest.head?, c ≠ 'e' ∧ c ≠ 'E') :
    Json.takeExponent rest = (none, rest) := by
  cases rest with
  | nil => rfl
  | cons c cs =>
    obtain ⟨hlower, hupper⟩ := h c rfl
    simp [Json.takeExponent, hlower, hupper]

lemma takeExponent_append (e : ℤ) (hrest : NoDigit rest) :
    Json.takeExponent ('e' :: (FloatStyle.exponentText e ++ rest)) = (some e, rest) := by
  obtain ⟨ds, hds, hall, hne, hvalue⟩ := exponentText_spec e
  obtain ⟨d, ds', rfl⟩ := List.exists_cons_of_ne_nil hne
  have hsign : Text.takeSign (FloatStyle.exponentText e ++ rest) =
      (decide (e < 0), d :: ds' ++ rest) := by
    rw [hds]
    split
    · next hneg => simp [Text.takeSign, hneg]
    · next hpos => simp [Text.takeSign, hpos]
  have hdigits := takeDigits_append hall hrest
  simp only [Json.takeExponent, beq_self_eq_true, Bool.true_or, if_true, hsign, hdigits, hvalue]
  split
  · next hneg =>
    have habs : -((e.natAbs : ℕ) : ℤ) = e := by
      have := of_decide_eq_true hneg
      omega
    rw [habs]
  · next hpos =>
    have habs : ((e.natAbs : ℕ) : ℤ) = e := by
      have : ¬ e < 0 := by simpa using hpos
      omega
    rw [habs]

end

/-- The value of a numeral in JSON: an integer, unless it has a fraction or an exponent. -/
def value (negative : Bool) (t : DecimalText) : Value :=
  if t.fraction.isEmpty && t.exponent.isNone then
    .int (if negative then -(t.coefficient : ℤ) else t.coefficient)
  else .float (BinaryFormat.double.ofDecimal negative t.coefficient t.lastExponent)

/-- A numeral is read as a JSON number. -/
theorem readNumber?_chars (negative : Bool) (ht : t.IsProper) {rest : List Char}
    (hrest : EndsNumber rest) :
    Json.readNumber? negative (t.chars ++ rest) = some (t.value negative, rest) := by
  have hnoDigit : NoDigit rest := fun c hc => (hrest c hc).1
  -- what stands behind the whole part, and behind the fraction
  set tail := (t.exponent.elim [] fun e => 'e' :: FloatStyle.exponentText e) ++ rest with htail
  have htailHead : ∀ c ∈ tail.head?, c.isDigit = false ∧ c ≠ '.' := by
    intro c hc
    cases he : t.exponent with
    | none =>
      rw [htail, he] at hc
      exact ⟨(hrest c hc).1, (hrest c hc).2.1⟩
    | some e =>
      obtain rfl : 'e' = c := by simpa [htail, he] using hc
      decide
  have hexponent : Json.takeExponent tail = (t.exponent, rest) := by
    rw [htail]
    cases t.exponent with
    | none => exact takeExponent_of_ne fun c hc => (hrest c hc).2.2
    | some e => exact takeExponent_append e hnoDigit
  have hfraction : Json.takeFraction ((if t.fraction.isEmpty then [] else '.' :: t.fraction) ++
      tail) = (if t.fraction.isEmpty then none else some t.fraction, tail) := by
    split
    · exact takeFraction_of_ne fun c hc => (htailHead c hc).2
    · next hne =>
      exact takeFraction_append ht.fraction (by simpa using hne) fun c hc => (htailHead c hc).1
  have hmiddle : NoDigit ((if t.fraction.isEmpty then [] else '.' :: t.fraction) ++ tail) := by
    split
    · exact fun c hc => (htailHead c hc).1
    · intro c hc
      obtain rfl : '.' = c := by simpa using hc
      rfl
  have hchars : t.chars ++ rest =
      t.whole ++ ((if t.fraction.isEmpty then [] else '.' :: t.fraction) ++ tail) := by
    rw [chars, htail, List.append_assoc, List.append_assoc]
  rw [hchars, Json.readNumber?, takeWhole?_append ht.whole ht.ne_nil ht.lone_zero hmiddle]
  simp only [bind, Option.bind, hfraction, hexponent]
  rw [value, coefficient, lastExponent]
  cases hf : t.fraction with
  | nil =>
    cases t.exponent with
    | none => simp [Text.digitsValue]
    | some e => simp [Text.digitsValue]
  | cons d ds => simp

/-! ### Read as a decimal -/

lemma isDigit_of_allDigits {ds : List Char} (h : Text.AllDigits ds) :
    ∀ c ∈ ds, Text.isDigit c = true := fun c hc =>
  Text.isDigit_of_ascii (Text.isAscii_of_isDigit (h c hc)) (h c hc)

lemma readExponent?_eq (e : Option ℤ) :
    Decimal.readExponent? (e.elim [] fun e => 'e' :: FloatStyle.exponentText e) =
      some (e.getD 0) := by
  cases e with
  | none => rfl
  | some e =>
    obtain ⟨ds, hds, hall, hne, hvalue⟩ := exponentText_spec e
    have hsign : Text.takeSign (FloatStyle.exponentText e) = (decide (e < 0), ds) := by
      rw [hds]
      split
      · next hneg => simp [Text.takeSign, hneg]
      · next hpos => simp [Text.takeSign, hpos]
    have hdigits : (ds.isEmpty || !ds.all Text.isDigit) = false := by
      simpa [hne] using isDigit_of_allDigits hall
    have hlower : ('e'.toLower == 'e') = true := by decide
    simp only [Option.elim_some, Decimal.readExponent?, hlower, if_true, hsign, hdigits,
      Bool.false_eq_true, if_false, hvalue, Option.getD_some, Option.some.injEq]
    split
    · next hneg =>
      have := of_decide_eq_true hneg
      omega
    · next hpos =>
      have : ¬ e < 0 := by simpa using hpos
      omega

lemma readFinite?_chars (negative : Bool) (ht : t.IsProper) :
    Decimal.readFinite? negative t.chars =
      some (.finite negative t.coefficient t.lastExponent) := by
  set tail := t.exponent.elim [] fun e => 'e' :: FloatStyle.exponentText e with htail
  have htailCases : tail = [] ∨ ∃ cs, tail = 'e' :: cs := by
    cases he : t.exponent with
    | none => simp [htail, he]
    | some e => exact Or.inr ⟨_, by rw [htail, he]; rfl⟩
  have hhead : ∀ c ∈ tail.head?, Text.isDigit c = false := by
    intro c hc
    rcases htailCases with hnil | ⟨cs, hcons⟩
    · simp [hnil] at hc
    · obtain rfl : 'e' = c := by simpa [hcons] using hc
      decide
  have hwhole := isDigit_of_allDigits ht.whole
  have hfraction := isDigit_of_allDigits ht.fraction
  have hne : t.whole.isEmpty = false := by simpa using ht.ne_nil
  have hexponent : Decimal.readExponent? tail = some (t.exponent.getD 0) := readExponent?_eq _
  cases hf : t.fraction with
  | nil =>
    have hchars : t.chars = t.whole ++ tail := by simp [chars, hf, htail]
    rw [Decimal.readFinite?, hchars, Text.takeWhile_append_of_head hwhole hhead,
      Text.dropWhile_append_of_head hwhole hhead]
    rcases htailCases with hnil | ⟨cs, hcons⟩
    · rw [hnil] at hexponent ⊢
      simp [hne, hexponent, coefficient, lastExponent, hf, Text.digitsValue]
    · rw [hcons] at hexponent ⊢
      simp [hne, hexponent, coefficient, lastExponent, hf, Text.digitsValue]
  | cons d ds =>
    have hchars : t.chars = t.whole ++ '.' :: (t.fraction ++ tail) := by simp [chars, hf, htail]
    have hpoint : ∀ c ∈ ('.' :: (t.fraction ++ tail)).head?, Text.isDigit c = false := by
      intro c hc
      obtain rfl : '.' = c := by simpa using hc
      decide
    rw [Decimal.readFinite?, hchars, Text.takeWhile_append_of_head hwhole hpoint,
      Text.dropWhile_append_of_head hwhole hpoint]
    simp only [Text.takeWhile_append_of_head hfraction hhead,
      Text.dropWhile_append_of_head hfraction hhead, hne, hexponent, Bool.false_and,
      Bool.false_eq_true, if_false, Option.map_some]
    rfl

/-- A numeral with a minus in front of it or not. -/
def signed (negative : Bool) (t : DecimalText) : List Char :=
  if negative then '-' :: t.chars else t.chars

lemma stripChars_of_no_blank {cs : List Char} (h : ∀ c ∈ cs, Text.isBlank c = false) :
    Text.stripChars cs = cs := by
  have hdrop : ∀ ds : List Char, (∀ c ∈ ds, Text.isBlank c = false) → Text.dropBlanks ds = ds := by
    intro ds hds
    cases ds with
    | nil => rfl
    | cons d ds => rw [Text.dropBlanks, List.dropWhile_cons_of_neg (by simp [hds d (by simp)])]
  rw [Text.stripChars, hdrop cs h, hdrop cs.reverse fun c hc => h c (List.mem_reverse.1 hc),
    List.reverse_reverse]

lemma not_isBlank_of_isNumeralChar {c : Char} (h : isNumeralChar c = true) :
    Text.isBlank c = false ∧ c ≠ '_' := by
  simp only [isNumeralChar, Bool.or_eq_true, decide_eq_true_eq, List.mem_cons, List.not_mem_nil,
    or_false] at h
  rcases h with hdigit | rfl | rfl | rfl | rfl
  · refine ⟨?_, ne_of_isDigit hdigit (by decide)⟩
    simp only [Char.isDigit, Bool.and_eq_true, decide_eq_true_eq] at hdigit
    have hlow : 48 ≤ c.toNat := by simpa using UInt32.le_iff_toNat_le.1 hdigit.1
    have hhigh : c.toNat ≤ 57 := by simpa using UInt32.le_iff_toNat_le.1 hdigit.2
    simp only [Text.isBlank, Text.within, Text.blankRanges, List.any_cons, List.any_nil,
      Bool.or_false, Bool.or_eq_false_iff, Bool.and_eq_false_iff, decide_eq_false_iff_not]
    omega
  all_goals decide

lemma toLower_of_isDigit {c : Char} (h : c.isDigit = true) : c.toLower = c := by
  simp only [Char.isDigit, Bool.and_eq_true, decide_eq_true_eq] at h
  have hhigh : c.val.toNat ≤ 57 := by simpa using UInt32.le_iff_toNat_le.1 h.2
  have hnot : ¬ ('A'.val ≤ c.val ∧ c.val ≤ 'Z'.val) := by
    rintro ⟨hlow, -⟩
    have : 65 ≤ c.val.toNat := by simpa using UInt32.le_iff_toNat_le.1 hlow
    omega
  exact dif_neg hnot

/-- A numeral is read as the decimal of its digits. -/
theorem ofText?_signed (negative : Bool) (ht : t.IsProper) :
    Decimal.ofText? (String.ofList (t.signed negative)) =
      some (.finite negative t.coefficient t.lastExponent) := by
  have hchar : ∀ c ∈ t.signed negative, isNumeralChar c = true := by
    intro c hc
    rw [signed] at hc
    split at hc
    · rcases List.mem_cons.1 hc with rfl | hc
      · rfl
      · exact isNumeralChar_of_mem ht c hc
    · exact isNumeralChar_of_mem ht c hc
  have hstrip : Text.stripChars (t.signed negative) = t.signed negative :=
    stripChars_of_no_blank fun c hc => (not_isBlank_of_isNumeralChar (hchar c hc)).1
  have hfilter : (t.signed negative).filter (· != '_') = t.signed negative :=
    List.filter_eq_self.2 fun c hc => by simpa using (not_isBlank_of_isNumeralChar (hchar c hc)).2
  obtain ⟨c, cs, hcons, hdigit⟩ := exists_chars_eq_cons ht
  have hsign : Text.takeSign (t.signed negative) = (negative, t.chars) := by
    cases negative with
    | true => rfl
    | false =>
      rw [signed, if_neg (by simp), hcons, Text.takeSign]
      · exact fun _ h => ne_of_isDigit hdigit (by decide : '-'.isDigit = false) (List.cons.inj h).1
      · exact fun _ h => ne_of_isDigit hdigit (by decide : '+'.isDigit = false) (List.cons.inj h).1
  -- a text that begins with a digit is none of the names
  have hlower : (t.chars.map Char.toLower).head? = some c := by
    rw [hcons, List.map_cons, toLower_of_isDigit hdigit]
    rfl
  have hname : ∀ d ds, d.isDigit = false → t.chars.map Char.toLower ≠ d :: ds := by
    intro d ds hd heq
    rw [heq] at hlower
    exact ne_of_isDigit hdigit hd (Option.some.inj hlower).symm
  rw [Decimal.ofText?]
  simp only [String.toList_ofList, hstrip, hfilter, hsign]
  split
  · next heq => exact absurd heq (hname _ _ (by decide))
  · next heq => exact absurd heq (hname _ _ (by decide))
  · next heq => exact absurd heq (hname _ _ (by decide))
  · next heq => exact absurd heq (hname _ _ (by decide))
  · exact readFinite?_chars negative ht

end DecimalText

/-! ### Texts of floating-point numbers -/

/-- The text is a numeral with a fraction or an exponent, and has the value of the digits; at most
seventeen zeros are added to them. -/
structure DecimalDigits.IsWrittenAs (d : DecimalDigits) (cs : List Char) (t : DecimalText) :
    Prop where
  isProper : t.IsProper
  chars : cs = t.chars
  not_int : (t.fraction.isEmpty && t.exponent.isNone) = false
  value : ∃ k : ℕ, k ≤ 17 ∧ t.coefficient = Text.digitsValue 0 d.digits * 10 ^ k ∧
    t.lastExponent = d.lastExponent - k

namespace FloatStyle

open DecimalText

variable {d : DecimalDigits}

/-- One digit in front of the point, and an exponent. -/
lemma exists_exponentForm (hd : d.IsProper) : ∃ t, d.IsWrittenAs
    (d.digits.take 1 ++ (if (d.digits.drop 1).isEmpty then [] else '.' :: d.digits.drop 1) ++
      'e' :: exponentText (d.point - 1)) t := by
  obtain ⟨c, cs, hdigits⟩ := List.exists_cons_of_ne_nil hd.ne_nil
  have hall := hd.allDigits
  have hhead : c ≠ '0' := hd.head_ne_zero c (by rw [hdigits]; rfl)
  refine ⟨⟨[c], cs, some (d.point - 1)⟩, ⟨?_, ?_, by simp, ?_⟩, ?_, by simp, 0, by omega, ?_, ?_⟩
  · exact fun b hb => hall b (by simp [hdigits, List.mem_singleton.1 hb])
  · exact fun b hb => hall b (by simp [hdigits, hb])
  · exact fun h => absurd (by simpa using h) hhead
  · simp [DecimalText.chars, hdigits]
  · rw [coefficient, hdigits, Nat.pow_zero, mul_one]
    exact (Text.digitsValue_append 0 [c] cs).symm
  · simp only [lastExponent, DecimalDigits.lastExponent, Option.getD_some, hdigits,
      List.length_cons]
    push_cast
    ring

/-- Zeros in front of the digits. -/
lemma exists_smallForm (hd : d.IsProper) (hpoint : d.point ≤ 0) : ∃ t, d.IsWrittenAs
    ('0' :: '.' :: (List.replicate d.point.natAbs '0' ++ d.digits)) t := by
  refine ⟨⟨['0'], List.replicate d.point.natAbs '0' ++ d.digits, none⟩,
    ⟨Text.allDigits_zeros 1, (Text.allDigits_zeros _).append hd.allDigits, by simp, fun _ => rfl⟩,
    ?_, ?_, 0, by omega, ?_, ?_⟩
  · simp [DecimalText.chars, hd.ne_nil]
  · simp [hd.ne_nil]
  · rw [coefficient, Nat.pow_zero, mul_one]
    exact Text.digitsValue_zeros_append _ _
  · have habs : (d.point.natAbs : ℤ) = -d.point := by omega
    simp only [lastExponent, DecimalDigits.lastExponent, Option.getD_none, List.length_append,
      List.length_replicate, Nat.cast_add, habs]
    push_cast
    ring

/-- The digits, with zeros up to the point. -/
lemma exists_wholeForm (hd : d.IsProper) {p : ℕ} (hp : d.point = p) (hle : d.digits.length ≤ p)
    (hpoint : p ≤ 16) : ∃ t, d.IsWrittenAs
      (d.digits ++ List.replicate (p - d.digits.length) '0' ++ ['.', '0']) t := by
  refine ⟨⟨d.digits ++ List.replicate (p - d.digits.length) '0', ['0'], none⟩,
    ⟨hd.allDigits.append (Text.allDigits_zeros _), Text.allDigits_zeros 1, by simp [hd.ne_nil], ?_⟩,
    ?_, rfl, p - d.digits.length + 1, by omega, ?_, ?_⟩
  · intro h
    rw [List.head?_append_of_ne_nil _ hd.ne_nil] at h
    exact absurd rfl (hd.head_ne_zero '0' h)
  · simp [DecimalText.chars]
  · rw [coefficient, Text.digitsValue_append, Text.digitsValue_zeros, pow_succ, ← mul_assoc]
    exact Text.digitsValue_zeros _ 1
  · simp only [lastExponent, DecimalDigits.lastExponent, Option.getD_none, List.length_singleton]
    omega

/-- The digits around the point. -/
lemma exists_mixedForm (hd : d.IsProper) {p : ℕ} (hp : d.point = p) (hpos : 0 < p)
    (hlt : p < d.digits.length) : ∃ t, d.IsWrittenAs
      (d.digits.take p ++ '.' :: d.digits.drop p) t := by
  obtain ⟨c, cs, hdigits⟩ := List.exists_cons_of_ne_nil hd.ne_nil
  obtain ⟨q, rfl⟩ := Nat.exists_eq_succ_of_ne_zero hpos.ne'
  have hdrop : d.digits.drop (q + 1) ≠ [] := by
    rw [Ne, List.drop_eq_nil_iff]
    omega
  refine ⟨⟨d.digits.take (q + 1), d.digits.drop (q + 1), none⟩, ⟨?_, ?_, ?_, ?_⟩, ?_, ?_, 0,
    by omega, ?_, ?_⟩
  · exact fun a ha => hd.allDigits a (List.mem_of_mem_take ha)
  · exact fun a ha => hd.allDigits a (List.mem_of_mem_drop ha)
  · simp [hdigits]
  · intro h
    have hhead : d.digits.head? = some '0' := by
      rw [hdigits] at h ⊢
      simpa using h
    exact absurd rfl (hd.head_ne_zero '0' hhead)
  · simp [DecimalText.chars, hdrop]
  · simp [hdrop]
  · rw [coefficient, Nat.pow_zero, mul_one, ← Text.digitsValue_append, List.take_append_drop]
  · simp only [lastExponent, DecimalDigits.lastExponent, Option.getD_none, List.length_drop]
    omega

/-- The digits of a decimal are written as a numeral of its value, in one of four forms. -/
theorem exists_digitsText (hd : d.IsProper) : ∃ t, d.IsWrittenAs (json.digitsText d) t := by
  rw [digitsText]
  split
  · exact exists_exponentForm hd
  · next hpoint =>
    have hlast : d.point ≤ 16 := by
      by_contra hlt
      exact hpoint (by simp [json, value, not_le.1 hlt])
    split
    · next hneg => exact exists_smallForm hd hneg
    · next hpos =>
      obtain ⟨p, hp⟩ := Int.eq_ofNat_of_zero_le (not_le.1 hpos).le
      have htoNat : d.point.toNat = p := by omega
      rw [htoNat]
      rcases Nat.lt_or_ge p d.digits.length with hlt | hle
      · have hne : (d.digits.drop p).isEmpty = false := by
          rw [List.isEmpty_eq_false_iff, Ne, List.drop_eq_nil_iff]
          omega
        have hfull : p - (d.digits.take p).length = 0 := by
          rw [List.length_take]
          omega
        dsimp only
        rw [hne, hfull]
        simpa using exists_mixedForm hd hp (by omega) hlt
      · have hnil : (d.digits.drop p).isEmpty = true := by
          rw [List.drop_of_length_le hle]
          rfl
        dsimp only
        rw [hnil, List.take_of_length_le hle]
        exact exists_wholeForm hd hp hle (by omega)

end FloatStyle

namespace Binary

open BinaryFormat (double)

variable {x : Binary}

/-- A finite number has the same text in JSON and elsewhere. -/
lemma text_eq_writeFloat (hx : x.isFinite = true) : x.text = Json.writeFloat x := by
  cases x with
  | nan => simp [isFinite] at hx
  | infinite negative => simp [isFinite] at hx
  | finite negative m e => cases m <;> rfl

lemma IsKept.isFinite {f : BinaryFormat} (h : x.IsKept f) : x.isFinite = true := by
  cases x <;> first | rfl | exact h.elim

lemma writeFloat_finite (negative : Bool) {m : ℕ} (hm : 0 < m) (e : ℤ) :
    (Json.writeFloat (.finite negative m e)).toList =
      if negative then '-' :: FloatStyle.json.digitsText (shortestDigits double m e)
      else FloatStyle.json.digitsText (shortestDigits double m e) := by
  obtain ⟨k, rfl⟩ := Nat.exists_eq_succ_of_ne_zero hm.ne'
  rw [Json.writeFloat, FloatStyle.text, String.toList_ofList]
  cases negative <;> rfl

/-- A numeral of the digits of a decimal is read as the double that the decimal is read as. -/
lemma value_of_isWrittenAs {c m : ℕ} {y e : ℤ} (hc : 0 < c) (hbits : c.log2 ≤ 5000) (hm : 0 < m)
    (hread : double.ofDecimal false c y = .finite false m e) {cs : List Char} {t : DecimalText}
    (ht : (DecimalDigits.ofScaled c y).IsWrittenAs cs t) (negative : Bool) :
    t.value negative = .float (.finite negative m e) := by
  obtain ⟨-, j, hcoefficient, hlast⟩ := DecimalDigits.ofScaled_spec hc y
  obtain ⟨k, hk, htcoefficient, htlast⟩ := ht.value
  set digits := Text.digitsValue 0 (DecimalDigits.ofScaled c y).digits with hdigits
  have hten : (10 : ℚ) ≠ 0 := by norm_num
  have hvalue : (t.coefficient : ℚ) * 10 ^ t.lastExponent = c * 10 ^ y := by
    rw [htcoefficient, hcoefficient, htlast, hlast]
    push_cast
    rw [mul_assoc, mul_assoc, ← zpow_natCast, ← zpow_natCast, ← zpow_add₀ hten,
      ← zpow_add₀ hten]
    congr 2
    ring
  have htbits : t.coefficient.log2 ≤ 6000 := by
    have hlt : t.coefficient < 2 ^ (c.log2 + 58) := by
      calc t.coefficient = digits * 10 ^ k := htcoefficient
        _ ≤ c * 10 ^ 17 := by
            refine Nat.mul_le_mul ?_ (Nat.pow_le_pow_right (by omega) hk)
            exact (Nat.le_mul_of_pos_right digits (by positivity)).trans hcoefficient.ge
        _ < 2 ^ (c.log2 + 1) * 2 ^ 57 :=
            Nat.mul_lt_mul_of_lt_of_le Nat.lt_log2_self (by norm_num) (by positivity)
        _ = 2 ^ (c.log2 + 58) := by rw [← pow_add]
    rcases Nat.eq_zero_or_pos t.coefficient with hzero | hpos
    · simp [hzero]
    · have := (Nat.log2_lt hpos.ne').2 hlt
      omega
  rw [DecimalText.value, ht.not_int, if_neg (by simp)]
  exact congrArg Value.float (BinaryFormat.ofDecimal_congr hm hread hvalue htbits negative)

/-- A double is written as a numeral that is read as the double. -/
theorem exists_writeFloat (hx : x.IsKept double) : ∃ t : DecimalText, t.IsProper ∧
    (Json.writeFloat x).toList = t.signed x.isNegative ∧ t.value x.isNegative = .float x := by
  cases x with
  | nan => exact hx.elim
  | infinite negative => exact hx.elim
  | finite negative m e =>
    rcases Nat.eq_zero_or_pos m with rfl | hm
    · refine ⟨⟨['0'], ['0'], none⟩, ⟨Text.allDigits_zeros 1, Text.allDigits_zeros 1, by simp,
        fun _ => rfl⟩, ?_, ?_⟩
      · rw [Json.writeFloat, FloatStyle.text, String.toList_ofList]
        cases negative <;> rfl
      · -- a zero is kept with the least exponent
        have he : e = double.minExponent := hx.2.2.2.resolve_left (by decide)
        rw [he]
        rfl
    · have hpositive : (finite false m e).IsKept double := hx
      obtain ⟨c, y, hc, hshortest, hbits, hread⟩ := exists_shortestDigits hpositive hm
      obtain ⟨hproper, -⟩ := DecimalDigits.ofScaled_spec hc y
      obtain ⟨t, ht⟩ := FloatStyle.exists_digitsText hproper
      refine ⟨t, ht.isProper, ?_, value_of_isWrittenAs hc hbits hm hread ht negative⟩
      rw [writeFloat_finite negative hm, hshortest, ht.chars]
      rfl

end Binary

end DocumentSql

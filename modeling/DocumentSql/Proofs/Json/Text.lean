/-
Texts read back from JSON.

A character is written as itself, as an escape with a letter, or as one or two escaped units of
sixteen bits.  The reader takes each of them in one step (`Json.readChars?_writeChar`), so a text
is read back as it was (`Json.readChars?_writeText`).
-/
import DocumentSql.Json.Read
import DocumentSql.Json.Write
import Mathlib

namespace DocumentSql.Json

/-! ### Units of sixteen bits -/

lemma hexValue?_digitChar {k : ℕ} (hk : k < 16) : takeUnit?.hexValue? k.digitChar = some k := by
  interval_cases k <;> decide

/-- Four hexadecimal digits write a number below `16 ^ 4`. -/
lemma hex_eq {n : ℕ} (hn : n < 65536) : Text.hex 4 n = [(n / 4096).digitChar,
    (n / 256 % 16).digitChar, (n / 16 % 16).digitChar, (n % 16).digitChar] := by
  have hsmall : ∀ {k : ℕ}, k < 16 → Nat.toDigits 16 k = [k.digitChar] := Nat.toDigits_of_lt_base
  have hlarge : ∀ {k : ℕ}, 16 ≤ k → Nat.toDigits 16 k =
      Nat.toDigits 16 (k / 16) ++ [(k % 16).digitChar] := Nat.toDigits_of_base_le (by omega)
  have hzero : (0 : ℕ).digitChar = '0' := rfl
  rw [Text.hex]
  rcases Nat.lt_or_ge n 16 with h1 | h1
  · have h256 : n / 256 = 0 := by omega
    have h16 : n / 16 = 0 := by omega
    have h4096 : n / 4096 = 0 := by omega
    rw [hsmall h1, h256, h16, h4096, Nat.mod_eq_of_lt h1]
    rfl
  rcases Nat.lt_or_ge n 256 with h2 | h2
  · have h256 : n / 256 = 0 := by omega
    have h4096 : n / 4096 = 0 := by omega
    rw [hlarge h1, hsmall (by omega), h256, h4096, Nat.mod_eq_of_lt (by omega : n / 16 < 16)]
    rfl
  rcases Nat.lt_or_ge n 4096 with h3 | h3
  · have hquotient : n / 16 / 16 = n / 256 := by omega
    have h4096 : n / 4096 = 0 := by omega
    rw [hlarge h1, hlarge (by omega), hquotient, hsmall (by omega), h4096,
      Nat.mod_eq_of_lt (by omega : n / 256 < 16)]
    rfl
  · have hquotient : n / 16 / 16 = n / 256 := by omega
    have hquotient' : n / 256 / 16 = n / 4096 := by omega
    rw [hlarge h1, hlarge (by omega), hquotient, hlarge (by omega), hquotient',
      hsmall (by omega)]
    rfl

/-- A unit is read back from its digits. -/
lemma takeUnit?_hex {n : ℕ} (hn : n < 65536) (rest : List Char) :
    takeUnit? (Text.hex 4 n ++ rest) = some (n, rest) := by
  have hsum : ((n / 4096 * 16 + n / 256 % 16) * 16 + n / 16 % 16) * 16 + n % 16 = n := by omega
  rw [hex_eq hn]
  simp only [List.cons_append, List.nil_append, takeUnit?, bind, Option.bind,
    hexValue?_digitChar (by omega : n / 4096 < 16), hexValue?_digitChar (Nat.mod_lt _ (by omega)),
    hsum]

lemma toNat_valid (c : Char) : c.toNat < 0xd800 ∨ (0xe000 ≤ c.toNat ∧ c.toNat < 0x110000) := by
  have h := c.valid
  simp only [UInt32.isValidChar, Nat.isValidChar] at h
  rcases h with h | ⟨h, h'⟩
  · exact Or.inl h
  · exact Or.inr ⟨h, h'⟩

/-- A character of one unit. -/
lemma joinUnits_toNat (c : Char) (rest : List Char) : joinUnits c.toNat rest = (c, rest) := by
  have hhigh : (decide (0xd800 ≤ c.toNat) && decide (c.toNat < 0xdc00)) = false := by
    have := toNat_valid c
    simp only [Bool.and_eq_false_iff, decide_eq_false_iff_not]
    omega
  have hlow : (decide (0xdc00 ≤ c.toNat) && decide (c.toNat < 0xe000)) = false := by
    have := toNat_valid c
    simp only [Bool.and_eq_false_iff, decide_eq_false_iff_not]
    omega
  simp only [joinUnits, hhigh, hlow, Bool.false_eq_true, if_false, Char.ofNat_toNat]

/-- A character of two units. -/
lemma joinUnits_pair {high low : ℕ} (hhigh : 0xd800 ≤ high ∧ high < 0xdc00)
    (hlow : 0xdc00 ≤ low ∧ low < 0xe000) (rest : List Char) :
    joinUnits high (escapeUnit low ++ rest) =
      (Char.ofNat (0x10000 + (high - 0xd800) * 0x400 + (low - 0xdc00)), rest) := by
  have hunit : low < 65536 := by omega
  simp only [joinUnits, hhigh, hlow, decide_true, Bool.and_self, if_true, escapeUnit,
    List.cons_append, takeUnit?_hex hunit rest]

/-! ### Characters -/

lemma readChars?_unit {n : ℕ} (hn : n < 65536) (fuel : ℕ) (read rest : List Char) :
    readChars? (fuel + 1) read (escapeUnit n ++ rest) =
      readChars? fuel ((joinUnits n rest).1 :: read) (joinUnits n rest).2 := by
  simp only [escapeUnit, List.cons_append, readChars?]
  rw [if_neg (by decide), if_pos (by decide)]
  simp only [takeUnit?_hex hn rest, bind, Option.bind]

/-- A character beyond printable ASCII is read back from its escape. -/
lemma readChars?_escapeCode (c : Char) (fuel : ℕ) (read rest : List Char) :
    readChars? (fuel + 1) read (escapeCode c.toNat ++ rest) = readChars? fuel (c :: read) rest := by
  have hvalid := toNat_valid c
  rw [escapeCode]
  split
  · next h => rw [readChars?_unit h, joinUnits_toNat]
  · next h =>
    obtain ⟨a, b, ha, hb, hsum⟩ : ∃ a b, a < 0x400 ∧ b < 0x400 ∧
        c.toNat = 0x10000 + a * 0x400 + b := by
      refine ⟨(c.toNat - 0x10000) / 0x400, (c.toNat - 0x10000) % 0x400, ?_, ?_, ?_⟩ <;> omega
    have hquotient : (c.toNat - 0x10000) / 0x400 = a := by omega
    have hremainder : (c.toNat - 0x10000) % 0x400 = b := by omega
    have hcode : 0x10000 + (0xd800 + a - 0xd800) * 0x400 + (0xdc00 + b - 0xdc00) = c.toNat := by
      omega
    rw [hquotient, hremainder, List.append_assoc, readChars?_unit (by omega),
      joinUnits_pair ⟨by omega, by omega⟩ ⟨by omega, by omega⟩, hcode, Char.ofNat_toNat]

/-- Each character is read back in one step. -/
lemma readChars?_writeChar (c : Char) (fuel : ℕ) (read rest : List Char) :
    readChars? (fuel + 1) read (writeChar c ++ rest) = readChars? fuel (c :: read) rest := by
  -- the characters that have an escape with a letter
  by_cases hnamed : c ∈ ['"', '\\', '\n', '\r', '\t', '\x08', '\x0c']
  · simp only [List.mem_cons, List.not_mem_nil, or_false] at hnamed
    rcases hnamed with rfl | rfl | rfl | rfl | rfl | rfl | rfl <;> rfl
  · simp only [List.mem_cons, List.not_mem_nil, or_false, not_or] at hnamed
    obtain ⟨hquote, hbackslash, hn, hr, ht, hb, hf⟩ := hnamed
    by_cases hprintable : 32 ≤ c.toNat ∧ c.toNat < 127
    · have hwrite : writeChar c = [c] := by
        simp [writeChar, hquote, hbackslash, hn, hr, ht, hb, hf, hprintable]
      rw [hwrite]
      simp [readChars?, hquote, hbackslash, hprintable.1]
    · have hwrite : writeChar c = escapeCode c.toNat := by
        simp [writeChar, hquote, hbackslash, hn, hr, ht, hb, hf]
        omega
      rw [hwrite]
      exact readChars?_escapeCode c fuel read rest

lemma escapeCode_ne_nil (n : ℕ) : escapeCode n ≠ [] := by
  rw [escapeCode]
  split <;> exact List.cons_ne_nil _ _

lemma writeChar_ne_nil (c : Char) : writeChar c ≠ [] := by
  unfold writeChar
  repeat' split
  all_goals first | exact List.cons_ne_nil _ _ | exact escapeCode_ne_nil _

lemma length_le_flatMap (cs : List Char) : cs.length ≤ (cs.flatMap writeChar).length := by
  induction cs with
  | nil => simp
  | cons c cs ih =>
    have hpos : 0 < (writeChar c).length := List.length_pos_of_ne_nil (writeChar_ne_nil c)
    rw [List.flatMap_cons, List.length_append, List.length_cons]
    omega

/-- A text is read back up to its closing quote. -/
lemma readChars?_flatMap {fuel : ℕ} {cs : List Char} (hfuel : cs.length < fuel)
    (read rest : List Char) : readChars? fuel read (cs.flatMap writeChar ++ '"' :: rest) =
      some (String.ofList (read.reverse ++ cs), rest) := by
  induction cs generalizing fuel read with
  | nil =>
    obtain ⟨fuel, rfl⟩ := Nat.exists_eq_succ_of_ne_zero (by omega : fuel ≠ 0)
    simp [readChars?]
  | cons c cs ih =>
    obtain ⟨fuel, rfl⟩ := Nat.exists_eq_succ_of_ne_zero (by omega : fuel ≠ 0)
    rw [List.flatMap_cons, List.append_assoc, readChars?_writeChar,
      ih (by simpa using hfuel)]
    simp

lemma toList_writeText (s : String) :
    (writeText s).toList = '"' :: (s.toList.flatMap writeChar ++ ['"']) := by
  rw [writeText, String.toList_ofList, List.cons_append]

/-- A text is read back behind its opening quote. -/
theorem readChars?_writeText (s : String) (rest : List Char) :
    ∃ cs, (writeText s).toList ++ rest = '"' :: cs ∧
      readChars? (cs.length + 1) [] cs = some (s, rest) := by
  refine ⟨s.toList.flatMap writeChar ++ '"' :: rest, ?_, ?_⟩
  · rw [toList_writeText]
    simp
  · have hfuel : s.toList.length < (s.toList.flatMap writeChar ++ '"' :: rest).length + 1 := by
      have := length_le_flatMap s.toList
      rw [List.length_append]
      omega
    rw [readChars?_flatMap hfuel]
    simp

end DocumentSql.Json

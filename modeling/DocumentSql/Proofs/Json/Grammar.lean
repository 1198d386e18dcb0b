/-
The grammar of JSON, and the texts that are written of values.

The rules of RFC 8259 that refer to one another are one inductive family, `Derives`; the rules for
numbers and for the characters of strings stand before it.  The grammar has no names for numbers
that are not finite, and `writeFloat` writes them by such names.  So what is written of a value is
a text of the grammar if and only if the numbers that stand in it are finite
(`Json.isText_write_iff`).

By induction over the value, what is written of it is derived when its numbers are finite, and
otherwise a capital that begins such a name stands outside its strings (`Misnamed`).  Strings
matter here: a string may hold the name of a number.  A text of the grammar leaves a reader who
looks for these capitals where it was, outside the strings, and with nothing found
(`Derives.passes`).
-/
import DocumentSql.Proofs.Json.Reading
import DocumentSql.Proofs.Result

namespace DocumentSql

namespace Json

/-! ### The grammar -/

/-- The blanks between tokens: `ws = *( %x20 / %x09 / %x0A / %x0D )`. -/
def AreBlanks (cs : List Char) : Prop := ∀ c ∈ cs, c ∈ [' ', '\t', '\n', '\r']

/-- The digits of a number in front of its point: `int = zero / ( digit1-9 *DIGIT )`. -/
inductive IsWhole : List Char → Prop
  | zero : IsWhole ['0']
  | digits {d : Char} {ds : List Char} (hd : d.isDigit = true) (hne : d ≠ '0')
      (hds : Text.AllDigits ds) : IsWhole (d :: ds)

/-- The fraction of a number, which may be left out: `frac = decimal-point 1*DIGIT`. -/
inductive IsFraction : List Char → Prop
  | none : IsFraction []
  | digits {ds : List Char} (hds : Text.AllDigits ds) (hne : ds ≠ []) : IsFraction ('.' :: ds)

/-- The exponent of a number, which may be left out: `exp = e [ minus / plus ] 1*DIGIT`. -/
inductive IsExponent : List Char → Prop
  | none : IsExponent []
  | digits {e : Char} {sign ds : List Char} (he : e ∈ ['e', 'E'])
      (hsign : sign ∈ [[], ['-'], ['+']]) (hds : Text.AllDigits ds) (hne : ds ≠ []) :
      IsExponent (e :: (sign ++ ds))

/-- A number: `number = [ minus ] int [ frac ] [ exp ]`. -/
inductive IsNumber : List Char → Prop
  | parts {sign whole fraction exponent : List Char} (hsign : sign ∈ [[], ['-']])
      (hwhole : IsWhole whole) (hfraction : IsFraction fraction)
      (hexponent : IsExponent exponent) : IsNumber (sign ++ (whole ++ (fraction ++ exponent)))

/-- A hexadecimal digit. -/
def isHexDigit (c : Char) : Bool :=
  c.isDigit || ('a' ≤ c && c ≤ 'f') || ('A' ≤ c && c ≤ 'F')

/-- What stands between the quotes of a string: characters as they are, and escapes with a letter
or with four hexadecimal digits. -/
inductive AreStringChars : List Char → Prop
  | nil : AreStringChars []
  | unescaped {c : Char} {cs : List Char} (hcontrol : 0x20 ≤ c.toNat) (hquote : c ≠ '"')
      (hbackslash : c ≠ '\\') (h : AreStringChars cs) : AreStringChars (c :: cs)
  | letter {c : Char} {cs : List Char} (hc : c ∈ ['"', '\\', '/', 'b', 'f', 'n', 'r', 't'])
      (h : AreStringChars cs) : AreStringChars ('\\' :: c :: cs)
  | unit {ds cs : List Char} (hlength : ds.length = 4) (hds : ∀ d ∈ ds, isHexDigit d = true)
      (h : AreStringChars cs) : AreStringChars ('\\' :: 'u' :: (ds ++ cs))

/-- A string: `string = quotation-mark *char quotation-mark`. -/
inductive IsString : List Char → Prop
  | quoted {cs : List Char} (h : AreStringChars cs) : IsString ('"' :: (cs ++ ['"']))

/-- The rules that refer to one another. -/
inductive Rule where
  /-- A value. -/
  | value
  /-- A value with the blanks around it. -/
  | element
  /-- The elements of an array, with commas between them. -/
  | elements
  /-- A member of an object: a string, a colon and an element. -/
  | member
  /-- The members of an object, with commas between them. -/
  | members

/-- The texts of a rule. -/
inductive Derives : Rule → List Char → Prop
  | null : Derives .value ['n', 'u', 'l', 'l']
  | true : Derives .value ['t', 'r', 'u', 'e']
  | false : Derives .value ['f', 'a', 'l', 's', 'e']
  | number {cs : List Char} (h : IsNumber cs) : Derives .value cs
  | string {cs : List Char} (h : IsString cs) : Derives .value cs
  | emptyArray {ws : List Char} (hws : AreBlanks ws) : Derives .value ('[' :: (ws ++ [']']))
  | array {cs : List Char} (h : Derives .elements cs) : Derives .value ('[' :: (cs ++ [']']))
  | emptyObject {ws : List Char} (hws : AreBlanks ws) :
      Derives .value ('\x7b' :: (ws ++ ['\x7d']))
  | object {cs : List Char} (h : Derives .members cs) :
      Derives .value ('\x7b' :: (cs ++ ['\x7d']))
  | element {before cs behind : List Char} (hbefore : AreBlanks before) (h : Derives .value cs)
      (hbehind : AreBlanks behind) : Derives .element (before ++ (cs ++ behind))
  | lastElement {cs : List Char} (h : Derives .element cs) : Derives .elements cs
  | moreElements {cs more : List Char} (h : Derives .element cs) (hmore : Derives .elements more) :
      Derives .elements (cs ++ ',' :: more)
  | member {before key behind cs : List Char} (hbefore : AreBlanks before) (hkey : IsString key)
      (hbehind : AreBlanks behind) (h : Derives .element cs) :
      Derives .member (before ++ (key ++ (behind ++ ':' :: cs)))
  | lastMember {cs : List Char} (h : Derives .member cs) : Derives .members cs
  | moreMembers {cs more : List Char} (h : Derives .member cs) (hmore : Derives .members more) :
      Derives .members (cs ++ ',' :: more)

/-- A text of JSON: `JSON-text = ws value ws`. -/
def IsText (s : String) : Prop := Derives .element s.toList

lemma areBlanks_nil : AreBlanks [] := by simp [AreBlanks]

lemma areBlanks_single : AreBlanks [' '] := by simp [AreBlanks]

/-- A value is a text. -/
lemma isText_of_value {s : String} (h : Derives .value s.toList) : IsText s := by
  simpa [IsText] using Derives.element areBlanks_nil h areBlanks_nil

/-! ### Names of numbers outside the strings -/

/-- Where a reader of a text stands. -/
inductive Position where
  /-- Outside the strings. -/
  | outside
  /-- Inside a string. -/
  | inside
  /-- Inside a string, behind a backslash. -/
  | escaped

/-- Where the reader stands behind a character. -/
def Position.advance : Position → Char → Position
  | .outside, c => if c = '"' then .inside else .outside
  | .inside, c => if c = '\\' then .escaped else if c = '"' then .outside else .inside
  | .escaped, _ => .inside

/-- The capital of a name of a number that is not finite stands here. -/
def Position.isName : Position → Char → Bool
  | .outside, c => c == 'N' || c == 'I'
  | _, _ => false

/-- From a position on, such a capital stands outside the strings. -/
def hasName : Position → List Char → Bool
  | _, [] => false
  | p, c :: cs => p.isName c || hasName (p.advance c) cs

/-- Whatever follows the text, such a capital stands outside the strings. -/
def Misnamed (cs : List Char) : Prop := ∀ rest, hasName .outside (cs ++ rest) = true

/-- The reader passes the text and stands outside the strings behind it. -/
def Passes (cs : List Char) : Prop := ∀ rest, hasName .outside (cs ++ rest) = hasName .outside rest

/-- A character outside the strings that the reader passes. -/
def isQuiet (c : Char) : Bool := c != '"' && c != 'N' && c != 'I'

lemma passes_of_isQuiet {cs : List Char} (h : ∀ c ∈ cs, isQuiet c = true) : Passes cs := by
  intro rest
  induction cs with
  | nil => rfl
  | cons c cs ih =>
    obtain ⟨hc, hcs⟩ := List.forall_mem_cons.1 h
    have hcopy := hc
    simp only [isQuiet, Bool.and_eq_true, bne_iff_ne, ne_eq] at hcopy
    obtain ⟨⟨hquote, hN⟩, hI⟩ := hcopy
    rw [List.cons_append, hasName, Position.advance, if_neg hquote, ih hcs]
    simp [Position.isName, hN, hI]

namespace Passes

variable {as bs : List Char}

lemma append (ha : Passes as) (hb : Passes bs) : Passes (as ++ bs) := by
  intro rest
  rw [List.append_assoc, ha, hb]

lemma cons {c : Char} (hc : isQuiet c = true) (hb : Passes bs) : Passes (c :: bs) := by
  have hfirst : Passes [c] := passes_of_isQuiet (by simpa using hc)
  exact hfirst.append hb

/-- What is misnamed behind a text that is passed. -/
lemma misnamed_append (ha : Passes as) (hb : Misnamed bs) : Misnamed (as ++ bs) := by
  intro rest
  rw [List.append_assoc, ha, hb]

end Passes

lemma Misnamed.append {as : List Char} (ha : Misnamed as) (bs : List Char) :
    Misnamed (as ++ bs) := by
  intro rest
  rw [List.append_assoc, ha]

/-! ### Texts of the grammar have no names -/

lemma isQuiet_of_isDigit {c : Char} (h : c.isDigit = true) : isQuiet c = true := by
  have hne : ∀ {d : Char}, d.isDigit = false → c ≠ d := fun hd =>
    DecimalText.ne_of_isDigit h hd
  simp [isQuiet, hne (d := '"') (by decide), hne (d := 'N') (by decide),
    hne (d := 'I') (by decide)]

lemma passes_digits {ds : List Char} (h : Text.AllDigits ds) : Passes ds :=
  passes_of_isQuiet fun c hc => isQuiet_of_isDigit (h c hc)

lemma AreBlanks.passes {ws : List Char} (h : AreBlanks ws) : Passes ws := by
  refine passes_of_isQuiet fun c hc => ?_
  have hc := h c hc
  simp only [List.mem_cons, List.not_mem_nil, or_false] at hc
  rcases hc with rfl | rfl | rfl | rfl <;> rfl

lemma IsNumber.passes {cs : List Char} (h : IsNumber cs) : Passes cs := by
  obtain ⟨hsign, hwhole, hfraction, hexponent⟩ := h
  have hsigns : ∀ {sign : List Char}, sign ∈ [[], ['-'], ['+']] → Passes sign := by
    intro sign hsign
    simp only [List.mem_cons, List.not_mem_nil, or_false] at hsign
    rcases hsign with rfl | rfl | rfl <;> exact passes_of_isQuiet (by simp [isQuiet])
  refine (hsigns ?_).append (Passes.append ?_ (Passes.append ?_ ?_))
  · simp only [List.mem_cons, List.not_mem_nil, or_false] at hsign ⊢
    tauto
  · cases hwhole with
    | zero => exact passes_of_isQuiet (by simp [isQuiet])
    | digits hd _ hds => exact (passes_digits hds).cons (isQuiet_of_isDigit hd)
  · cases hfraction with
    | none => exact passes_of_isQuiet (by simp)
    | digits hds _ => exact (passes_digits hds).cons (by decide)
  · cases hexponent with
    | none => exact passes_of_isQuiet (by simp)
    | digits he hsign hds _ =>
      refine ((hsigns hsign).append (passes_digits hds)).cons ?_
      simp only [List.mem_cons, List.not_mem_nil, or_false] at he
      rcases he with rfl | rfl <;> rfl

lemma ne_of_isHexDigit {c d : Char} (hc : isHexDigit c = true) (hd : isHexDigit d = false) :
    c ≠ d := by
  rintro rfl
  simp [hc] at hd

/-- Inside a string the reader passes what the grammar allows there, up to the closing quote. -/
lemma AreStringChars.hasName_append {cs : List Char} (h : AreStringChars cs) (rest : List Char) :
    hasName .inside (cs ++ '"' :: rest) = hasName .outside rest := by
  induction h with
  | nil => simp [hasName, Position.advance, Position.isName]
  | unescaped _ hquote hbackslash _ ih =>
    rw [List.cons_append, hasName, Position.advance, if_neg hbackslash, if_neg hquote, ih]
    rfl
  | letter _ _ ih =>
    rw [List.cons_append, List.cons_append, hasName, hasName]
    simpa [Position.advance, Position.isName] using ih
  | @unit ds cs _ hds _ ih =>
    -- the digits are neither quotes nor backslashes
    have hdigits : ∀ es : List Char, (∀ d ∈ es, isHexDigit d = true) →
        hasName .inside (es ++ (cs ++ '"' :: rest)) = hasName .outside rest := by
      intro es hes
      induction es with
      | nil => exact ih
      | cons d es ihes =>
        obtain ⟨hd, hes⟩ := List.forall_mem_cons.1 hes
        rw [List.cons_append, hasName, Position.advance,
          if_neg (ne_of_isHexDigit hd (by decide)), if_neg (ne_of_isHexDigit hd (by decide)),
          ihes hes]
        rfl
    rw [List.cons_append, List.cons_append, List.append_assoc, hasName, hasName]
    simpa [Position.advance, Position.isName] using hdigits ds hds

lemma IsString.passes {cs : List Char} (h : IsString cs) : Passes cs := by
  obtain ⟨h⟩ := h
  intro rest
  rw [List.cons_append, List.append_assoc, hasName]
  simpa [Position.advance, Position.isName] using h.hasName_append rest

/-- The reader passes every text of the grammar. -/
lemma Derives.passes {r : Rule} {cs : List Char} (h : Derives r cs) : Passes cs := by
  have hquiet : ∀ {c : Char}, isQuiet c = Bool.true → Passes [c] := fun hc =>
    passes_of_isQuiet (by simpa using hc)
  induction h with
  | null | true | false => exact passes_of_isQuiet (by simp [isQuiet])
  | number h => exact h.passes
  | string h => exact h.passes
  | emptyArray hws => exact (hws.passes.append (hquiet (by decide))).cons (by decide)
  | array _ ih => exact (ih.append (hquiet (by decide))).cons (by decide)
  | emptyObject hws => exact (hws.passes.append (hquiet (by decide))).cons (by decide)
  | object _ ih => exact (ih.append (hquiet (by decide))).cons (by decide)
  | element hbefore _ hbehind ih => exact hbefore.passes.append (ih.append hbehind.passes)
  | lastElement _ ih => exact ih
  | moreElements _ _ ih ihmore => exact ih.append (ihmore.cons (by decide))
  | member hbefore hkey hbehind _ ih =>
    exact hbefore.passes.append
      (hkey.passes.append (hbehind.passes.append (ih.cons (by decide))))
  | lastMember _ ih => exact ih
  | moreMembers _ _ ih ihmore => exact ih.append (ihmore.cons (by decide))

/-- A text of the grammar is not misnamed. -/
lemma Derives.not_misnamed {r : Rule} {cs : List Char} (h : Derives r cs) : ¬ Misnamed cs := by
  intro hmis
  have hpass := h.passes []
  rw [hmis []] at hpass
  simp [hasName] at hpass

/-! ### Numbers and strings as they are written -/

lemma isNumber_signed {t : DecimalText} (ht : t.IsProper) (negative : Bool) :
    IsNumber (t.signed negative) := by
  have hwhole : IsWhole t.whole := by
    obtain ⟨d, ds, hds⟩ := List.exists_cons_of_ne_nil ht.ne_nil
    have hall := ht.whole
    have hlone := ht.lone_zero
    rw [hds] at hall hlone ⊢
    by_cases hd : d = '0'
    · rw [hlone (by rw [hd]; rfl)]
      exact IsWhole.zero
    · exact IsWhole.digits (hall d (by simp)) hd fun c hc => hall c (by simp [hc])
  have hfraction : IsFraction (if t.fraction.isEmpty then [] else '.' :: t.fraction) := by
    split
    · exact IsFraction.none
    · next hne => exact IsFraction.digits ht.fraction (by simpa using hne)
  have hexponent :
      IsExponent (t.exponent.elim [] fun e => 'e' :: FloatStyle.exponentText e) := by
    cases t.exponent with
    | none => exact IsExponent.none
    | some e =>
      obtain ⟨ds, hds, hall, hne, -⟩ := DecimalText.exponentText_spec e
      rw [Option.elim_some, hds]
      have hsign : [if e < 0 then '-' else '+'] ∈ [[], ['-'], ['+']] := by split <;> simp
      exact IsExponent.digits (by simp) hsign hall hne
  have hsigned : t.signed negative = (if negative then ['-'] else []) ++ (t.whole ++
      ((if t.fraction.isEmpty then [] else '.' :: t.fraction) ++
        t.exponent.elim [] fun e => 'e' :: FloatStyle.exponentText e)) := by
    cases negative <;> rfl
  rw [hsigned]
  exact IsNumber.parts (by cases negative <;> simp) hwhole hfraction hexponent

lemma isHexDigit_digitChar {k : ℕ} (hk : k < 16) : isHexDigit k.digitChar = true := by
  interval_cases k <;> decide

lemma areStringChars_unit {n : ℕ} (hn : n < 65536) {cs : List Char} (h : AreStringChars cs) :
    AreStringChars (escapeUnit n ++ cs) := by
  refine AreStringChars.unit (by rw [hex_eq hn]; rfl) ?_ h
  rw [hex_eq hn]
  intro d hd
  simp only [List.mem_cons, List.not_mem_nil, or_false] at hd
  rcases hd with rfl | rfl | rfl | rfl
  · exact isHexDigit_digitChar (by omega)
  all_goals exact isHexDigit_digitChar (Nat.mod_lt _ (by omega))

lemma areStringChars_escapeCode (c : Char) {cs : List Char} (h : AreStringChars cs) :
    AreStringChars (escapeCode c.toNat ++ cs) := by
  have hvalid := toNat_valid c
  rw [escapeCode]
  split
  · next hn => exact areStringChars_unit hn h
  · rw [List.append_assoc]
    exact areStringChars_unit (by omega) (areStringChars_unit (by omega) h)

/-- A character is written as the grammar allows it. -/
lemma areStringChars_writeChar (c : Char) {cs : List Char} (h : AreStringChars cs) :
    AreStringChars (writeChar c ++ cs) := by
  unfold writeChar
  split
  · next hc =>
    have hc : c = '"' ∨ c = '\\' := by simpa using hc
    exact AreStringChars.letter (by rcases hc with rfl | rfl <;> simp) h
  · next hc =>
    have hc : c ≠ '"' ∧ c ≠ '\\' := by simpa using hc
    repeat' split
    · exact AreStringChars.letter (by simp) h
    · exact AreStringChars.letter (by simp) h
    · exact AreStringChars.letter (by simp) h
    · exact AreStringChars.letter (by simp) h
    · exact AreStringChars.letter (by simp) h
    · next hprintable =>
      have hlow : 32 ≤ c.toNat := by simp at hprintable; exact hprintable.1
      exact AreStringChars.unescaped hlow hc.1 hc.2 h
    · exact areStringChars_escapeCode c h

lemma isString_writeText (s : String) : IsString (writeText s).toList := by
  rw [toList_writeText]
  refine IsString.quoted ?_
  induction s.toList with
  | nil => exact AreStringChars.nil
  | cons c cs ih =>
    rw [List.flatMap_cons]
    exact areStringChars_writeChar c ih

end Json

namespace Binary

open BinaryFormat (double)

/-- The shortest decimal of a positive number has digits, whether or not the number is kept by a
format. -/
lemma exists_ofScaled (f : BinaryFormat) {m : ℕ} (hm : 0 < m) (e : ℤ) :
    ∃ c x, 0 < c ∧ shortestDigits f m e = .ofScaled c x := by
  have hnum : 0 < (scaleByTwo m 1 (-e)).1 := by
    unfold scaleByTwo
    split
    · exact Nat.mul_pos hm (Nat.pow_pos (by omega))
    · exact hm
  unfold shortestDigits
  dsimp only
  cases hfound : (List.range 17).findSome? fun k => readingBack? f m e (scaleByTwo m 1 (-e)).1
      (scaleByTwo m 1 (-e)).2
      (decimalPoint (scaleByTwo m 1 (-e)).1 (scaleByTwo m 1 (-e)).2) (k + 1) with
  | some d =>
    obtain ⟨i, -, hd⟩ := List.exists_of_findSome?_eq_some hfound
    obtain ⟨c, hc, rfl⟩ := Option.map_eq_some_iff.1 hd
    refine ⟨c, _, Nat.pos_of_ne_zero ?_, rfl⟩
    -- what is read of no digits is a zero
    rintro rfl
    have hread := List.find?_some hc
    simp [BinaryFormat.ofDecimal] at hread
    omega
  | none =>
    rw [Option.getD_none]
    split
    · exact ⟨_, _, hnum, rfl⟩
    · exact ⟨_, _, Nat.mul_pos hnum (Nat.pow_pos (by omega)), rfl⟩

/-- A finite number is written as a numeral. -/
lemma exists_signed {x : Binary} (hx : x.isFinite = true) :
    ∃ t : DecimalText, t.IsProper ∧ (Json.writeFloat x).toList = t.signed x.isNegative := by
  cases x with
  | nan => simp [isFinite] at hx
  | infinite negative => simp [isFinite] at hx
  | finite negative m e =>
    rcases Nat.eq_zero_or_pos m with rfl | hm
    · refine ⟨⟨['0'], ['0'], none⟩, ⟨Text.allDigits_zeros 1, Text.allDigits_zeros 1, by simp,
        fun _ => rfl⟩, ?_⟩
      rw [Json.writeFloat, FloatStyle.text, String.toList_ofList]
      cases negative <;> rfl
    · obtain ⟨c, y, hc, hshortest⟩ := exists_ofScaled double hm e
      obtain ⟨hproper, -⟩ := DecimalDigits.ofScaled_spec hc y
      obtain ⟨t, ht⟩ := FloatStyle.exists_digitsText hproper
      refine ⟨t, ht.isProper, ?_⟩
      rw [writeFloat_finite negative hm, hshortest, ht.chars]
      rfl

end Binary

namespace Value

mutual
/-- The numbers that stand in the JSON text of a value are finite. Keys do not count: they are
written as strings. -/
def isFinite : Value → Bool
  | float x => x.isFinite
  | scalar kind plain =>
    match kind, plain with
    | "float64", float x => x.isFinite
    | _, _ => true
  | list xs => allFinite xs
  | tuple xs => allFinite xs
  | dict ms => membersFinite ms
  | _ => true
  termination_by structural v => v
/-- The same for all values. -/
def allFinite : List Value → Bool
  | [] => true
  | v :: vs => v.isFinite && allFinite vs
  termination_by structural vs => vs
/-- The same for the values of members. -/
def membersFinite : List (Value × Value) → Bool
  | [] => true
  | (_, v) :: ms => v.isFinite && membersFinite ms
  termination_by structural ms => ms
end

lemma isFinite_scalar_text (kind s : String) : (scalar kind (text s)).isFinite = true := by
  unfold isFinite
  split
  · next heq => simp at heq
  · rfl

@[simp] lemma allFinite_iff {vs : List Value} :
    allFinite vs = true ↔ ∀ v ∈ vs, v.isFinite = true := by
  induction vs with
  | nil => simp [allFinite]
  | cons v vs ih => simp [allFinite, ih]

@[simp] lemma membersFinite_iff {ms : Members} :
    membersFinite ms = true ↔ ∀ m ∈ ms, m.2.isFinite = true := by
  induction ms with
  | nil => simp [membersFinite]
  | cons m ms ih => rw [membersFinite, Bool.and_eq_true, ih, List.forall_mem_cons]

end Value

namespace Json

/-! ### What is written of a value -/

/-- What is written by a rule, where the numbers in it are finite or not: a text of the rule, or
one with the name of a number outside its strings. -/
def IsWritten (r : Rule) (finite : Bool) (cs : List Char) : Prop :=
  if finite then Derives r cs else Misnamed cs

namespace IsWritten

variable {r q : Rule} {b b' : Bool} {cs more : List Char}

/-- What is written stands in a larger text. -/
lemma wrap {pre : List Char} (post : List Char) (hpre : Passes pre) (h : IsWritten r b cs)
    (hq : Derives r cs → Derives q (pre ++ (cs ++ post))) :
    IsWritten q b (pre ++ (cs ++ post)) := by
  cases b with
  | true => exact hq h
  | false => exact hpre.misnamed_append (Misnamed.append h post)

/-- What is written stands in front of a comma and more. -/
lemma comma (h : IsWritten r b cs) (h' : IsWritten q b' more)
    (hq : Derives r cs → Derives q more → Derives q (cs ++ ',' :: more)) :
    IsWritten q (b && b') (cs ++ ',' :: more) := by
  cases b with
  | false => exact Misnamed.append h (',' :: more)
  | true =>
    cases b' with
    | true => exact hq h h'
    | false =>
      have hcs : Passes cs := Derives.passes h
      have hcomma : Passes [','] := passes_of_isQuiet (by simp [isQuiet])
      exact hcs.misnamed_append (hcomma.misnamed_append h')

end IsWritten

/-- Parts with a comma and a blank between them, of a rule for one part and one for several. -/
lemma isWritten_joined {r q : Rule} (hlast : ∀ {cs}, Derives r cs → Derives q cs)
    (hmore : ∀ {cs more}, Derives r cs → Derives q more → Derives q (cs ++ ',' :: more))
    {bs : List Bool} {parts : List (List Char)}
    (h : List.Forall₂ (fun b part => ∀ ws, AreBlanks ws → IsWritten r b (ws ++ part)) bs parts)
    (hne : parts ≠ []) {ws : List Char} (hws : AreBlanks ws) :
    IsWritten q (bs.all id) (ws ++ joined parts) := by
  induction h generalizing ws with
  | nil => exact absurd rfl hne
  | @cons b part bs parts hpart hparts ih =>
    cases hparts with
    | nil =>
      have hwritten := hpart ws hws
      cases b with
      | true => simpa [joined, IsWritten] using hlast hwritten
      | false => simpa [joined, IsWritten] using hwritten
    | @cons b' part' bs' parts' hpart' hparts' =>
      have hrest := ih (by simp) areBlanks_single
      have hjoined : ws ++ joined (part :: part' :: parts') =
          ws ++ part ++ ',' :: ([' '] ++ joined (part' :: parts')) := by
        rw [joined, List.intercalate_cons_cons]
        simp [joined]
      rw [hjoined, List.all_cons]
      exact (hpart ws hws).comma hrest hmore

lemma isWritten_element {b : Bool} {cs ws : List Char} (hws : AreBlanks ws)
    (h : IsWritten .value b cs) : IsWritten .element b (ws ++ cs) := by
  simpa using h.wrap [] hws.passes fun h => Derives.element hws h areBlanks_nil

/-- A list is written as its items are. -/
lemma isWritten_list {bs : List Bool} {parts : List (List Char)}
    (h : List.Forall₂ (IsWritten .value) bs parts) :
    IsWritten .value (bs.all id) ('[' :: (joined parts ++ [']'])) := by
  cases h with
  | nil => exact Derives.emptyArray areBlanks_nil
  | cons hpart hparts =>
    have helements := isWritten_joined Derives.lastElement Derives.moreElements
      ((List.Forall₂.cons hpart hparts).imp fun _ _ h _ hws => isWritten_element hws h)
      (by simp) areBlanks_nil
    have hopen : Passes ['['] := passes_of_isQuiet (by simp [isQuiet])
    exact helements.wrap [']'] hopen Derives.array

lemma isWritten_member {b : Bool} {key : String} {cs ws : List Char} (hws : AreBlanks ws)
    (h : IsWritten .value b cs) :
    IsWritten .member b (ws ++ ((writeText key).toList ++ ':' :: ' ' :: cs)) := by
  have hkey := isString_writeText key
  have hpre : Passes (ws ++ ((writeText key).toList ++ [':'])) :=
    hws.passes.append (hkey.passes.append (passes_of_isQuiet (by simp [isQuiet])))
  have hmember := (isWritten_element areBlanks_single h).wrap (q := .member) [] hpre
    fun h => by simpa using Derives.member hws hkey areBlanks_nil h
  simpa using hmember

/-- A mapping is written as its members are. -/
lemma isWritten_dict {bs : List Bool} {parts : List (List Char)}
    (h : List.Forall₂ (fun b part => ∃ key cs, part = (writeText key).toList ++ ':' :: ' ' :: cs ∧
      IsWritten .value b cs) bs parts) :
    IsWritten .value (bs.all id) ('\x7b' :: (joined parts ++ ['\x7d'])) := by
  cases h with
  | nil => exact Derives.emptyObject areBlanks_nil
  | cons hpart hparts =>
    have hmembers := isWritten_joined Derives.lastMember Derives.moreMembers
      ((List.Forall₂.cons hpart hparts).imp fun b part h ws hws => by
        obtain ⟨key, cs, rfl, hcs⟩ := h
        exact isWritten_member hws hcs)
      (by simp) areBlanks_nil
    have hopen : Passes ['\x7b'] := passes_of_isQuiet (by simp [isQuiet])
    exact hmembers.wrap ['\x7d'] hopen Derives.object

lemma isWritten_float (x : Binary) : IsWritten .value x.isFinite (writeFloat x).toList := by
  cases hx : x.isFinite with
  | true =>
    obtain ⟨t, ht, htext⟩ := Binary.exists_signed hx
    rw [htext]
    exact Derives.number (isNumber_signed ht _)
  | false =>
    intro rest
    cases x with
    | nan => rfl
    | infinite negative => cases negative <;> rfl
    | finite negative m e => simp [Binary.isFinite] at hx

lemma isWritten_text (s : String) : IsWritten .value true (writeText s).toList :=
  Derives.string (isString_writeText s)

/-- The text of a list, from what is written of its items. -/
lemma isWritten_group_list {vs : List Value} {parts : List String} (depth : ℕ)
    (h : List.Forall₂ (fun v s => IsWritten .value v.isFinite s.toList) vs parts) :
    IsWritten .value (Value.allFinite vs)
      (Layout.line.group depth "[" "]" parts).toList := by
  have hfinite : Value.allFinite vs = (vs.map Value.isFinite).all id := by
    rw [Bool.eq_iff_iff, Value.allFinite_iff]
    simp
  rw [hfinite, toList_group]
  refine isWritten_list ?_
  rw [List.forall₂_map_left_iff, List.forall₂_map_right_iff]
  exact h

/-- The text of a mapping, from what is written of its members. -/
lemma isWritten_group_dict {ms : Members} {parts : List String} (depth : ℕ)
    (h : List.Forall₂ (fun m s => ∃ key t, s = writeText key ++ ": " ++ t ∧
      IsWritten .value m.2.isFinite t.toList) ms parts) :
    IsWritten .value (Value.membersFinite ms)
      (Layout.line.group depth "\x7b" "\x7d" parts).toList := by
  have hfinite : Value.membersFinite ms = (ms.map fun m => m.2.isFinite).all id := by
    rw [Bool.eq_iff_iff, Value.membersFinite_iff]
    simp
  rw [hfinite, toList_group]
  refine isWritten_dict ?_
  rw [List.forall₂_map_left_iff, List.forall₂_map_right_iff]
  refine h.imp fun m s h => ?_
  obtain ⟨key, t, rfl, ht⟩ := h
  exact ⟨key, t.toList, by simp, ht⟩

mutual
/-- What is written of a value. -/
theorem isWritten_writeAt : ∀ (v : Value) (depth : ℕ) (s : String),
    writeAt .line refuse depth v = .ok s → IsWritten .value v.isFinite s.toList
  | .null, _, _, h => by
    obtain rfl := Except.ok.inj h
    exact Derives.null
  | .bool b, _, _, h => by
    obtain rfl := Except.ok.inj h
    cases b
    · exact Derives.false
    · exact Derives.true
  | .int n, _, _, h => by
    obtain rfl := Except.ok.inj h
    rw [toList_toString]
    exact Derives.number (isNumber_signed (DecimalText.isProper_ofNat _) _)
  | .float x, _, _, h => by
    obtain rfl := Except.ok.inj h
    exact isWritten_float x
  | .text s, _, _, h => by
    obtain rfl := Except.ok.inj h
    exact isWritten_text s
  | .cast k, _, _, h => by
    obtain rfl := Except.ok.inj h
    exact isWritten_text k.name
  | .list xs, depth, _, h => by
    obtain ⟨parts, hparts, rfl⟩ := Result.map_eq_ok_iff.1 h
    exact isWritten_group_list depth (isWritten_writeItems xs (depth + 1) parts hparts)
  | .tuple xs, depth, _, h => by
    obtain ⟨parts, hparts, rfl⟩ := Result.map_eq_ok_iff.1 h
    exact isWritten_group_list depth (isWritten_writeItems xs (depth + 1) parts hparts)
  | .dict ms, depth, _, h => by
    obtain ⟨parts, hparts, rfl⟩ := Result.map_eq_ok_iff.1 h
    exact isWritten_group_dict depth (isWritten_writeMembers ms (depth + 1) parts hparts)
  | .scalar kind plain, _, _, h => by
    unfold writeAt at h
    split at h
    · next x =>
      obtain rfl := Except.ok.inj h
      exact isWritten_float x
    · next s =>
      obtain rfl := Except.ok.inj h
      rw [Value.isFinite_scalar_text]
      exact isWritten_text s
    · simp [refuse] at h
  | .set _, _, _, h | .complex .., _, _, h | .decimal _, _, _, h | .date _, _, _, h
  | .moment _, _, _, h | .time _, _, _, h | .uuid _, _, _, h | .bytes _, _, _, h
  | .array .., _, _, h | .frame .., _, _, h | .function .., _, _, h | .callable _, _, _, h
  | .class_ _, _, _, h | .key _, _, _, h | .documentType .., _, _, h => by
    simp [writeAt, refuse] at h
  termination_by structural v => v
/-- What is written of the items of a list. -/
theorem isWritten_writeItems : ∀ (vs : List Value) (depth : ℕ) (parts : List String),
    writeItems .line refuse depth vs = .ok parts →
      List.Forall₂ (fun v s => IsWritten .value v.isFinite s.toList) vs parts
  | [], _, _, h => by
    obtain rfl := Except.ok.inj h
    exact List.Forall₂.nil
  | v :: vs, depth, parts, h => by
    obtain ⟨s, rest, hs, hrest, rfl⟩ :=
      List.forall₂_cons_left_iff.1 (writeItems_eq_ok_iff.1 h)
    exact List.Forall₂.cons (isWritten_writeAt v depth s hs)
      (isWritten_writeItems vs depth rest (writeItems_eq_ok_iff.2 hrest))
  termination_by structural vs => vs
/-- What is written of the members of a mapping. -/
theorem isWritten_writeMembers : ∀ (ms : List (Value × Value)) (depth : ℕ) (parts : List String),
    writeMembers .line refuse depth ms = .ok parts →
      List.Forall₂ (fun m s => ∃ key t, s = writeText key ++ ": " ++ t ∧
        IsWritten .value m.2.isFinite t.toList) ms parts
  | [], _, _, h => by
    obtain rfl := Except.ok.inj h
    exact List.Forall₂.nil
  | (k, v) :: ms, depth, parts, h => by
    obtain ⟨s, rest, ⟨key, t, -, ht, rfl⟩, hrest, rfl⟩ :=
      List.forall₂_cons_left_iff.1 (writeMembers_eq_ok_iff.1 h)
    exact List.Forall₂.cons ⟨key, t, rfl, isWritten_writeAt v depth t ht⟩
      (isWritten_writeMembers ms depth rest (writeMembers_eq_ok_iff.2 hrest))
  termination_by structural ms => ms
end

/-- What is written of a value is a text of JSON if and only if the numbers in it are finite. -/
theorem isText_write_iff {v : Value} {s : String} (h : write v = .ok s) :
    IsText s ↔ v.isFinite = true := by
  have hwritten := isWritten_writeAt v 0 s h
  cases hv : v.isFinite with
  | true =>
    rw [hv] at hwritten
    exact iff_of_true (isText_of_value hwritten) rfl
  | false =>
    rw [hv] at hwritten
    exact iff_of_false (fun htext => Derives.not_misnamed htext hwritten) (by simp)

end Json

end DocumentSql

/-
Casts that are parsed twice.

A cast that was parsed is parsed again, by its name, when it is applied.  The name was put into
lower case in between, and that keeps the name of a type one (`TypeName.isValid_map`), but for the
dotted capital I: its lower-case form is an i and a combining dot, which no name holds.  So the
casts that keep are those of texts without that letter (`parse_kept_iff`).

The names are not all of ASCII, since the long s, the dotless i and digits of other scripts stand
in them as they are.  The Kelvin sign becomes a k.
-/
import DocumentSql.Filter.Compile
import DocumentSql.Proofs.Cast.Plain
import DocumentSql.Proofs.Text.Digit
import DocumentSql.Search.Item

namespace DocumentSql

/-! ### Names of types in other letters -/

namespace TypeName

/-- Each character is kept, or is a letter that becomes a letter. -/
def KeepsLetters (f : Char → Char) : Prop :=
  ∀ c, f c = c ∨ isStart c = true ∧ isStart (f c) = true

section

variable {f : Char → Char} {c d : Char} {cs : List Char}

lemma isDigit_of_isStart (h : isStart c = true) : Text.isDigit c = false := by
  simp only [isStart, Text.isLatinAnyCase, Bool.or_eq_true, beq_iff_eq] at h
  rcases h with ((((h | rfl) | rfl) | rfl) | rfl) | rfl
  · have hascii : Text.isAscii c = true := by
      simp only [Char.isAlpha, Char.isUpper, Char.isLower, Bool.or_eq_true, Bool.and_eq_true,
        decide_eq_true_eq, ge_iff_le, UInt32.le_iff_toNat_le] at h
      have hval : c.val.toNat = c.toNat := rfl
      simp at h
      simp only [Text.isAscii, decide_eq_true_eq]
      omega
    have hdigit : c.isDigit = false := by
      simp only [Char.isAlpha, Char.isUpper, Char.isLower, Char.isDigit, Bool.or_eq_true,
        Bool.and_eq_true, decide_eq_true_eq, Bool.and_eq_false_iff, decide_eq_false_iff_not,
        ge_iff_le, UInt32.le_iff_toNat_le] at h ⊢
      simp at h ⊢
      omega
    simp [Text.isDigit, Text.digitValue?, hascii, hdigit]
  all_goals decide

namespace KeepsLetters

lemma isStart_eq (hf : KeepsLetters f) (c : Char) : isStart (f c) = isStart c := by
  rcases hf c with h | ⟨h, h'⟩
  · rw [h]
  · rw [h, h']

lemma isWordChar_eq (hf : KeepsLetters f) (c : Char) : isWordChar (f c) = isWordChar c := by
  rcases hf c with h | ⟨h, h'⟩
  · rw [h]
  · simp [isWordChar, h, h']

lemma isDigit_eq (hf : KeepsLetters f) (c : Char) : Text.isDigit (f c) = Text.isDigit c := by
  rcases hf c with h | ⟨h, h'⟩
  · rw [h]
  · rw [isDigit_of_isStart h, isDigit_of_isStart h']

lemma beq_eq (hf : KeepsLetters f) (hd : isStart d = false) (c : Char) : (f c == d) = (c == d) := by
  rcases hf c with h | ⟨h, h'⟩
  · rw [h]
  · have hne : ∀ {x : Char}, isStart x = true → (x == d) = false := by
      intro x hx
      rw [beq_eq_false_iff_ne]
      rintro rfl
      simp [hd] at hx
    rw [hne h, hne h']

lemma map_beq_eq (hf : KeepsLetters f) {ds : List Char} (hds : ∀ d ∈ ds, isStart d = false)
    (cs : List Char) : (cs.map f == ds) = (cs == ds) := by
  induction cs generalizing ds with
  | nil => rfl
  | cons c cs ih =>
    cases ds with
    | nil => rfl
    | cons d ds =>
      obtain ⟨hd, hds⟩ := List.forall_mem_cons.1 hds
      rw [List.map_cons, List.cons_beq_cons, List.cons_beq_cons, hf.beq_eq hd, ih hds]

lemma splitAll_map (hf : KeepsLetters f) (cs : List Char) :
    Text.splitAll ' ' (cs.map f) = (Text.splitAll ' ' cs).map (List.map f) := by
  induction cs with
  | nil => rfl
  | cons c cs ih =>
    rw [List.map_cons, Text.splitAll, Text.splitAll, hf.beq_eq (by decide), ih]
    split
    · simp
    · cases Text.splitAll ' ' cs <;> simp

lemma areWords_map (hf : KeepsLetters f) (cs : List Char) : areWords (cs.map f) = areWords cs := by
  cases cs with
  | nil => rfl
  | cons c cs =>
    have hwords : (Text.splitAll ' ' ((c :: cs).map f)).all (fun w => !w.isEmpty) =
        (Text.splitAll ' ' (c :: cs)).all fun w => !w.isEmpty := by
      rw [hf.splitAll_map, List.all_map]
      simp [Function.comp_def]
    change (_ && isStart (f c)) = (_ && isStart c)
    rw [hwords, hf.isStart_eq]

lemma after?_map (hf : KeepsLetters f) (hd : isStart d = false) (cs : List Char) :
    Text.after? [d] (cs.map f) = (Text.after? [d] cs).map (List.map f) := by
  cases cs with
  | nil => rfl
  | cons c cs =>
    have hsame : (d == f c) = (d == c) := by
      rw [Bool.beq_comm, hf.beq_eq hd, Bool.beq_comm]
    simp only [List.map_cons, Text.after?, hsame]
    split <;> rfl

lemma afterDigits?_map (hf : KeepsLetters f) (cs : List Char) :
    afterDigits? (cs.map f) = (afterDigits? cs).map (List.map f) := by
  have hdigits : Text.isDigit ∘ f = Text.isDigit := funext hf.isDigit_eq
  rw [afterDigits?, afterDigits?, List.takeWhile_map, List.dropWhile_map, hdigits]
  simp only [List.isEmpty_map]
  split <;> rfl

lemma dropBlank_map (hf : KeepsLetters f) (cs : List Char) :
    dropBlank (cs.map f) = (dropBlank cs).map f := by
  have hdrop : ∀ cs : List Char, dropBlank cs = (Text.after? [' '] cs).getD cs := by
    intro cs
    unfold dropBlank
    split
    · rfl
    · next hne =>
      cases cs with
      | nil => rfl
      | cons c cs =>
        have hc : c ≠ ' ' := by
          rintro rfl
          exact hne cs rfl
        simp [Text.after?, hc.symm]
  rw [hdrop, hdrop, hf.after?_map (by decide)]
  cases Text.after? [' '] cs <;> rfl

/-- The text behind the second number of a size, if there is a comma. -/
lemma afterSize?_eq (cs : List Char) : afterSize? cs =
    (Text.after? ['('] cs).bind fun cs => (afterDigits? cs).bind fun cs =>
      ((Text.after? [','] cs).elim (some cs) fun more => afterDigits? (dropBlank more)).bind
        (Text.after? [')']) := by
  simp only [afterSize?, Option.bind_eq_bind]
  congr 1
  funext as
  congr 1
  funext bs
  cases Text.after? [','] bs <;> rfl

lemma afterSize?_map (hf : KeepsLetters f) (cs : List Char) :
    afterSize? (cs.map f) = (afterSize? cs).map (List.map f) := by
  rw [afterSize?_eq, afterSize?_eq, hf.after?_map (by decide)]
  cases Text.after? ['('] cs with
  | none => rfl
  | some as =>
    simp only [Option.map_some, Option.bind_some, hf.afterDigits?_map]
    cases afterDigits? as with
    | none => rfl
    | some bs =>
      simp only [Option.map_some, Option.bind_some, hf.after?_map (d := ',') (by decide)]
      cases Text.after? [','] bs with
      | none => simp [hf.after?_map (d := ')') (by decide)]
      | some more =>
        simp only [Option.map_some, Option.elim_some, hf.dropBlank_map, hf.afterDigits?_map]
        cases afterDigits? (dropBlank more) with
        | none => rfl
        | some ds => simp [hf.after?_map (d := ')') (by decide)]

/-- The name of a type stays one. -/
theorem isValid_map (hf : KeepsLetters f) (cs : List Char) : isValid (cs.map f) = isValid cs := by
  have hblank := hf.beq_eq (d := ' ') (by decide)
  have hwords : (fun c => isWordChar c || c == ' ') ∘ f = fun c => isWordChar c || c == ' ' :=
    funext fun c => by rw [Function.comp_apply, hf.isWordChar_eq, hblank]
  have hbrackets : ∀ d ∈ ['[', ']'], isStart d = false :=
    List.forall_mem_cons.2 ⟨rfl, List.forall_mem_cons.2 ⟨rfl, by simp⟩⟩
  have htail : ∀ tail : List Char, ((tail.map f).isEmpty || tail.map f == ['[', ']']) =
      (tail.isEmpty || tail == ['[', ']']) := fun tail => by
    rw [List.isEmpty_map, hf.map_beq_eq hbrackets]
  simp only [isValid, List.takeWhile_map, List.dropWhile_map, hwords, hf.areWords_map,
    hf.afterSize?_map]
  generalize cs.dropWhile (fun c => isWordChar c || c == ' ') = rest
  cases afterSize? rest with
  | none => rw [Option.map_none, Option.getD_none, Option.getD_none, htail]
  | some tail => rw [Option.map_some, Option.getD_some, Option.getD_some, htail]

end KeepsLetters

end

end TypeName

/-! ### Lower case -/

namespace Text

variable {c d : Char} {cs : List Char}

/-- The Latin letter in lower case, if that is one letter. -/
def lowerLetter (c : Char) : Char := if c = '\u212a' then 'k' else c.toLower

lemma lowerLatinChar_eq (h : c ≠ '\u0130') : lowerLatinChar c = [lowerLetter c] := by
  unfold lowerLatinChar lowerLetter
  simp only [beq_iff_eq, h, if_false]
  split <;> rfl

/-- Only the dotted capital I has two characters in lower case. -/
lemma lowerLatin_eq_map (h : '\u0130' ∉ cs) : lowerLatin cs = cs.map lowerLetter := by
  rw [lowerLatin, ← List.flatMap_pure_eq_map]
  exact List.flatMap_congr fun c hc => lowerLatinChar_eq fun heq => h (heq ▸ hc)

lemma mem_lowerLatin_of_mem (hc : c ∈ cs) (hd : d ∈ lowerLatinChar c) : d ∈ lowerLatin cs :=
  List.mem_flatMap.2 ⟨c, hc, hd⟩

lemma isLower_toLower_of_isAlpha (h : c.isAlpha = true) : c.toLower.isLower = true := by
  rw [Char.isLower_toLower_eq_isAlpha, h]

lemma keepsLetters_lowerLetter : TypeName.KeepsLetters lowerLetter := by
  intro c
  unfold lowerLetter
  split
  · next h =>
    subst h
    exact Or.inr (by decide)
  · by_cases hc : c.isUpper = true
    · have halpha : c.isAlpha = true := by simp [Char.isAlpha, hc]
      have hlower : c.toLower.isAlpha = true := by
        simp [Char.isAlpha, isLower_toLower_of_isAlpha halpha]
      exact Or.inr (by simp [TypeName.isStart, isLatinAnyCase, halpha, hlower])
    · exact Or.inl (Char.toLower_eq_of_not_isUpper hc)

lemma toLower_eq_of_not_isAlpha (h : c.isAlpha = false) : c.toLower = c := by
  refine Char.toLower_eq_of_not_isUpper fun hupper => ?_
  simp [Char.isAlpha, hupper] at h

/-! ### Blanks around the text -/

lemma mem_stripChars_of_mem (h : c ∈ cs) (hblank : isBlank c = false) : c ∈ stripChars cs := by
  have hdrop : ∀ {cs : List Char}, c ∈ cs → c ∈ dropBlanks cs := by
    intro cs h
    rw [← List.takeWhile_append_dropWhile (p := isBlank) (l := cs), List.mem_append] at h
    refine h.resolve_left fun htake => ?_
    have hmem : isBlank c = true := List.mem_takeWhile_imp htake
    simp [hblank] at hmem
  rw [stripChars, List.mem_reverse]
  exact hdrop (List.mem_reverse.2 (hdrop h))

/-- No digit is a blank. -/
lemma isBlank_of_isDigit (h : isDigit c = true) : isBlank c = false := by
  have hzeros : ∀ z ∈ digitZeros, ∀ r ∈ blankRanges, r.2 < z ∨ z + 9 < r.1 := by decide
  have hascii : ∀ r ∈ blankRanges, r.2 < 48 ∨ 57 < r.1 := by decide
  rw [isBlank, within, List.any_eq_false]
  intro r hr hin
  simp only [Bool.and_eq_true, decide_eq_true_eq] at hin
  unfold isDigit digitValue? at h
  split at h
  · split at h
    · next hdigit =>
      simp only [Char.isDigit, Bool.and_eq_true, decide_eq_true_eq, ge_iff_le,
        UInt32.le_iff_toNat_le] at hdigit
      have hval : c.val.toNat = c.toNat := rfl
      have hoff := hascii r hr
      simp at hdigit
      omega
    · simp at h
  · rw [Option.isSome_map, List.find?_isSome] at h
    obtain ⟨z, hz, hrange⟩ := h
    simp only [Bool.and_eq_true, decide_eq_true_eq] at hrange
    have hoff := hzeros z hz r hr
    omega

end Text

/-! ### The second parse -/

namespace Cast

variable {c : Cast} {d : Char} {v : Value} {s : String} {cs : List Char}

/-- The character is a letter of ASCII in lower case, a digit of ASCII, or a mark of names. -/
def IsPlainTypeChar (d : Char) : Prop :=
  d.isLower = true ∨ d.isDigit = true ∨ d ∈ ['_', ' ', ',', '(', ')', '[', ']']

/-- The character may stand in the text of a cast, but is no plain character of a name in lower
case: the dotted capital I, the long s, the dotless i, and digits beyond ASCII. -/
def IsForeign (d : Char) : Prop :=
  d = '\u0130' ∨ d = '\u017f' ∨ d = '\u0131' ∨ Text.isDigit d = true ∧ d.isDigit = false

instance : DecidablePred IsPlainTypeChar := fun _ => inferInstanceAs (Decidable (_ ∨ _ ∨ _))

instance : DecidablePred IsForeign := fun _ => inferInstanceAs (Decidable (_ ∨ _ ∨ _ ∨ _))

lemma isBlank_of_isForeign (h : IsForeign d) : Text.isBlank d = false := by
  rcases h with rfl | rfl | rfl | ⟨h, -⟩
  · decide
  · decide
  · decide
  · exact Text.isBlank_of_isDigit h

lemma not_isForeign_of_isStart (h : TypeName.isStart d = true) (hi : d ≠ '\u0130')
    (hs : d ≠ '\u017f') (hdotless : d ≠ '\u0131') : ¬ IsForeign d := by
  have hdigit := TypeName.isDigit_of_isStart h
  simp [IsForeign, hi, hs, hdotless, hdigit]

lemma isPlainTypeChar_lowerLatinChar_of_isAlpha (h : d.isAlpha = true) :
    (∀ e ∈ Text.lowerLatinChar d, IsPlainTypeChar e) ↔ ¬ IsForeign d := by
  have hne : ∀ e, e.isAlpha = false → d ≠ e := by
    rintro e he rfl
    simp [h] at he
  have hstart : TypeName.isStart d = true := by simp [TypeName.isStart, Text.isLatinAnyCase, h]
  have hlower : Text.lowerLatinChar d = [d.toLower] := by
    rw [Text.lowerLatinChar_eq (hne _ (by decide)), Text.lowerLetter, if_neg (hne _ (by decide))]
  rw [hlower]
  refine iff_of_true ?_ (not_isForeign_of_isStart hstart (hne _ (by decide)) (hne _ (by decide))
    (hne _ (by decide)))
  exact List.forall_mem_singleton.2 (Or.inl (Text.isLower_toLower_of_isAlpha h))

lemma isPlainTypeChar_lowerLatinChar_of_isDigit (h : Text.isDigit d = true) :
    (∀ e ∈ Text.lowerLatinChar d, IsPlainTypeChar e) ↔ ¬ IsForeign d := by
  have hne : ∀ e, Text.isDigit e = false → d ≠ e := by
    rintro e he rfl
    simp [h] at he
  have halpha : d.isAlpha = false := by
    by_contra halpha
    have hnodigit : Text.isDigit d = false :=
      TypeName.isDigit_of_isStart (by simp_all [TypeName.isStart, Text.isLatinAnyCase])
    simp [h] at hnodigit
  have hlower : Text.lowerLatinChar d = [d] := by
    rw [Text.lowerLatinChar_eq (hne _ (by decide)), Text.lowerLetter, if_neg (hne _ (by decide)),
      Text.toLower_eq_of_not_isAlpha halpha]
  have hsmall : d.isLower = false := by
    simp only [Char.isAlpha, Bool.or_eq_false_iff] at halpha
    exact halpha.2
  have hmarks : d ∉ ['_', ' ', ',', '(', ')', '[', ']'] := by
    intro hmem
    simp only [List.mem_cons, List.not_mem_nil, or_false] at hmem
    rcases hmem with rfl | rfl | rfl | rfl | rfl | rfl | rfl <;> exact absurd h (by decide)
  rw [hlower]
  simp only [List.mem_singleton, forall_eq, IsPlainTypeChar, IsForeign, hsmall, hmarks, h,
    hne '\u0130' (by decide), hne '\u017f' (by decide), hne '\u0131' (by decide)]
  simp

/-- Of the characters of names, the lower-case forms are plain but for the foreign ones. -/
lemma forall_isPlainTypeChar_iff (h : TypeName.IsTypeChar d) :
    (∀ e ∈ Text.lowerLatinChar d, IsPlainTypeChar e) ↔ ¬ IsForeign d := by
  have of_plain : ∀ {d e : Char}, Text.lowerLatinChar d = [e] → IsPlainTypeChar e →
      ¬ IsForeign d → ((∀ e ∈ Text.lowerLatinChar d, IsPlainTypeChar e) ↔ ¬ IsForeign d) := by
    intro d e hlower hplain hforeign
    exact iff_of_true (by rwa [hlower, List.forall_mem_singleton]) hforeign
  have of_foreign : ∀ {d : Char} (e : Char), e ∈ Text.lowerLatinChar d → ¬ IsPlainTypeChar e →
      IsForeign d → ((∀ e ∈ Text.lowerLatinChar d, IsPlainTypeChar e) ↔ ¬ IsForeign d) := by
    intro d e hlower hplain hforeign
    exact iff_of_false (fun hall => hplain (hall e hlower)) (not_not.2 hforeign)
  rcases h with h | h | h
  · simp only [TypeName.isWordChar, TypeName.isStart, Text.isLatinAnyCase, Bool.or_eq_true,
      beq_iff_eq] at h
    rcases h with (((((h | rfl) | rfl) | rfl) | rfl) | rfl) | h
    · exact isPlainTypeChar_lowerLatinChar_of_isAlpha h
    · exact of_foreign '\u017f' (by decide) (by decide) (by decide)
    · exact of_plain (e := 'k') (by decide) (by decide) (by decide)
    · exact of_foreign '\u0307' (by decide) (by decide) (by decide)
    · exact of_foreign '\u0131' (by decide) (by decide) (by decide)
    · exact of_plain (e := '_') (by decide) (by decide) (by decide)
    · exact isPlainTypeChar_lowerLatinChar_of_isDigit
        (Text.isDigit_of_ascii (Text.isAscii_of_isDigit h) h)
  · exact isPlainTypeChar_lowerLatinChar_of_isDigit h
  · simp only [List.mem_cons, List.not_mem_nil, or_false] at h
    rcases h with rfl | rfl | rfl | rfl | rfl | rfl <;>
      exact of_plain rfl (by decide) (by decide)

/-- The name of a type in lower case is the name of a type, unless a dotted capital I was in it. -/
lemma isValid_lowerLatin_iff (h : TypeName.isValid cs = true) :
    TypeName.isValid (Text.lowerLatin cs) = true ↔ '\u0130' ∉ cs := by
  constructor
  · intro hlower hmem
    have hdot : '\u0307' ∈ Text.lowerLatin cs := Text.mem_lowerLatin_of_mem hmem (by decide)
    have hchar := TypeName.isTypeChar_of_isValid hlower _ hdot
    revert hchar
    simp only [TypeName.IsTypeChar, not_or, imp_false]
    decide
  · intro hmem
    rw [Text.lowerLatin_eq_map hmem, Text.keepsLetters_lowerLetter.isValid_map, h]

lemma mem_stripChars_iff (hd : Text.isBlank d = false) :
    d ∈ Text.stripChars s.toList ↔ d ∈ s.toList :=
  ⟨Text.mem_of_mem_stripChars, fun h => Text.mem_stripChars_of_mem h hd⟩

/-- A cast is parsed again to itself, or is refused. -/
lemma parse_again (hs : v.asText? = some s) (h : parse v = .ok c) :
    parse c.toValue =
      if '\u0130' ∈ s.toList then .error (.castType c.toValue) else .ok c := by
  obtain ⟨hvalid, rfl⟩ := parse_eq_ok hs h
  rw [parse_toValue_ofName (Text.stripped_lowerLatin (Text.stripped_stripChars s.toList))
    (Text.lowerLatin_lowerLatin _), ite_congr (propext (isValid_lowerLatin_iff hvalid))
    (fun _ => rfl) fun _ => rfl, ite_not]
  exact ite_congr (propext (mem_stripChars_iff (by decide))) (fun _ => rfl) fun _ => rfl

/-- The names of kinds are plain. -/
lemma isPlainTypeChar_of_isKind (h : c.isKind = true) : ∀ d ∈ c.name.toList, IsPlainTypeChar d := by
  cases c with
  | kind k =>
    have hlower : k.name.toList.all Char.isLower = true := by cases k <;> decide
    exact fun d hd => Or.inl (List.all_eq_true.1 hlower d hd)
  | type name => simp [isKind] at h

/-- The name of a cast is plain if and only if no character of its text is foreign. -/
lemma forall_name_isPlainTypeChar_iff (hs : v.asText? = some s) (h : parse v = .ok c) :
    (∀ d ∈ c.name.toList, IsPlainTypeChar d) ↔ ∀ d ∈ s.toList, ¬ IsForeign d := by
  obtain ⟨hvalid, rfl⟩ := parse_eq_ok hs h
  rw [name_ofName, String.toList_ofList]
  have hchars := TypeName.isTypeChar_of_isValid hvalid
  constructor
  · intro hplain d hd hforeign
    have hmem := Text.mem_stripChars_of_mem hd (isBlank_of_isForeign hforeign)
    exact (forall_isPlainTypeChar_iff (hchars d hmem)).1
      (fun e he => hplain e (Text.mem_lowerLatin_of_mem hmem he)) hforeign
  · intro hforeign e he
    obtain ⟨d, hd, he⟩ := List.mem_flatMap.1 he
    exact (forall_isPlainTypeChar_iff (hchars d hd)).2
      (hforeign d (Text.mem_of_mem_stripChars hd)) e he

/-! ### Where casts are validated again -/

/-- A cast that was validated stays what it is where it is validated again: by its name, for an
item to order or to group by, and for what a function returns. -/
structure IsKept (v : Value) (c : Cast) : Prop where
  again : parse c.toValue = .ok c
  item : ∀ scope k p, Search.castKey scope k v p = p.withText (c.applyTo p.text)
  call : ∀ text, Filter.castCall c text =
    .ok (if c = .kind .text then "(" ++ text ++ ")::text" else c.applyTo text)

/-- A cast that was validated is refused wherever it is validated again. -/
structure IsLost (v : Value) (c : Cast) : Prop where
  again : parse c.toValue = .error (.castType c.toValue)
  item : ∀ scope k p, Search.castKey scope k v p = .error (.castType c.toValue)
  call : ∀ text, Filter.castCall c text = .error (.castType c.toValue)

lemma castKey_eq (hs : v.asText? = some s) (h : parse v = .ok c) (scope : Scope)
    (k : FieldKey) (p : Predicate) : Search.castKey scope k v p =
      (apply c.toValue p.text).bind fun text => p.withText text := by
  have hkey : ofKey scope.entity scope.schema k v = .ok c := by
    unfold ofKey
    split
    · simp [Value.asText?] at hs
    · exact h
  simp [Search.castKey, applyToKey, hkey, bind, Except.bind]

lemma castCall_eq (c : Cast) (text : String) : Filter.castCall c text =
    if c = .kind .text then .ok ("(" ++ text ++ ")::text") else apply c.toValue text := by
  unfold Filter.castCall
  split
  · simp
  · next hne => rw [if_neg hne]

lemma isKept_of_again (hs : v.asText? = some s) (h : parse v = .ok c)
    (hagain : parse c.toValue = .ok c) : IsKept v c where
  again := hagain
  item := fun scope k p => by
    rw [castKey_eq hs h, apply, hagain]
    rfl
  call := fun text => by
    rw [castCall_eq, apply, hagain]
    split <;> rfl

lemma isLost_of_again (hs : v.asText? = some s) (h : parse v = .ok c)
    (hagain : parse c.toValue = .error (.castType c.toValue)) : IsLost v c where
  again := hagain
  item := fun scope k p => by
    rw [castKey_eq hs h, apply, hagain]
    rfl
  call := fun text => by
    have hne : c ≠ .kind .text := by
      rintro rfl
      simp [toValue, parse] at hagain
    rw [castCall_eq, if_neg hne, apply, hagain]
    rfl

/-- A cast of a text is kept where it is validated again, unless a dotted capital I stands in the
text: then it is refused.  It is a kind or a plain name if and only if no foreign character stands
in the text. -/
theorem parse_kept_iff (hs : v.asText? = some s) (h : parse v = .ok c) :
    (IsKept v c ↔ '\u0130' ∉ s.toList) ∧ (IsLost v c ↔ '\u0130' ∈ s.toList) ∧
      ((c.isKind = true ∨ ∀ d ∈ c.name.toList, IsPlainTypeChar d) ↔
        ∀ d ∈ s.toList, ¬ IsForeign d) := by
  have hagain := parse_again hs h
  have hplain := forall_name_isPlainTypeChar_iff hs h
  refine ⟨⟨fun hkept hmem => ?_, fun hmem => ?_⟩, ⟨fun hlost => ?_, fun hmem => ?_⟩, ?_⟩
  · rw [if_pos hmem, hkept.again] at hagain
    simp at hagain
  · rw [if_neg hmem] at hagain
    exact isKept_of_again hs h hagain
  · by_contra hmem
    rw [if_neg hmem, hlost.again] at hagain
    simp at hagain
  · rw [if_pos hmem] at hagain
    exact isLost_of_again hs h hagain
  · rw [← hplain, or_iff_right_of_imp isPlainTypeChar_of_isKind]

/-- The Kelvin sign in a name becomes a k, and the name is kept. -/
theorem parse_kept_kelvin :
    parse (.text "to\u212aen") = .ok (.type "token") ∧
      IsKept (.text "to\u212aen") (.type "token") ∧
      ¬ IsLost (.text "to\u212aen") (.type "token") := by
  have hparse : parse (.text "to\u212aen") = .ok (.type "token") := rfl
  obtain ⟨hkept, hlost, -⟩ := parse_kept_iff rfl hparse
  exact ⟨hparse, hkept.2 (by decide), fun h => absurd (hlost.1 h) (by decide)⟩

/-- With a dotted capital I, a name is accepted once, with a combining dot in it, and then refused.
A long s stays in the name. -/
theorem dottedCapital_lost :
    parse (.text "\u0130nt") = .ok (.type "i\u0307nt") ∧
      parse (.text "i\u0307nt") = .error (.castType (.text "i\u0307nt")) ∧
      apply (Cast.toValue (.type "i\u0307nt")) "a" = .error (.castType (.text "i\u0307nt")) ∧
      parse (.text "\u017fmallint") = .ok (.type "\u017fmallint") ∧
      ¬ IsPlainTypeChar '\u0307' ∧ ¬ IsPlainTypeChar '\u017f' :=
  ⟨rfl, rfl, rfl, rfl, by decide, by decide⟩

end Cast

end DocumentSql

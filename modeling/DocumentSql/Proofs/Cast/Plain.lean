/-
Casts and quotes.

A cast wraps an expression, puts the name of a type behind it, or replaces the last navigation
operator in it.  None of this adds or removes a quote: names of types consist of letters, digits,
blanks and brackets.  So an expression with closed literals keeps them under every cast
(`applyToKey_closed`).

The name of a cast that was parsed is parsed once more when it is applied.  The second parse may
refuse it, but it does not turn a type into a kind (`not_kind_of_reparse`), so the result of a
call keeps its text under a cast to a type.
-/
import DocumentSql.Proofs.Key.Plain
import DocumentSql.Cast.Apply

namespace DocumentSql

open Sql

/-! ### Names of types -/

namespace TypeName

/-- A character that the name of a type may hold. -/
def IsTypeChar (c : Char) : Prop :=
  isWordChar c = true ∨ Text.isDigit c = true ∨ c ∈ [' ', '(', ')', ',', '[', ']']

lemma IsTypeChar.ne {c : Char} (h : IsTypeChar c) : c ≠ '\'' ∧ c ≠ '$' := by
  constructor <;> rintro rfl <;> revert h <;>
    simp only [IsTypeChar, not_or, imp_false] <;> decide

/-- A text goes on with another one behind characters of names of types. -/
def LeadsTo (cs rest : List Char) : Prop := ∃ ds, cs = ds ++ rest ∧ ∀ d ∈ ds, IsTypeChar d

lemma LeadsTo.trans {as bs cs : List Char} (h : LeadsTo as bs) (h' : LeadsTo bs cs) :
    LeadsTo as cs := by
  obtain ⟨xs, rfl, hxs⟩ := h
  obtain ⟨ys, rfl, hys⟩ := h'
  refine ⟨xs ++ ys, by simp, fun d hd => ?_⟩
  rcases List.mem_append.1 hd with hd | hd
  · exact hxs d hd
  · exact hys d hd

lemma leadsTo_of_after? {c : Char} {cs rest : List Char} (hc : IsTypeChar c)
    (h : Text.after? [c] cs = some rest) : LeadsTo cs rest :=
  ⟨[c], Text.after?_eq_some h, by simpa using hc⟩

lemma leadsTo_of_afterDigits? {cs rest : List Char} (h : afterDigits? cs = some rest) :
    LeadsTo cs rest := by
  unfold afterDigits? at h
  split at h
  · simp at h
  · obtain rfl : cs.dropWhile Text.isDigit = rest := by simpa using h
    exact ⟨cs.takeWhile Text.isDigit, List.takeWhile_append_dropWhile.symm,
      fun d hd => Or.inr (Or.inl (List.mem_takeWhile_imp hd))⟩

lemma leadsTo_dropBlank (cs : List Char) : LeadsTo cs (dropBlank cs) := by
  unfold dropBlank
  split
  · exact ⟨[' '], rfl, by simp [IsTypeChar]⟩
  · exact ⟨[], rfl, by simp⟩

lemma leadsTo_of_afterSize? {cs rest : List Char} (h : afterSize? cs = some rest) :
    LeadsTo cs rest := by
  simp only [afterSize?, Option.bind_eq_bind] at h
  obtain ⟨as, has, h⟩ := Option.bind_eq_some_iff.1 h
  obtain ⟨bs, hbs, h⟩ := Option.bind_eq_some_iff.1 h
  have hopen : LeadsTo cs bs :=
    (leadsTo_of_after? (by simp [IsTypeChar]) has).trans (leadsTo_of_afterDigits? hbs)
  split at h
  · next more hmore =>
    obtain ⟨ds, hds, h⟩ := Option.bind_eq_some_iff.1 h
    have hcomma : LeadsTo bs more := leadsTo_of_after? (by simp [IsTypeChar]) hmore
    have hsecond : LeadsTo more ds :=
      (leadsTo_dropBlank more).trans (leadsTo_of_afterDigits? hds)
    exact ((hopen.trans hcomma).trans hsecond).trans
      (leadsTo_of_after? (by simp [IsTypeChar]) h)
  · exact hopen.trans (leadsTo_of_after? (c := ')') (by simp [IsTypeChar]) (by simpa using h))

/-- The name of a type holds characters of names of types only. -/
lemma isTypeChar_of_isValid {cs : List Char} (h : isValid cs = true) :
    ∀ c ∈ cs, IsTypeChar c := by
  intro c hc
  simp only [isValid, Bool.and_eq_true, Bool.or_eq_true, List.isEmpty_iff, beq_iff_eq] at h
  obtain ⟨-, htail⟩ := h
  rw [← List.takeWhile_append_dropWhile (p := fun c => isWordChar c || c == ' ') (l := cs),
    List.mem_append] at hc
  rcases hc with hc | hc
  · have hword := List.mem_takeWhile_imp hc
    simp only [Bool.or_eq_true, beq_iff_eq] at hword
    rcases hword with hword | rfl
    · exact Or.inl hword
    · exact Or.inr (Or.inr (by simp))
  · have hin : ∀ tail : List Char, tail = [] ∨ tail = ['[', ']'] → c ∈ tail → IsTypeChar c := by
      rintro tail (rfl | rfl) hmem
      · simp at hmem
      · simp only [List.mem_cons, List.not_mem_nil, or_false] at hmem
        rcases hmem with rfl | rfl <;> exact Or.inr (Or.inr (by simp))
    cases hsize : afterSize? (cs.dropWhile fun c => isWordChar c || c == ' ') with
    | none =>
      rw [hsize] at htail
      exact hin _ htail hc
    | some tail =>
      rw [hsize] at htail
      obtain ⟨size, heq, hsize⟩ := leadsTo_of_afterSize? hsize
      rw [heq, List.mem_append] at hc
      rcases hc with hc | hc
      · exact hsize c hc
      · exact hin _ htail hc

end TypeName

/-! ### Letter case and blanks -/

namespace Text

lemma toLower_ne {c d : Char} (hd : d.toNat < 65) (h : c ≠ d) : c.toLower ≠ d := by
  unfold Char.toLower
  split
  · next hc =>
    intro heq
    have hval : (c.val + (32 : UInt32)).toNat = d.toNat := congrArg Char.toNat heq
    rw [UInt32.toNat_add] at hval
    have hlow : 65 ≤ c.val.toNat := hc.1
    have hhigh : c.val.toNat ≤ 90 := hc.2
    change (c.val.toNat + 32) % 2 ^ 32 = d.toNat at hval
    omega
  · exact h

lemma not_mem_lowerLatin {d : Char} (hd : d.toNat < 65) {cs : List Char} (h : d ∉ cs) :
    d ∉ lowerLatin cs := by
  simp only [lowerLatin, List.mem_flatMap, not_exists, not_and]
  intro c hc
  have hne : c ≠ d := fun heq => h (heq ▸ hc)
  unfold lowerLatinChar
  split
  · rintro hmem
    obtain rfl : d = 'k' := by simpa using hmem
    revert hd
    decide
  · split
    · rintro hmem
      rcases List.mem_cons.1 hmem with rfl | hmem
      · revert hd
        decide
      · obtain rfl : d = '\u0307' := by simpa using hmem
        revert hd
        decide
    · rintro hmem
      exact toLower_ne hd hne (by simpa [eq_comm] using hmem)

/-- No blank stands at the start or at the end of the text. -/
def Stripped (cs : List Char) : Prop :=
  (∀ c ∈ cs.head?, isBlank c = false) ∧ ∀ c ∈ cs.getLast?, isBlank c = false

lemma dropBlanks_eq_self {cs : List Char} (h : ∀ c ∈ cs.head?, isBlank c = false) :
    dropBlanks cs = cs := by
  cases cs with
  | nil => rfl
  | cons c cs => simp [dropBlanks, h c (by simp)]

lemma head_dropBlanks (cs : List Char) : ∀ c ∈ (dropBlanks cs).head?, isBlank c = false := by
  intro c hc
  have h := List.head?_dropWhile_not isBlank cs
  rw [show cs.dropWhile isBlank = dropBlanks cs from rfl, Option.mem_def.1 hc] at h
  simpa using h

lemma mem_of_mem_stripChars {cs : List Char} {c : Char} (h : c ∈ stripChars cs) : c ∈ cs := by
  rw [stripChars, List.mem_reverse] at h
  have hmem := (List.dropWhile_suffix isBlank).subset h
  exact (List.dropWhile_suffix isBlank).subset (List.mem_reverse.1 hmem)

lemma stripped_stripChars (cs : List Char) : Stripped (stripChars cs) := by
  have hlast : ∀ c ∈ (stripChars cs).getLast?, isBlank c = false := by
    intro c hc
    rw [stripChars, List.getLast?_reverse] at hc
    exact head_dropBlanks _ c hc
  refine ⟨fun c hc => ?_, hlast⟩
  -- what is left is a beginning of the text without the blanks at its start
  obtain ⟨ds, hds⟩ : stripChars cs <+: dropBlanks cs := by
    rw [← List.reverse_suffix, stripChars, List.reverse_reverse]
    exact List.dropWhile_suffix isBlank
  refine head_dropBlanks cs c ?_
  rw [← hds]
  cases hstrip : stripChars cs with
  | nil => simp [hstrip] at hc
  | cons d es => simpa [hstrip] using hc

lemma Stripped.stripChars_eq {cs : List Char} (h : Stripped cs) : stripChars cs = cs := by
  have hlast : ∀ c ∈ cs.reverse.head?, isBlank c = false := by simpa using h.2
  rw [stripChars, dropBlanks_eq_self h.1, dropBlanks_eq_self hlast, List.reverse_reverse]

lemma isBlank_toLower {c : Char} (h : isBlank c = false) : isBlank c.toLower = false := by
  by_cases hc : c.isUpper = true
  · -- the capital letters of ASCII
    have hrange : c.toLower.isLower = true := by
      rw [Char.isLower_toLower_eq_isAlpha]
      simp [Char.isAlpha, hc]
    generalize c.toLower = d at hrange
    simp only [Char.isLower, ge_iff_le, Bool.and_eq_true, decide_eq_true_eq] at hrange
    have hlow : 97 ≤ d.toNat := hrange.1
    have hhigh : d.toNat ≤ 122 := hrange.2
    simp only [isBlank, within, blankRanges, List.any_cons, List.any_nil, Bool.or_false,
      Bool.or_eq_false_iff, Bool.and_eq_false_iff, decide_eq_false_iff_not]
    omega
  · rw [Char.toLower_eq_of_not_isUpper hc]
    exact h

lemma lowerLatinChar_cases (c : Char) :
    lowerLatinChar c = ['k'] ∨ lowerLatinChar c = ['i', '\u0307'] ∨
      lowerLatinChar c = [c.toLower] := by
  unfold lowerLatinChar
  split
  · exact Or.inl rfl
  · split
    · exact Or.inr (Or.inl rfl)
    · exact Or.inr (Or.inr rfl)

lemma stripped_lowerLatin {cs : List Char} (h : Stripped cs) : Stripped (lowerLatin cs) := by
  constructor
  · cases cs with
    | nil => simp [lowerLatin]
    | cons c cs =>
      have hc := h.1 c (by simp)
      intro d hd
      rw [lowerLatin, List.flatMap_cons] at hd
      rcases lowerLatinChar_cases c with heq | heq | heq <;> rw [heq] at hd
      · obtain rfl : 'k' = d := by simpa using hd
        decide
      · obtain rfl : 'i' = d := by simpa using hd
        decide
      · obtain rfl : c.toLower = d := by simpa using hd
        exact isBlank_toLower hc
  · rcases List.eq_nil_or_concat cs with rfl | ⟨ds, c, rfl⟩
    · simp [lowerLatin]
    · have hc := h.2 c (by simp)
      intro d hd
      rw [lowerLatin, List.concat_eq_append, List.flatMap_append, List.flatMap_singleton] at hd
      rcases lowerLatinChar_cases c with heq | heq | heq <;> rw [heq] at hd
      · obtain rfl : 'k' = d := by simpa using hd
        decide
      · obtain rfl : '\u0307' = d := by simpa using hd
        decide
      · obtain rfl : c.toLower = d := by simpa using hd
        exact isBlank_toLower hc

lemma lowerLatin_lowerLatin (cs : List Char) : lowerLatin (lowerLatin cs) = lowerLatin cs := by
  have hchar : ∀ c, lowerLatin (lowerLatinChar c) = lowerLatinChar c := by
    intro c
    unfold lowerLatinChar
    split
    · decide
    · split
      · decide
      · next hk hi =>
        have hlower : lowerLatinChar c.toLower = [c.toLower] := by
          by_cases hc : c.isUpper = true
          · have hrange : c.toLower.isLower = true := by
              rw [Char.isLower_toLower_eq_isAlpha]
              simp [Char.isAlpha, hc]
            unfold lowerLatinChar
            rw [if_neg, if_neg, Char.toLower_toLower_eq_toLower]
            · intro heq
              rw [beq_iff_eq.1 heq] at hrange
              revert hrange
              decide
            · intro heq
              rw [beq_iff_eq.1 heq] at hrange
              revert hrange
              decide
          · rw [Char.toLower_eq_of_not_isUpper hc, lowerLatinChar, if_neg hk, if_neg hi,
              Char.toLower_eq_of_not_isUpper hc]
        simp [lowerLatin, hlower]
  induction cs with
  | nil => rfl
  | cons c cs ih =>
    have happend : lowerLatin (c :: cs) = lowerLatinChar c ++ lowerLatin cs := rfl
    rw [happend, show lowerLatin (lowerLatinChar c ++ lowerLatin cs) =
      lowerLatin (lowerLatinChar c) ++ lowerLatin (lowerLatin cs) from List.flatMap_append,
      hchar, ih]

end Text

/-! ### Parsed casts -/

namespace Cast

variable {v : Value} {s : String} {cs : List Char} {c : Cast}

lemma name_ofName (name : String) : (ofName name).name = name := by
  unfold ofName
  split
  · next k hk =>
    unfold CastKind.ofName? at hk
    split at hk <;> first | (obtain rfl := Option.some.inj hk; rfl) | simp at hk
  · rfl

/-- A cast of a text is named by it, in lower case and without the blanks around it. -/
lemma parse_eq_ok (hs : v.asText? = some s) (h : parse v = .ok c) :
    TypeName.isValid (Text.stripChars s.toList) = true ∧
      c = ofName (String.ofList (Text.lowerLatin (Text.stripChars s.toList))) := by
  unfold parse at h
  split at h
  · next k =>
    obtain rfl : kind k = c := by simpa using h
    obtain rfl : k.name = s := by simpa [Value.asText?] using hs
    cases k <;> decide
  · rw [hs] at h
    dsimp only at h
    split at h
    · next hvalid => exact ⟨hvalid, (Except.ok.inj h).symm⟩
    · simp at h

/-- The names of kinds are names of types. -/
lemma isValid_of_isKind {k : CastKind} (h : ofName (String.ofList cs) = kind k) :
    TypeName.isValid cs = true := by
  have hname := name_ofName (String.ofList cs)
  rw [h] at hname
  obtain rfl : cs = k.name.toList := by
    rw [← String.toList_ofList (l := cs), ← hname]
    rfl
  cases k <;> decide

/-- A name in lower case is parsed to itself if and only if it is the name of a type. -/
lemma parse_toValue_ofName (hstrip : Text.Stripped cs) (hlower : Text.lowerLatin cs = cs) :
    parse (ofName (String.ofList cs)).toValue =
      if TypeName.isValid cs then .ok (ofName (String.ofList cs))
      else .error (.castType (ofName (String.ofList cs)).toValue) := by
  cases hname : ofName (String.ofList cs) with
  | kind k => rw [if_pos (isValid_of_isKind hname)]; rfl
  | type name =>
    obtain rfl : name = String.ofList cs := by
      have heq := name_ofName (String.ofList cs)
      rwa [hname] at heq
    simp [parse, toValue, Value.asText?, hstrip.stripChars_eq, hlower, hname]

lemma exists_asText_of_parse (h : parse v = .ok c) : ∃ s, v.asText? = some s := by
  cases hs : v.asText? with
  | some s => exact ⟨s, rfl⟩
  | none =>
    unfold parse at h
    split at h
    · simp [Value.asText?] at hs
    · simp [hs] at h

/-- A cast to a type is named by the name of a type, in lower case. -/
lemma exists_name_of_parse {n : String} (h : parse v = .ok (.type n)) :
    ∃ cs, TypeName.isValid cs = true ∧ n.toList = Text.lowerLatin cs := by
  obtain ⟨s, hs⟩ := exists_asText_of_parse h
  obtain ⟨hvalid, hc⟩ := parse_eq_ok hs h
  have hname : n = _ := (congrArg name hc).trans (name_ofName _)
  exact ⟨_, hvalid, by rw [hname, String.toList_ofList]⟩

/-- The name of a cast to a type holds no literals and no placeholders. -/
def IsInert (c : Cast) : Prop := ∀ n, c = .type n → Inert n

lemma isInert_kind (k : CastKind) : (kind k).IsInert := fun n hn => by simp at hn

lemma isInert_of_parse (h : parse v = .ok c) : c.IsInert := by
  rintro n rfl
  obtain ⟨cs, hvalid, hn⟩ := exists_name_of_parse h
  have hchars := TypeName.isTypeChar_of_isValid hvalid
  constructor
  · rw [hn]
    exact Text.not_mem_lowerLatin (by decide) fun hc => (hchars _ hc).ne.1 rfl
  · rw [hn]
    exact Text.not_mem_lowerLatin (by decide) fun hc => (hchars _ hc).ne.2 rfl

/-- A parsed cast that is parsed again stays what it is, if it is not refused. -/
theorem parse_toValue {d : Cast} (h : parse v = .ok c) (h' : parse c.toValue = .ok d) : d = c := by
  obtain ⟨s, hs⟩ := exists_asText_of_parse h
  obtain ⟨-, rfl⟩ := parse_eq_ok hs h
  rw [parse_toValue_ofName (Text.stripped_lowerLatin (Text.stripped_stripChars s.toList))
    (Text.lowerLatin_lowerLatin _)] at h'
  split at h'
  · exact (Except.ok.inj h').symm
  · simp at h'

/-! ### Expressions under casts -/

lemma cutLast_eq_some {part cs before after : List Char}
    (h : Text.cutLast part cs = some (before, after)) : cs = before ++ part ++ after := by
  induction cs generalizing before with
  | nil =>
    unfold Text.cutLast at h
    split at h
    · next hpart =>
      obtain ⟨rfl, rfl⟩ : [] = before ∧ [] = after := by simpa using h
      simpa using hpart
    · simp at h
  | cons c cs ih =>
    unfold Text.cutLast at h
    split at h
    · next b a hcut =>
      obtain ⟨rfl, rfl⟩ : c :: b = before ∧ a = after := by simpa using h
      simp [ih hcut]
    · obtain ⟨a, ha, heq⟩ := Option.map_eq_some_iff.1 h
      obtain ⟨rfl, rfl⟩ : [] = before ∧ a = after := by simpa using heq
      simpa using Text.after?_eq_some ha

lemma closed_replaceLast? {part replacement cs ds : List Char} (hc : Closed cs)
    (hpart : '\'' ∉ part) (hreplacement : '\'' ∉ replacement)
    (h : Text.replaceLast? part replacement cs = some ds) : Closed ds := by
  obtain ⟨⟨before, after⟩, hcut, rfl⟩ := Option.map_eq_some_iff.1 h
  rw [cutLast_eq_some hcut] at hc
  simp only [Closed, List.count_append, List.count_eq_zero_of_not_mem hpart,
    List.count_eq_zero_of_not_mem hreplacement] at hc ⊢
  exact hc

lemma operand_cases (expr : String) : operand expr = expr ∨ operand expr = "(" ++ expr ++ ")" := by
  unfold operand
  dsimp only
  split
  · exact Or.inl rfl
  · exact Or.inr rfl

/-- The operators of the navigations that a cast to text looks for, as JSON and as text. -/
def arrows : List (List Char × List Char) :=
  [(" -> ".toList, " ->> ".toList), (" #> ".toList, " #>> ".toList)]

/-- A cast to text turns a navigation into its textual form, leaves a text as it is, or casts the
expression as an operand. -/
lemma asText_cases (expr : String) :
    (∃ arrow ∈ arrows, ∃ cs, Text.replaceLast? arrow.1 arrow.2 expr.toList = some cs ∧
        asText expr = String.ofList cs) ∨
      asText expr = expr ∨ asText expr = operand expr ++ "::text" := by
  unfold asText textNavigation?
  split
  · next cs hcs =>
    refine Or.inl ?_
    split at hcs
    · next ds hds =>
      obtain rfl := Option.some.inj hcs
      exact ⟨(" -> ".toList, " ->> ".toList), by simp [arrows], ds, hds, rfl⟩
    · exact ⟨(" #> ".toList, " #>> ".toList), by simp [arrows], cs, hcs, rfl⟩
  · refine Or.inr ?_
    split
    · exact Or.inl rfl
    · exact Or.inr rfl

lemma closed_operand {expr : String} (h : Closed expr.toList) :
    Closed (operand expr).toList := by
  rcases operand_cases expr with heq | heq
  · rwa [heq]
  · rw [heq]
    exact closed_append (closed_append (by decide) h) (by decide)

lemma closed_asText {expr : String} (h : Closed expr.toList) :
    Closed (asText expr).toList := by
  rcases asText_cases expr with ⟨arrow, harrow, cs, hcs, heq⟩ | heq | heq
  · have hquote : ∀ arrow ∈ arrows, '\'' ∉ arrow.1 ∧ '\'' ∉ arrow.2 := by decide
    rw [heq, String.toList_ofList]
    exact closed_replaceLast? h (hquote arrow harrow).1 (hquote arrow harrow).2 hcs
  · rwa [heq]
  · rw [heq]
    exact closed_append (closed_operand h) (by decide)

/-- A cast keeps closed literals closed. -/
theorem closed_applyTo {c : Cast} {expr : String} (hc : c.IsInert) (h : Closed expr.toList) :
    Closed (c.applyTo expr).toList := by
  have hwrap : ∀ {pre post : String}, Inert pre → Inert post →
      Closed (pre ++ expr ++ post).toList :=
    fun hpre hpost => closed_append (closed_append hpre.closed h) hpost.closed
  cases c with
  | kind k =>
    cases k with
    | direct => exact h
    | text => exact closed_asText h
    | boolean => exact hwrap (by decide) (by decide)
    | numeric => exact hwrap (by decide) (by decide)
  | type n =>
    exact closed_append (closed_append (closed_operand h) (by decide))
      (hc n rfl).closed

lemma closed_apply {v : Value} {expr s : String} (h : Closed expr.toList)
    (hs : apply v expr = .ok s) : Closed s.toList := by
  obtain ⟨c, hc, rfl⟩ := Result.map_eq_ok_iff.1 hs
  exact closed_applyTo (isInert_of_parse hc) h

/-- The cast of a key keeps closed literals closed. -/
theorem closed_applyToKey {e : Entity} {schema explicit : Value} {k : FieldKey}
    {expr s : String} (h : Closed expr.toList)
    (hs : applyToKey e schema k expr explicit = .ok s) : Closed s.toList := by
  obtain ⟨c, -, hs⟩ := Result.bind_eq_ok_iff.1 hs
  exact closed_apply h hs

end Cast

end DocumentSql

/-
Reading an SQL text from left to right.

`tokens` finds the literals of a text by searching for their ends.  Here the same parts are
found by a reader that goes over the text once and only knows where it stands: outside the
literals, inside of one, or in the digits of a placeholder.  A quote outside opens a literal if
there is another quote behind it.  `tokens_eq_scan` says that both readings agree on every text.

The one-pass reading gives the two laws that the numbering of fragments rests on:

* `tokens_append`: a text whose literals are closed is read on its own, whatever follows it, as
  long as no word character follows a placeholder at its end (a text without dollar signs ends with
  none, `tokens_append_of_no_dollar`);
* `tokens_renumber`: numbering the placeholders of a text changes their digits and nothing else.
-/
import DocumentSql.Sql.Placeholder
import DocumentSql.Proofs.Text.Digit
import Mathlib

namespace DocumentSql.Sql

/-- Where a reader of a text stands. -/
inductive Mode where
  /-- Outside the literals. -/
  | outside
  /-- Inside a literal. -/
  | inside
  /-- Behind the dollar sign of a placeholder, in its digits. -/
  | number
deriving DecidableEq

/-- The parts read with one character, and where the reader stands behind it. -/
def step (m : Mode) (c : Char) (cs : List Char) : List Token × Mode :=
  if m = .inside then ([.plain c], if c = '\'' then .outside else .inside)
  else if m = .number ∧ Text.isDigit c = true then ([], .number)
  else if c = '\'' then ([.plain c], if '\'' ∈ cs then .inside else .outside)
  else if c = '$' then
    match markDigits? cs with
    | some digits => ([.mark digits], .number)
    | none => ([.plain c], .outside)
  else ([.plain c], .outside)

/-- The parts of a text for a reader who stands somewhere. -/
def scan (m : Mode) : List Char → List Token
  | [] => []
  | c :: cs => (step m c cs).1 ++ scan (step m c cs).2 cs

@[simp] lemma scan_nil (m : Mode) : scan m [] = [] := rfl

lemma scan_cons (m : Mode) (c : Char) (cs : List Char) :
    scan m (c :: cs) = (step m c cs).1 ++ scan (step m c cs).2 cs := rfl

/-! ### Single steps -/

lemma step_inside (c : Char) (cs : List Char) :
    step .inside c cs = ([.plain c], if c = '\'' then .outside else .inside) := by
  simp [step]

lemma step_number_digit {c : Char} (h : Text.isDigit c = true) (cs : List Char) :
    step .number c cs = ([], .number) := by
  simp [step, h]

lemma step_number_of_not_digit {c : Char} (h : Text.isDigit c = false) (cs : List Char) :
    step .number c cs = step .outside c cs := by
  simp [step, h]

lemma step_quote (cs : List Char) :
    step .outside '\'' cs = ([.plain '\''], if '\'' ∈ cs then .inside else .outside) := by
  simp [step]

lemma step_mark {cs digits : List Char} (h : markDigits? cs = some digits) :
    step .outside '$' cs = ([.mark digits], .number) := by
  simp [step, h]

lemma step_dollar {cs : List Char} (h : markDigits? cs = none) :
    step .outside '$' cs = ([.plain '$'], .outside) := by
  simp [step, h]

lemma step_plain {c : Char} (hq : c ≠ '\'') (hd : c ≠ '$') (cs : List Char) :
    step .outside c cs = ([.plain c], .outside) := by
  simp [step, hq, hd]

/-- In the digits of a placeholder the reader passes the digits and then stands outside. -/
lemma scan_number (cs : List Char) :
    scan .number cs = scan .outside (cs.dropWhile Text.isDigit) := by
  induction cs with
  | nil => rfl
  | cons c cs ih =>
    by_cases h : Text.isDigit c = true
    · rw [scan_cons, step_number_digit h, List.dropWhile_cons_of_pos h]
      simpa using ih
    · rw [List.dropWhile_cons_of_neg h, scan_cons, scan_cons,
        step_number_of_not_digit (by simpa using h)]

/-! ### Literals -/

lemma literalRest?_eq_none_iff (cs : List Char) : literalRest? cs = none ↔ '\'' ∉ cs := by
  fun_induction literalRest? cs with
  | case1 => simp
  | case2 cs rest h ih => simp
  | case3 cs h ih => simp
  | case4 cs hne => simp
  | case5 c cs hne hq ih =>
    have hc : c ≠ '\'' := by
      rintro rfl
      exact hq rfl
    simp [ih, Ne.symm hc]

lemma markDigits?_eq_takeWhile {cs digits : List Char} (h : markDigits? cs = some digits) :
    digits = cs.takeWhile Text.isDigit := by
  unfold markDigits? at h
  split at h
  · simpa using h.symm
  · split at h <;> simp_all

/-- Behind the digits of a placeholder stands no word character. -/
lemma not_word_of_markDigits? {cs digits : List Char} (h : markDigits? cs = some digits) :
    ∀ c ∈ (cs.dropWhile Text.isDigit).head?, Text.isWord c = false := by
  intro c hc
  unfold markDigits? at h
  split at h
  · next hnil => simp [hnil] at hc
  · next d ds hd =>
    have hcd : d = c := by simpa [hd] using hc
    subst hcd
    by_contra hw
    simp [hw] at h

lemma tokensFrom_passed (cs : List Char) :
    tokensFrom 0 (cs.takeWhile Text.isDigit).length cs =
      tokens (cs.dropWhile Text.isDigit) := by
  induction cs with
  | nil => rfl
  | cons c cs ih =>
    by_cases h : Text.isDigit c = true
    · rw [List.takeWhile_cons_of_pos h, List.dropWhile_cons_of_pos h, List.length_cons,
        tokensFrom, ih]
    · rw [List.takeWhile_cons_of_neg h, List.dropWhile_cons_of_neg h]
      rfl

/-- Copying a literal up to its end is reading it from inside. -/
lemma tokensFrom_literal {cs lit : List Char} (h : literalRest? cs = some lit)
    (ih : ∀ ds : List Char, ds.length ≤ cs.length → tokens ds = scan .outside ds) :
    tokensFrom lit.length 0 cs = scan .inside cs := by
  fun_induction literalRest? cs generalizing lit with
  | case1 => simp at h
  | case2 cs rest hrest ih₂ =>
    obtain rfl : '\'' :: '\'' :: rest = lit := by simpa using h
    have hq : '\'' ∈ cs := by
      by_contra hn
      simp [(literalRest?_eq_none_iff cs).2 hn] at hrest
    have hcs := ih₂ hrest fun ds hd => ih ds (by simp only [List.length_cons]; omega)
    simp only [List.length_cons, tokensFrom, hcs, scan_cons, step_inside, step_quote, hq,
      if_true, List.singleton_append]
  | case3 cs hnone ih₂ =>
    obtain rfl : ['\''] = lit := by simpa using h
    have hq : '\'' ∉ cs := (literalRest?_eq_none_iff cs).1 hnone
    have hcs : tokensFrom 0 0 cs = scan .outside cs :=
      ih cs (by simp only [List.length_cons]; omega)
    simp only [List.length_cons, List.length_nil, tokensFrom, hnone, Option.getD_none, hcs,
      scan_cons, step_inside, step_quote, hq, if_true, if_false, List.singleton_append]
  | case4 cs hne =>
    obtain rfl : ['\''] = lit := by simpa using h
    have hcs : tokensFrom 0 0 cs = scan .outside cs :=
      ih cs (by simp only [List.length_cons]; omega)
    simp only [List.length_cons, List.length_nil, tokensFrom, hcs, scan_cons, step_inside,
      if_true, List.singleton_append]
  | case5 c cs hne hq ih₂ =>
    have hc : c ≠ '\'' := by
      rintro rfl
      exact hq rfl
    obtain ⟨rest, hrest, rfl⟩ := Option.map_eq_some_iff.1 h
    have hcs := ih₂ hrest fun ds hd => ih ds (by simp only [List.length_cons]; omega)
    simp only [List.length_cons, tokensFrom, hcs, scan_cons, step_inside, hc, if_false,
      List.singleton_append]

/-- Reading in one pass finds the parts that searching for the ends of literals finds. -/
theorem tokens_eq_scan (cs : List Char) : tokens cs = scan .outside cs := by
  induction hn : cs.length using Nat.strong_induction_on generalizing cs with
  | _ n ih =>
    subst hn
    cases cs with
    | nil => rfl
    | cons c cs =>
      have hcs : tokens cs = scan .outside cs := ih cs.length (by simp) cs rfl
      have hle : ∀ ds : List Char, ds.length ≤ cs.length → tokens ds = scan .outside ds :=
        fun ds hd => ih ds.length (by simp only [List.length_cons]; omega) ds rfl
      rw [tokens, tokensFrom, scan_cons]
      by_cases hq : c = '\''
      · subst hq
        rw [if_pos rfl, step_quote]
        by_cases hmem : '\'' ∈ cs
        · obtain ⟨lit, hlit⟩ : ∃ lit, literalRest? cs = some lit := by
            rw [← Option.isSome_iff_exists, Option.isSome_iff_ne_none]
            exact fun hn => (literalRest?_eq_none_iff cs).1 hn hmem
          rw [hlit, Option.getD_some, tokensFrom_literal hlit hle]
          simp [hmem]
        · rw [(literalRest?_eq_none_iff cs).2 hmem]
          simpa [tokens, hmem] using hcs
      · rw [if_neg hq]
        by_cases hd : c = '$'
        · subst hd
          rw [if_pos rfl]
          cases hm : markDigits? cs with
          | none => simpa [tokens, step_dollar hm] using hcs
          | some digits =>
            have hdrop : (cs.dropWhile Text.isDigit).length ≤ cs.length :=
              (List.dropWhile_suffix _).length_le
            rw [step_mark hm, markDigits?_eq_takeWhile hm, scan_number, ← hle _ hdrop]
            simpa using tokensFrom_passed cs
        · rw [if_neg hd, step_plain hq hd]
          simpa [tokens] using hcs

/-! ### Texts one behind the other -/

/-- The literals of a text are closed for a reader who stands somewhere at its start. -/
def Balanced (m : Mode) (cs : List Char) : Prop :=
  cs.count '\'' % 2 = if m = .inside then 1 else 0

/-- The literals of a text are closed: its quotes are even in number. -/
def Closed (cs : List Char) : Prop := cs.count '\'' % 2 = 0

/-- No digit and no word character stands at the start of a text. -/
def Breaks (cs : List Char) : Prop :=
  ∀ c ∈ cs.head?, Text.isWord c = false ∧ Text.isDigit c = false

/-- No placeholder stands at the end of a text. -/
def Settled (cs : List Char) : Prop :=
  ∀ c ∈ cs.getLast?, c ≠ '$' ∧ Text.isDigit c = false

instance : DecidablePred Closed := fun cs =>
  inferInstanceAs (Decidable (cs.count '\'' % 2 = 0))

-- The instances for an `Option` are named: the search prefers the one that tries all characters.
instance : DecidablePred Breaks := fun cs =>
  Option.decidableForallMem cs.head?

instance : DecidablePred Settled := fun cs =>
  Option.decidableForallMem cs.getLast?

/-- A placeholder at the end of the first text is not changed by what follows it. -/
def Seam (as bs : List Char) : Prop := Settled as ∨ Breaks bs

lemma markDigits?_append {cs bs : List Char} (hs : Seam ('$' :: cs) bs) :
    markDigits? (cs ++ bs) = markDigits? cs := by
  have htail : (cs.dropWhile Text.isDigit = [] → Breaks bs) := by
    intro hnil
    rcases hs with hs | hs
    · exfalso
      have hall : ∀ c ∈ cs, Text.isDigit c = true := List.dropWhile_eq_nil_iff.1 hnil
      rcases List.eq_nil_or_concat cs with rfl | ⟨ds, d, rfl⟩
      · exact (hs '$' (by simp)).1 rfl
      · have hd := (hs d (by simp [List.getLast?_cons])).2
        rw [hall d (by simp)] at hd
        exact absurd hd (by simp)
    · exact hs
  unfold markDigits?
  rw [List.dropWhile_append, List.takeWhile_append]
  rcases hd : cs.dropWhile Text.isDigit with _ | ⟨d, ds⟩
  · have hbreak := htail hd
    have hall : cs.takeWhile Text.isDigit = cs := by
      simpa [hd] using List.takeWhile_append_dropWhile (p := Text.isDigit) (l := cs)
    cases bs with
    | nil => simp [hall]
    | cons b bs =>
      obtain ⟨hw, hdig⟩ := hbreak b (by simp)
      simp [hall, hw, hdig]
  · have hne : (cs.takeWhile Text.isDigit).length ≠ cs.length := by
      intro hlen
      have := congrArg List.length (List.takeWhile_append_dropWhile (p := Text.isDigit) (l := cs))
      simp only [List.length_append, hd, List.length_cons] at this
      omega
    simp [hne]

lemma isDigit_quote : Text.isDigit '\'' = false := by decide

/-- When the reader stands inside a literal behind a character. -/
lemma step_snd_eq_inside_iff (m : Mode) (c : Char) (cs : List Char) :
    (step m c cs).2 = .inside ↔
      if m = .inside then c ≠ '\'' else c = '\'' ∧ '\'' ∈ cs := by
  by_cases hm : m = .inside
  · by_cases hq : c = '\'' <;> simp [step, hm, hq]
  · by_cases hq : c = '\''
    · by_cases hmem : '\'' ∈ cs <;> simp [step, hm, hq, hmem, isDigit_quote]
    · unfold step
      simp only [hm, hq, if_false, false_and, iff_false]
      split
      · simp
      · split
        · split <;> simp
        · simp

lemma Balanced.step {m : Mode} {c : Char} {cs : List Char} (h : Balanced m (c :: cs)) :
    Balanced (step m c cs).2 cs := by
  have hpos : cs.count '\'' % 2 = 1 → '\'' ∈ cs := by
    intro hodd
    by_contra hn
    rw [List.count_eq_zero_of_not_mem hn] at hodd
    omega
  have hin := step_snd_eq_inside_iff m c cs
  unfold Balanced at h ⊢
  rw [List.count_cons] at h
  by_cases hm : m = .inside
  · by_cases hq : c = '\'' <;> simp_all
    omega
  · by_cases hq : c = '\''
    · by_cases hmem : '\'' ∈ cs <;> simp_all
      omega
    · simp_all

/-- The reader stands in a number behind a dollar sign, or behind a digit of the number. -/
lemma step_snd_eq_number {m : Mode} {c : Char} {cs : List Char}
    (h : (step m c cs).2 = .number) : c = '$' ∨ m = .number ∧ Text.isDigit c = true := by
  unfold step at h
  split at h
  · split at h <;> simp at h
  · split at h
    · next hnumber => exact Or.inr hnumber
    · split at h
      · split at h <;> simp at h
      · split at h
        · next hdollar => exact Or.inl hdollar
        · simp at h

lemma Settled.tail {c : Char} {cs : List Char} (h : Settled (c :: cs)) : Settled cs := by
  intro d hd
  exact h d (by rcases cs with _ | ⟨e, es⟩ <;> simp_all)

lemma Seam.tail {c : Char} {cs bs : List Char} (h : Seam (c :: cs) bs) : Seam cs bs :=
  h.imp Settled.tail id

/-- A number that ends the first text is not continued by the second. -/
lemma Seam.breaks_of_number {m : Mode} {c : Char} {bs : List Char} (h : Seam [c] bs)
    (hnumber : (step m c []).2 = .number) : Breaks bs := by
  rcases h with hsettled | hbreaks
  · obtain ⟨hdollar, hdigit⟩ := hsettled c (by simp)
    rcases step_snd_eq_number hnumber with hc | ⟨-, hc⟩
    · exact absurd hc hdollar
    · simp [hdigit] at hc
  · exact hbreaks

lemma step_append {m : Mode} {c : Char} {cs bs : List Char} (hb : Balanced m (c :: cs))
    (hs : c = '$' → Seam (c :: cs) bs) : step m c (cs ++ bs) = step m c cs := by
  have hmark : c = '$' → markDigits? (cs ++ bs) = markDigits? cs := by
    rintro rfl
    exact markDigits?_append (hs rfl)
  have hquote : m ≠ .inside → c = '\'' → '\'' ∈ cs := by
    rintro hm rfl
    have hodd : (cs.count '\'' + 1) % 2 = 0 := by simpa [Balanced, hm] using hb
    by_contra hn
    rw [List.count_eq_zero_of_not_mem hn] at hodd
    omega
  unfold step
  by_cases hm : m = .inside
  · simp [hm]
  · by_cases hq : c = '\''
    · simp [hm, hq, hquote hm hq]
    · by_cases hd : c = '$'
      · simp [hm, hd, hmark hd]
      · simp [hm, hq, hd]

/-- A text whose literals are closed is read on its own, whatever follows it. Only a reader who may
meet the end of the text in a number asks what follows. -/
lemma scan_append {m : Mode} {as bs : List Char} (hb : Balanced m as)
    (hs : '$' ∈ as ∨ m = .number → Seam as bs) (hm : as = [] → m = .number → Breaks bs) :
    scan m (as ++ bs) = scan m as ++ scan .outside bs := by
  induction as generalizing m with
  | nil =>
    cases m with
    | outside => simp
    | inside => simp [Balanced] at hb
    | number =>
      rw [List.nil_append, scan_number, scan_number]
      cases bs with
      | nil => rfl
      | cons b bs =>
        have hdig := (hm rfl rfl b (by simp)).2
        simp [hdig]
  | cons c cs ih =>
    have hseam : '$' ∈ cs ∨ (step m c cs).2 = .number → Seam (c :: cs) bs := by
      rintro (hmem | hnumber)
      · exact hs (Or.inl (List.mem_cons_of_mem c hmem))
      · rcases step_snd_eq_number hnumber with rfl | ⟨rfl, -⟩
        · exact hs (Or.inl List.mem_cons_self)
        · exact hs (Or.inr rfl)
    rw [List.cons_append, scan_cons, scan_cons,
      step_append hb fun hc => hs (Or.inl (by simp [hc])), List.append_assoc,
      ih hb.step (fun h => (hseam h).tail)]
    rintro rfl hnumber
    exact (hseam (Or.inr hnumber)).breaks_of_number hnumber

/-- A text whose literals are closed is read on its own, whatever follows it. -/
theorem tokens_append {as bs : List Char} (hc : Closed as) (hs : Seam as bs) :
    tokens (as ++ bs) = tokens as ++ tokens bs := by
  rw [tokens_eq_scan, tokens_eq_scan, tokens_eq_scan]
  exact scan_append (by simpa [Balanced, Closed] using hc) (fun _ => hs) (by simp)

/-- A text without dollar signs has no placeholder that what follows it could change. -/
lemma tokens_append_of_no_dollar {as bs : List Char} (hc : Closed as) (hd : '$' ∉ as) :
    tokens (as ++ bs) = tokens as ++ tokens bs := by
  rw [tokens_eq_scan, tokens_eq_scan, tokens_eq_scan]
  exact scan_append (by simpa [Balanced, Closed] using hc) (by simp [hd]) (by simp)

/-! ### Numbering -/

@[simp] lemma Token.isMark_plain (c : Char) : (Token.plain c).isMark = false := rfl

@[simp] lemma Token.isMark_mark (digits : List Char) : (Token.mark digits).isMark = true := rfl

/-- The parts with their placeholders numbered from left to right, behind a given number. -/
def numbered (n : ℕ) : List Token → List Token
  | [] => []
  | .plain c :: ts => .plain c :: numbered n ts
  | .mark _ :: ts => .mark (Nat.toDigits 10 (n + 1)) :: numbered (n + 1) ts

lemma numbered_append (n : ℕ) (ts us : List Token) :
    numbered n (ts ++ us) = numbered n ts ++ numbered (n + ts.countP Token.isMark) us := by
  induction ts generalizing n with
  | nil => rfl
  | cons t ts ih =>
    cases t with
    | plain c => simp [numbered, ih]
    | mark digits => simp [numbered, ih, List.countP_cons, Nat.add_assoc, Nat.add_comm 1]

@[simp] lemma countP_numbered (n : ℕ) (ts : List Token) :
    (numbered n ts).countP Token.isMark = ts.countP Token.isMark := by
  induction ts generalizing n with
  | nil => rfl
  | cons t ts ih => cases t <;> simp [numbered, ih, List.countP_cons]

@[simp] lemma numbered_numbered (n k : ℕ) (ts : List Token) :
    numbered n (numbered k ts) = numbered n ts := by
  induction ts generalizing n k with
  | nil => rfl
  | cons t ts ih => cases t <;> simp [numbered, ih]

lemma intDigits_succ (n : ℕ) : intDigits ((n : Int) + 1) = Nat.toDigits 10 (n + 1) := by
  have hpos : ¬((n : Int) + 1 < 0) := by omega
  have habs : ((n : Int) + 1).natAbs = n + 1 := by omega
  rw [intDigits, if_neg hpos, habs]

lemma render_eq_flatMap (n : ℕ) (ts : List Token) :
    render n ts = (numbered n ts).flatMap Token.chars := by
  induction ts generalizing n with
  | nil => rfl
  | cons t ts ih =>
    cases t with
    | plain c => simp [render, numbered, Token.chars, ih]
    | mark digits =>
      have hn : ((n : Int) + 1) = ((n + 1 : ℕ) : Int) := by simp
      simp only [render, numbered, Token.chars, List.flatMap_cons, List.cons_append,
        intDigits_succ]
      rw [hn, ih]

lemma takeWhile_toDigits_append (n : ℕ) {cs : List Char}
    (h : ∀ c ∈ cs.head?, Text.isDigit c = false) :
    (Nat.toDigits 10 n ++ cs).takeWhile Text.isDigit = Nat.toDigits 10 n :=
  Text.takeWhile_append_of_head (fun _ => Text.isDigit_of_mem_toDigits) h

lemma dropWhile_toDigits_append (n : ℕ) {cs : List Char}
    (h : ∀ c ∈ cs.head?, Text.isDigit c = false) :
    (Nat.toDigits 10 n ++ cs).dropWhile Text.isDigit = cs :=
  Text.dropWhile_append_of_head (fun _ => Text.isDigit_of_mem_toDigits) h

lemma scan_toDigits_append (n : ℕ) (cs : List Char) :
    scan .number (Nat.toDigits 10 n ++ cs) = scan .number cs := by
  rw [scan_number, scan_number, List.dropWhile_append_of_pos]
  exact fun c hc => Text.isDigit_of_mem_toDigits hc

lemma markDigits?_toDigits_append (n : ℕ) {cs : List Char} (h : Breaks cs) :
    markDigits? (Nat.toDigits 10 n ++ cs) = some (Nat.toDigits 10 n) := by
  have hdig : ∀ c ∈ cs.head?, Text.isDigit c = false := fun c hc => (h c hc).2
  unfold markDigits?
  rw [takeWhile_toDigits_append n hdig, dropWhile_toDigits_append n hdig]
  cases cs with
  | nil => rfl
  | cons c cs => simp [(h c (by simp)).1]

/-- The quotes of a text stand outside its placeholders. -/
lemma count_quote_scan (m : Mode) (cs : List Char) :
    (scan m cs).count (.plain '\'') = cs.count '\'' := by
  induction cs generalizing m with
  | nil => rfl
  | cons c cs ih =>
    have hstep : (step m c cs).1.count (.plain '\'') = if c = '\'' then 1 else 0 := by
      unfold step
      split
      · by_cases hq : c = '\'' <;> simp [hq]
      · split
        · next h =>
          have hq : c ≠ '\'' := by
            rintro rfl
            simp [isDigit_quote] at h
          simp [hq]
        · split
          · next hq => simp [hq]
          · next hq => split <;> (try split) <;> simp [hq]
    rw [scan_cons, List.count_append, hstep, ih, List.count_cons]
    by_cases hq : c = '\'' <;> simp [hq, Nat.add_comm]

lemma count_quote_written (ts : List Token) (n : ℕ) :
    ((numbered n ts).flatMap Token.chars).count '\'' =
      ts.count (.plain '\'') := by
  have hmark : ∀ k : ℕ, (Nat.toDigits 10 k).count '\'' = 0 := by
    intro k
    refine List.count_eq_zero_of_not_mem fun h => ?_
    have hd := Text.isDigit_of_mem_toDigits h
    rw [isDigit_quote] at hd
    exact absurd hd (by simp)
  induction ts generalizing n with
  | nil => rfl
  | cons t ts ih =>
    cases t with
    | plain c => by_cases hc : c = '\'' <;> simp [numbered, Token.chars, ih, hc]
    | mark digits => simp [numbered, Token.chars, ih, hmark]

/-- Numbering keeps the quotes of a text. -/
lemma quote_mem_written (m : Mode) (n : ℕ) (cs : List Char) :
    '\'' ∈ (numbered n (scan m cs)).flatMap Token.chars ↔ '\'' ∈ cs := by
  rw [← List.count_pos_iff, count_quote_written, count_quote_scan, List.count_pos_iff]

/-- The text of the parts behind a placeholder begins like the rest of the text that they were
read from. -/
lemma breaks_written {cs digits : List Char} (h : markDigits? cs = some digits) (n : ℕ) :
    Breaks ((numbered n (scan .number cs)).flatMap Token.chars) := by
  have hw := not_word_of_markDigits? h
  rw [scan_number]
  rcases hd : cs.dropWhile Text.isDigit with _ | ⟨c, ds⟩
  · intro c hc
    simp [numbered] at hc
  · have hdig : Text.isDigit c = false := by
      have := List.head?_dropWhile_not Text.isDigit cs
      simpa [hd] using this
    have hword : Text.isWord c = false := hw c (by simp [hd])
    intro b hb
    have hbc : b = c := by
      rw [scan_cons, numbered_append, List.flatMap_append] at hb
      unfold step at hb
      simp only [reduceCtorEq, if_false, false_and] at hb
      split at hb
      · simp [numbered, Token.chars] at hb
        exact hb.symm
      · split at hb
        · next hdollar =>
          split at hb <;> simp [numbered, Token.chars] at hb <;> simp [← hb, hdollar]
        · simp [numbered, Token.chars] at hb
          exact hb.symm
    subst hbc
    exact ⟨hword, hdig⟩

/-- A dollar sign that is no placeholder becomes none when the text behind it is numbered. -/
lemma markDigits?_written {cs : List Char} (h : markDigits? cs = none) (n : ℕ) :
    markDigits? ((numbered n (scan .outside cs)).flatMap Token.chars) = none := by
  induction cs with
  | nil => simp [markDigits?] at h
  | cons c cs ih =>
    have hword : Text.isWord '\'' = false ∧ Text.isWord '$' = false := by decide
    have hdollar : Text.isDigit '$' = false := by decide
    by_cases hdig : Text.isDigit c = true
    · have hq : c ≠ '\'' := by
        rintro rfl
        simp [isDigit_quote] at hdig
      have hd : c ≠ '$' := by
        rintro rfl
        simp [hdollar] at hdig
      have hcs : markDigits? cs = none := by
        unfold markDigits? at h ⊢
        rw [List.dropWhile_cons_of_pos hdig] at h
        split at h
        · simp at h
        · split at h <;> simp_all
      have hrest := ih hcs
      rw [scan_cons, step_plain hq hd]
      unfold markDigits? at hrest ⊢
      simp only [List.singleton_append, numbered, List.flatMap_cons, Token.chars,
        List.dropWhile_cons_of_pos hdig]
      split at hrest
      · simp at hrest
      · split at hrest <;> simp_all
    · have hw : Text.isWord c = true := by
        unfold markDigits? at h
        rw [List.dropWhile_cons_of_neg hdig] at h
        by_contra hn
        simp [hn] at h
      have hq : c ≠ '\'' := by
        rintro rfl
        simp [hword.1] at hw
      have hd : c ≠ '$' := by
        rintro rfl
        simp [hword.2] at hw
      rw [scan_cons, step_plain hq hd]
      simp only [List.singleton_append, numbered, List.flatMap_cons, Token.chars, markDigits?,
        List.dropWhile_cons_of_neg hdig, hw, if_true]

lemma scan_written (m : Mode) (n : ℕ) (cs : List Char) :
    scan m ((numbered n (scan m cs)).flatMap Token.chars) = numbered n (scan m cs) := by
  induction cs generalizing m n with
  | nil => rfl
  | cons c cs ih =>
    have hplain : ∀ m' : Mode, step m c cs = ([.plain c], m') →
        step m c ((numbered n (scan m' cs)).flatMap Token.chars) = ([.plain c], m') →
        scan m ((numbered n (scan m (c :: cs))).flatMap Token.chars) =
          numbered n (scan m (c :: cs)) := by
      intro m' h₁ h₂
      have hnum : numbered n (scan m (c :: cs)) = .plain c :: numbered n (scan m' cs) := by
        rw [scan_cons, h₁]
        rfl
      rw [hnum, List.flatMap_cons]
      simp only [Token.chars, List.singleton_append]
      rw [scan_cons, h₂, ih]
      rfl
    by_cases hin : m = .inside
    · subst hin
      exact hplain _ (step_inside c cs) (step_inside c _)
    · by_cases hnd : m = .number ∧ Text.isDigit c = true
      · obtain ⟨rfl, hc⟩ := hnd
        rw [scan_cons, step_number_digit hc]
        simpa using ih .number n
      · have hout : ∀ ds, step m c ds = step .outside c ds := by
          intro ds
          simp only [step, hin, hnd, if_false, reduceCtorEq, false_and]
        by_cases hq : c = '\''
        · subst hq
          refine hplain _ ((hout cs).trans (step_quote cs)) ((hout _).trans ?_)
          rw [step_quote]
          simp only [quote_mem_written]
        · by_cases hd : c = '$'
          · subst hd
            cases hm : markDigits? cs with
            | none =>
              refine hplain _ ((hout cs).trans (step_dollar hm)) ((hout _).trans ?_)
              rw [step_dollar (markDigits?_written hm n)]
            | some digits =>
              have hnum : numbered n (scan m ('$' :: cs)) =
                  .mark (Nat.toDigits 10 (n + 1)) :: numbered (n + 1) (scan .number cs) := by
                rw [scan_cons, hout, step_mark hm]
                rfl
              have hb := breaks_written hm (n + 1)
              rw [hnum, List.flatMap_cons]
              simp only [Token.chars, List.cons_append]
              rw [scan_cons, hout, step_mark (markDigits?_toDigits_append (n + 1) hb)]
              rw [List.singleton_append, scan_toDigits_append, ih]
          · exact hplain _ ((hout cs).trans (step_plain hq hd cs))
              ((hout _).trans (step_plain hq hd _))

/-- Numbering the placeholders of a text changes their digits and nothing else. -/
theorem tokens_renumber (s : String) (n : ℕ) :
    tokens (renumber s n).toList = numbered n (tokens s.toList) := by
  rw [renumber, String.toList_ofList, render_eq_flatMap, tokens_eq_scan, tokens_eq_scan,
    scan_written]

/-- The parts of a text, put together again. -/
lemma flatMap_chars_scan {m : Mode} (hm : m ≠ .number) (cs : List Char) :
    (scan m cs).flatMap Token.chars = cs := by
  have hboth : ∀ (cs : List Char) (m : Mode), (scan m cs).flatMap Token.chars =
      if m = .number then cs.dropWhile Text.isDigit else cs := by
    intro cs
    induction cs with
    | nil => simp
    | cons c cs ih =>
      have houtside : (scan .outside (c :: cs)).flatMap Token.chars = c :: cs := by
        rw [scan_cons]
        by_cases hq : c = '\''
        · subst hq
          rw [step_quote]
          split <;> simp [Token.chars, ih]
        · by_cases hd : c = '$'
          · subst hd
            cases hmark : markDigits? cs with
            | none => simp [step_dollar hmark, Token.chars, ih]
            | some digits =>
              rw [step_mark hmark]
              simp [Token.chars, ih, markDigits?_eq_takeWhile hmark]
          · simp [step_plain hq hd, Token.chars, ih]
      intro m
      cases m with
      | outside => simpa using houtside
      | inside =>
        rw [scan_cons, step_inside]
        split <;> simp [Token.chars, ih]
      | number =>
        by_cases hdigit : Text.isDigit c = true
        · rw [scan_cons, step_number_digit hdigit]
          simpa [hdigit] using ih .number
        · rw [scan_number, List.dropWhile_cons_of_neg hdigit, houtside]
          simp
  rw [hboth cs m, if_neg hm]

/-- The parts of a text, numbered, make the text that they are the parts of. -/
lemma renumber_eq {s t : String} {n : ℕ}
    (h : numbered n (tokens s.toList) = tokens t.toList) : renumber s n = t := by
  rw [renumber, render_eq_flatMap, h, tokens_eq_scan, flatMap_chars_scan (by decide),
    String.ofList_toList]

/-- Of two numberings only the second one counts. -/
@[simp] lemma renumber_renumber (s : String) (n k : ℕ) :
    renumber (renumber s n) k = renumber s k := by
  refine renumber_eq ?_
  rw [tokens_renumber, tokens_renumber, numbered_numbered]

/-! ### What numbering keeps -/

/-- A part without the digits of its placeholder. -/
def Token.bare : Token → Token
  | .plain c => .plain c
  | .mark _ => .mark []

/-- The parts of a text without the digits of its placeholders. -/
def shape (s : String) : List Token := (scan .outside s.toList).map Token.bare

/-- The digits of the placeholders of a text outside its literals, from left to right. -/
def placeholders (s : String) : List (List Char) :=
  (scan .outside s.toList).filterMap fun
    | .plain _ => none
    | .mark digits => some digits

@[simp] lemma Token.isMark_bare (t : Token) : t.bare.isMark = t.isMark := by
  cases t <;> rfl

@[simp] lemma map_bare_numbered (n : ℕ) (ts : List Token) :
    (numbered n ts).map Token.bare = ts.map Token.bare := by
  induction ts generalizing n with
  | nil => rfl
  | cons t ts ih => cases t <;> simp [numbered, Token.bare, ih]

@[simp] lemma shape_renumber (s : String) (n : ℕ) : shape (renumber s n) = shape s := by
  rw [shape, ← tokens_eq_scan, tokens_renumber, map_bare_numbered, tokens_eq_scan, shape]

lemma countPlaceholders_eq (s : String) :
    countPlaceholders s = (shape s).countP Token.isMark := by
  rw [countPlaceholders, shape, List.countP_map, tokens_eq_scan]
  congr 1
  funext t
  exact (Token.isMark_bare t).symm

@[simp] lemma countPlaceholders_renumber (s : String) (n : ℕ) :
    countPlaceholders (renumber s n) = countPlaceholders s := by
  rw [countPlaceholders_eq, shape_renumber, countPlaceholders_eq]

@[simp] lemma closed_renumber (s : String) (n : ℕ) :
    Closed (renumber s n).toList ↔ Closed s.toList := by
  rw [Closed, Closed, renumber, String.toList_ofList, render_eq_flatMap, count_quote_written,
    tokens_eq_scan, count_quote_scan]

/-- The placeholders of a numbered text are numbered from left to right. -/
lemma placeholders_renumber (s : String) (n : ℕ) :
    placeholders (renumber s n) =
      (List.range (countPlaceholders s)).map fun i => Nat.toDigits 10 (n + i + 1) := by
  rw [placeholders, ← tokens_eq_scan, tokens_renumber, countPlaceholders]
  generalize tokens s.toList = ts
  induction ts generalizing n with
  | nil => rfl
  | cons t ts ih =>
    cases t with
    | plain c => simpa [numbered] using ih n
    | mark digits =>
      simp only [numbered, List.filterMap_cons, List.countP_cons, Token.isMark_mark, if_true,
        List.range_succ_eq_map, List.map_cons, List.map_map, ih (n + 1), Nat.add_zero]
      congr 1
      refine List.map_congr_left fun i _ => ?_
      simp only [Function.comp_apply]
      congr 1
      omega

end DocumentSql.Sql

/-
Texts whose placeholders are numbered on.

A text without quotes behind any other text is read on its own (`tokens_append_of_no_quote`), so
its placeholders are numbered behind those in front of it.  What numbering makes of such a text is
told part by part (`Renumbers`), and a list of parts with one placeholder each has them numbered in
order (`Renumbers.intercalate`).
-/
import DocumentSql.Proofs.Sql.Fragment

namespace DocumentSql

namespace Sql

/-! ### Texts without quotes behind other texts -/

lemma step_append_of_no_quote {m : Mode} {c : Char} {cs bs : List Char} (hb : '\'' ∉ bs)
    (hs : Seam (c :: cs) bs) : step m c (cs ++ bs) = step m c cs := by
  have hmark : c = '$' → markDigits? (cs ++ bs) = markDigits? cs := by
    rintro rfl
    exact markDigits?_append hs
  unfold step
  by_cases hd : c = '$'
  · simp [hd, hmark hd]
  · simp [hd, hb]

/-- A literal that is open has its end in the first text. -/
lemma scan_append_of_no_quote {m : Mode} {as bs : List Char} (hb : '\'' ∉ bs) (hs : Seam as bs)
    (hin : m = .inside → '\'' ∈ as) (hm : as = [] → m = .number → Breaks bs) :
    scan m (as ++ bs) = scan m as ++ scan .outside bs := by
  induction as generalizing m with
  | nil =>
    cases m with
    | outside => simp
    | inside => simp at hin
    | number =>
      have hbreaks := hm rfl rfl
      rw [List.nil_append, scan_number, scan_nil, List.nil_append]
      cases bs with
      | nil => rfl
      | cons b bs => simp [(hbreaks b (by simp)).2]
  | cons c cs ih =>
    rw [List.cons_append, scan_cons, scan_cons, step_append_of_no_quote hb hs, List.append_assoc]
    congr 1
    -- what the induction needs of the rest: its seam, the end of an open literal, and that a number
    -- that ends the first text is not continued
    refine ih hs.tail ?_ ?_
    · intro hinside
      rw [step_snd_eq_inside_iff] at hinside
      split at hinside
      · next hin' => simpa [Ne.symm hinside] using hin hin'
      · exact hinside.2
    · rintro rfl hnumber
      exact hs.breaks_of_number hnumber

/-- A text without quotes is read on its own behind any other text. -/
theorem tokens_append_of_no_quote {as bs : List Char} (hb : '\'' ∉ bs) (hs : Seam as bs) :
    tokens (as ++ bs) = tokens as ++ tokens bs := by
  rw [tokens_eq_scan, tokens_eq_scan, tokens_eq_scan]
  exact scan_append_of_no_quote hb hs (by simp) (by simp)

variable {s t : String}

lemma countPlaceholders_append (ht : '\'' ∉ t.toList) (hs : Seam s.toList t.toList) :
    countPlaceholders (s ++ t) = countPlaceholders s + countPlaceholders t := by
  simp only [countPlaceholders, String.toList_append, tokens_append_of_no_quote ht hs,
    List.countP_append]

/-- The placeholders of a text without quotes are numbered behind those in front of it. -/
lemma renumber_append (ht : '\'' ∉ t.toList) (hs : Seam s.toList t.toList) (n : ℕ) :
    renumber (s ++ t) n = renumber s n ++ renumber t ((n + countPlaceholders s : ℕ) : ℤ) := by
  simp only [renumber, String.toList_append, tokens_append_of_no_quote ht hs, render_eq_flatMap,
    numbered_append, List.flatMap_append, String.ofList_append, countPlaceholders]

/-! ### What numbering makes of a text -/

/-- A text without quotes has a number of placeholders, and numbered behind other ones it is another
text. -/
structure Renumbers (n : ℕ) (s t : String) (k : ℕ) : Prop where
  no_quote : '\'' ∉ s.toList
  count : countPlaceholders s = k
  renumber : renumber s n = t

namespace Renumbers

variable {n k l : ℕ} {s' t' : String}

lemma of_inert (h : Inert s) (n : ℕ) : Renumbers n s s 0 := by
  have hcount : countPlaceholders s = 0 := by
    rw [countPlaceholders_eq, List.countP_eq_zero]
    intro t ht
    simp [h.not_isMark t ht]
  exact ⟨h.no_quote, hcount, Predicate.renumber_of_count_eq_zero hcount n⟩

lemma append (h : Renumbers n s t k) (h' : Renumbers (n + k) s' t' l)
    (hs : Seam s.toList s'.toList) : Renumbers n (s ++ s') (t ++ t') (k + l) where
  no_quote := by simp [h.no_quote, h'.no_quote]
  count := by rw [countPlaceholders_append h'.no_quote hs, h.count, h'.count]
  renumber := by rw [renumber_append h'.no_quote hs, h.renumber, h.count, h'.renumber]

lemma ofList_cons_toDigits (n : ℕ) :
    String.ofList ('$' :: Nat.toDigits 10 n) = "$" ++ toString n := by
  have hdigits : (toString n).toList = Nat.toDigits 10 n := Nat.toList_repr
  rw [← String.toList_inj, String.toList_ofList, String.toList_append, hdigits]
  rfl

/-- A bare placeholder. -/
lemma mark (n : ℕ) : Renumbers n "$" ("$" ++ toString (n + 1)) 1 := by
  refine ⟨by decide, by decide, ?_⟩
  have htokens : tokens "$".toList = [.mark []] := by decide
  rw [Sql.renumber, render_eq_flatMap, htokens, ← ofList_cons_toDigits]
  simp [numbered, Token.chars]

/-- A placeholder with another number. -/
lemma numberedMark (k n : ℕ) :
    Renumbers n ("$" ++ toString k) ("$" ++ toString (n + 1)) 1 := by
  have hdigits : ("$" ++ toString k).toList = '$' :: Nat.toDigits 10 k := by
    rw [← ofList_cons_toDigits, String.toList_ofList]
  have hmark : markDigits? (Nat.toDigits 10 k) = some (Nat.toDigits 10 k) := by
    have hbreaks : Breaks [] := by decide
    simpa using markDigits?_toDigits_append k hbreaks
  have hnone : scan .number (Nat.toDigits 10 k) = [] := by
    simpa using scan_toDigits_append k []
  have htokens : tokens ("$" ++ toString k).toList = [.mark (Nat.toDigits 10 k)] := by
    rw [hdigits, tokens_eq_scan, scan_cons, step_mark hmark, hnone]
    rfl
  refine ⟨?_, ?_, ?_⟩
  · rw [hdigits, List.mem_cons, not_or]
    refine ⟨by decide, fun hmem => ?_⟩
    have hdigit := Text.isDigit_of_mem_toDigits hmem
    rw [isDigit_quote] at hdigit
    simp at hdigit
  · rw [countPlaceholders, htokens]
    rfl
  · rw [Sql.renumber, render_eq_flatMap, htokens, ← ofList_cons_toDigits]
    simp [numbered, Token.chars]

lemma seam_comma (s t : String) : Seam s.toList (", " ++ t).toList :=
  Or.inr (breaks_append (by decide) (by decide) t)

/-- Parts with one placeholder each, with commas between them, are numbered in order. -/
lemma intercalate {f g : ℕ → String → String} {cs : List String}
    (h : ∀ c ∈ cs, ∀ n, Renumbers n (f n c) (g n c) 1) (n : ℕ) :
    Renumbers n (String.intercalate ", " (cs.mapIdx fun i c => f (n + i) c))
      (String.intercalate ", " (cs.mapIdx fun i c => g (n + i) c)) cs.length := by
  have hcomma : ∀ k, Renumbers k ", " ", " 0 := of_inert (by decide)
  induction cs generalizing n with
  | nil => simpa using of_inert (s := "") (by decide) n
  | cons c cs ih =>
    have hfirst := h c (by simp) n
    have hrest := ih (fun d hd => h d (by simp [hd])) (n + 1)
    rw [List.mapIdx_cons, List.mapIdx_cons]
    have hshift : ∀ p : ℕ → String → String,
        (fun i c => p (n + (i + 1)) c) = fun i c => p (n + 1 + i) c := by
      intro p
      funext i c
      rw [Nat.add_right_comm n 1 i, Nat.add_assoc]
    rw [hshift f, hshift g]
    cases cs with
    | nil => simpa using hfirst
    | cons d cs =>
      rw [List.mapIdx_cons, List.mapIdx_cons] at hrest ⊢
      rw [String.intercalate_cons_cons, String.intercalate_cons_cons, String.append_assoc,
        String.append_assoc]
      have hsettled : Seam ", ".toList (String.intercalate ", "
          (f (n + 1 + 0) d :: cs.mapIdx fun i c => f (n + 1 + (i + 1)) c)).toList :=
        Or.inl (by decide)
      have htail := (hcomma (n + 1)).append (by simpa using hrest) hsettled
      have hall := hfirst.append htail (seam_comma _ _)
      simpa [Nat.add_comm] using hall

/-- Behind a text that has no placeholders when the whole has no more than its end, the end is
numbered from one. -/
lemma behind {pre : String} (h : Renumbers 0 s t k) (hs : Seam pre.toList s.toList)
    (hcount : countPlaceholders (pre ++ s) = k) : Sql.renumber (pre ++ s) 0 = pre ++ t := by
  have hnone : countPlaceholders pre = 0 := by
    rw [countPlaceholders_append h.no_quote hs, h.count] at hcount
    omega
  have happend := renumber_append h.no_quote hs 0
  have hpre := Predicate.renumber_of_count_eq_zero hnone 0
  have hend := h.renumber
  simp only [Nat.cast_zero, hnone, Nat.add_zero] at happend hpre hend
  rw [happend, hpre, hend]

end Renumbers

end Sql

end DocumentSql

/-
Fragments handed to the driver.

The driver formats a statement before it sends it: `%s` takes the next argument and `%%` is a
percent sign, anywhere in the text (`formatted`).  What it should arrive at is the text of the
fragment with the value of its parameter in the place of each placeholder (`bound`), where the
placeholders are those of the reader of `Proofs.Sql.Reading`, outside the literals.

`make_faithful` says that it does, for every fragment.  Percent signs may as well be doubled
first, and the placeholders be looked for in the longer text: doubling moves no literal and no
placeholder (`tokens_doubled`).
-/
import DocumentSql.Connection.DriverQuery
import DocumentSql.Proofs.Sql.Fragment

namespace DocumentSql

namespace Sql

/-! ### Percent signs written twice -/

/-- The text with every percent sign written twice. -/
def doubled (cs : List Char) : List Char :=
  cs.flatMap fun c => if c = '%' then ['%', '%'] else [c]

/-- The part, twice if it is a percent sign. -/
def Token.doubled : Token → List Token
  | .plain c => if c = '%' then [.plain '%', .plain '%'] else [.plain c]
  | .mark digits => [.mark digits]

lemma doubled_cons_of_ne {c : Char} (h : c ≠ '%') (cs : List Char) :
    doubled (c :: cs) = c :: doubled cs := by
  simp [doubled, h]

lemma isDigit_percent : Text.isDigit '%' = false := by decide

lemma mem_doubled {c : Char} {cs : List Char} : c ∈ doubled cs ↔ c ∈ cs := by
  simp only [doubled, List.mem_flatMap]
  constructor
  · rintro ⟨d, hd, hc⟩
    split at hc <;> simp_all
  · intro hc
    exact ⟨c, hc, by split <;> simp_all⟩

lemma takeWhile_doubled (cs : List Char) :
    (doubled cs).takeWhile Text.isDigit = cs.takeWhile Text.isDigit ∧
      (doubled cs).dropWhile Text.isDigit = doubled (cs.dropWhile Text.isDigit) := by
  induction cs with
  | nil => exact ⟨rfl, rfl⟩
  | cons c cs ih =>
    by_cases hc : c = '%'
    · subst hc
      simp [doubled, isDigit_percent]
    · rw [doubled_cons_of_ne hc]
      cases hdigit : Text.isDigit c <;> simp [hdigit, ih, doubled_cons_of_ne hc]

lemma markDigits?_doubled (cs : List Char) : markDigits? (doubled cs) = markDigits? cs := by
  obtain ⟨htake, hdrop⟩ := takeWhile_doubled cs
  unfold markDigits?
  rw [htake, hdrop]
  cases cs.dropWhile Text.isDigit with
  | nil => rfl
  | cons c ds =>
    by_cases hc : c = '%'
    · subst hc
      rfl
    · rw [doubled_cons_of_ne hc]

lemma step_doubled (m : Mode) (c : Char) (cs : List Char) :
    step m c (doubled cs) = step m c cs := by
  simp only [step, mem_doubled, markDigits?_doubled]

/-- A percent sign is an ordinary character wherever a reader stands, and leaves it outside the
literals or inside of one. -/
lemma step_percent (m : Mode) : ∃ m', ∀ cs, step m '%' cs = ([.plain '%'], m') ∧
    step m' '%' cs = ([.plain '%'], m') := by
  cases m with
  | outside => exact ⟨.outside, fun cs => ⟨rfl, rfl⟩⟩
  | inside => exact ⟨.inside, fun cs => ⟨rfl, rfl⟩⟩
  | number =>
    exact ⟨.outside, fun cs => ⟨step_number_of_not_digit isDigit_percent cs, rfl⟩⟩

lemma doubled_step {c : Char} (hc : c ≠ '%') (m : Mode) (cs : List Char) :
    (step m c cs).1.flatMap Token.doubled = (step m c cs).1 := by
  have hplain : [Token.plain c].flatMap Token.doubled = [.plain c] := by simp [Token.doubled, hc]
  unfold step
  split
  · exact hplain
  · split
    · rfl
    · split
      · exact hplain
      · split
        · cases markDigits? cs with
          | none => exact hplain
          | some digits => rfl
        · exact hplain

lemma scan_doubled (m : Mode) (cs : List Char) :
    scan m (doubled cs) = (scan m cs).flatMap Token.doubled := by
  induction cs generalizing m with
  | nil => rfl
  | cons c cs ih =>
    by_cases hc : c = '%'
    · subst hc
      obtain ⟨m', hm'⟩ := step_percent m
      have hdoubled : doubled ('%' :: cs) = '%' :: '%' :: doubled cs := rfl
      rw [hdoubled, scan_cons, (hm' _).1, scan_cons, (hm' _).2, scan_cons, (hm' _).1, ih]
      rfl
    · rw [doubled_cons_of_ne hc, scan_cons, scan_cons, step_doubled, ih, List.flatMap_append,
        doubled_step hc]

/-- Doubling the percent signs of a text moves no literal and no placeholder. -/
theorem tokens_doubled (cs : List Char) :
    tokens (doubled cs) = (tokens cs).flatMap Token.doubled := by
  rw [tokens_eq_scan, tokens_eq_scan, scan_doubled]

end Sql

namespace DriverQuery

open Sql

/-- A part in the style of the driver, percent signs as they are. -/
def written : Token → List Char
  | .plain c => [c]
  | .mark _ => ['%', 's']

/-- Percent signs may be doubled before the placeholders are looked for. -/
lemma render_tokens (cs : List Char) :
    render (tokens cs) = (tokens (doubled cs)).flatMap written := by
  rw [tokens_doubled]
  induction tokens cs with
  | nil => rfl
  | cons t ts ih =>
    rw [List.flatMap_cons, List.flatMap_append, ← ih]
    cases t with
    | plain c =>
      by_cases hc : c = '%' <;> simp [render, Token.doubled, written, hc]
    | mark digits => rfl

/-! ### Formatting -/

/-- A part of a formatted statement. -/
inductive Piece where
  /-- A character of the text. -/
  | char (c : Char)
  /-- A value in the place of a placeholder. -/
  | value (v : Value)

/-- A text formatted with arguments in the way of the driver: `%s` takes the next argument and
`%%` is a percent sign. Nothing, if another character follows a percent sign, or if there are too
few or too many arguments. -/
def formatted : List Char → List Value → Option (List Piece)
  | [], [] => some []
  | [], _ :: _ => none
  | '%' :: '%' :: cs, vs => (formatted cs vs).map (.char '%' :: ·)
  | '%' :: 's' :: cs, v :: vs => (formatted cs vs).map (.value v :: ·)
  | '%' :: _, _ => none
  | c :: cs, vs => (formatted cs vs).map (.char c :: ·)

/-- The value of the placeholder with a number, which counts from one. -/
def numberedValue (params : List Value) : ℕ → Option Value
  | 0 => none
  | n + 1 => params[n]?

/-- The parts of a text with the values of its placeholders. Nothing, if a placeholder has no
value. -/
def bound (params : List Value) : List Token → Option (List Piece)
  | [] => some []
  | .plain c :: ts => (bound params ts).map (.char c :: ·)
  | .mark digits :: ts => do
    let v ← numberedValue params (Text.digitsValue 0 digits)
    let pieces ← bound params ts
    some (.value v :: pieces)

lemma formatted_cons_of_ne {c : Char} (h : c ≠ '%') (cs : List Char) (vs : List Value) :
    formatted (c :: cs) vs = (formatted cs vs).map (.char c :: ·) := by
  rw [formatted]
  all_goals simp_all

/-- Formatting what was rendered puts the values in the places of their placeholders. -/
lemma formatted_render {params : List Value} {n : ℕ} {ts : List Token}
    (h : params.length = n + ts.countP Token.isMark) :
    ∃ pieces, formatted (render (numbered n ts)) (params.drop n) = some pieces ∧
      bound params (numbered n ts) = some pieces := by
  induction ts generalizing n with
  | nil =>
    have hdrop : params.drop n = [] := List.drop_eq_nil_of_le (by simpa using h.le)
    exact ⟨[], by rw [hdrop]; rfl, rfl⟩
  | cons t ts ih =>
    cases t with
    | plain c =>
      obtain ⟨pieces, hformatted, hbound⟩ := ih (by simpa using h)
      refine ⟨.char c :: pieces, ?_, by simp [numbered, bound, hbound]⟩
      by_cases hc : c = '%'
      · subst hc
        simp [numbered, render, formatted, hformatted]
      · simp [numbered, render, hc, formatted_cons_of_ne hc, hformatted]
    | mark digits =>
      rw [List.countP_cons] at h
      have hlt : n < params.length := by simp at h; omega
      obtain ⟨pieces, hformatted, hbound⟩ := @ih (n + 1) (by simp at h; omega)
      refine ⟨.value params[n] :: pieces, ?_, ?_⟩
      · rw [List.drop_eq_getElem_cons hlt]
        simp only [numbered, render, formatted, hformatted, Option.map_some]
      · simp [numbered, bound, Text.digitsValue_toDigits, numberedValue, hbound, hlt]

/-! ### The arguments -/

lemma marks_numbered (n : ℕ) (ts : List Token) :
    marks (numbered n ts) = (List.range' (n + 1) (ts.countP Token.isMark)).map some := by
  induction ts generalizing n with
  | nil => rfl
  | cons t ts ih =>
    cases t with
    | plain c => simpa [numbered, marks] using ih n
    | mark digits =>
      obtain ⟨d, ds, hdigits⟩ : ∃ d ds, Nat.toDigits 10 (n + 1) = d :: ds :=
        List.exists_cons_of_ne_nil Nat.toDigits_ne_nil
      have hvalue : Text.digitsValue 0 (d :: ds) = n + 1 := by
        rw [← hdigits, Text.digitsValue_toDigits]
      rw [numbered, hdigits, marks, hvalue, ih (n + 1), List.countP_cons]
      simp [List.range'_succ]

lemma argumentsOf_range' {params : List Value} {n k : ℕ} (h : params.length = n + k) :
    argumentsOf params (List.range' (n + 1) k) = .ok (params.drop n) := by
  induction k generalizing n with
  | zero =>
    rw [List.drop_eq_nil_of_le (by omega)]
    rfl
  | succ k ih =>
    have hlt : n < params.length := by omega
    have hargument : argument params (n + 1) = .ok params[n] := by
      simp [argument, hlt]
    rw [List.range'_succ, argumentsOf, hargument, ih (by omega), List.drop_eq_getElem_cons hlt]
    rfl

lemma length_toDigits_mono {m n : ℕ} (h : m ≤ n) :
    (Nat.toDigits 10 m).length ≤ (Nat.toDigits 10 n).length := by
  have hpos : 0 < (Nat.toDigits 10 n).length := List.length_pos_of_ne_nil Nat.toDigits_ne_nil
  have hlt : n < 10 ^ (Nat.toDigits 10 n).length :=
    (Nat.length_toDigits_le_iff (by decide) hpos).1 le_rfl
  exact (Nat.length_toDigits_le_iff (by decide) hpos).2 (by omega)

/-- The numbers of numbered parts are read, when there is a parameter for each. -/
lemma isUnreadable_numbered {count n : ℕ} {ts : List Token}
    (h : n + ts.countP Token.isMark ≤ count) :
    (numbered n ts).any (isUnreadable count) = false := by
  induction ts generalizing n with
  | nil => rfl
  | cons t ts ih =>
    cases t with
    | plain c => simpa [numbered, isUnreadable] using ih (by simpa using h)
    | mark digits =>
      rw [List.countP_cons] at h
      have hlength := length_toDigits_mono (m := n + 1) (n := count) (by simp at h; omega)
      have hread : (Nat.toDigits 10 (n + 1)).length ≤ readDigits count :=
        hlength.trans (le_max_right _ _)
      have hrest := @ih (n + 1) (by simp at h; omega)
      simpa [numbered, isUnreadable, hrest] using hread

/-- What is made of a numbered text with as many parameters as it has placeholders. -/
lemma ofParams_numbered {text : String} {ts : List Token} {params : List Value}
    (htext : tokens text.toList = numbered 0 ts) (h : params.length = ts.countP Token.isMark) :
    ofParams text params =
      .ok (if params = [] then ⟨text, none⟩
        else ⟨String.ofList (render (tokens text.toList)), some (params.map Value.normalize)⟩) := by
  have hmarks := marks_numbered 0 ts
  rw [← htext, ← h] at hmarks
  have hnumbers : (marks (tokens text.toList)).filterMap id = List.range' 1 params.length := by
    rw [hmarks]
    simp [List.filterMap_map]
  have hlength : (marks (tokens text.toList)).length = params.length := by
    rw [hmarks]
    simp
  have hread : (tokens text.toList).any
      (isUnreadable (params.map Value.normalize).length) = false := by
    rw [htext]
    exact isUnreadable_numbered (by simp [h])
  simp only [ofParams, hread, hnumbers, hlength, Bool.false_eq_true, if_false]
  by_cases hnil : params = []
  · simp [hnil]
  · have hmatched : ((List.range' 1 params.length).length != params.length ||
        (List.range' 1 params.length).any
          fun n => decide (n > (params.map Value.normalize).length)) = false := by
      simp only [List.length_range', List.length_map, bne_self_eq_false, Bool.false_or,
        List.any_eq_false, List.mem_range', decide_eq_true_eq]
      rintro _ ⟨i, hi, rfl⟩
      omega
    rw [if_neg (by simpa using hnil), hmatched,
      argumentsOf_range' (n := 0) (by simp), if_neg hnil]
    rfl

/-- What a fragment is made into for the driver means the fragment: it is never refused; without
parameters its text is handed over as it is; and otherwise it is the text with its percent signs
doubled and `%s` in the place of each placeholder, the parameters are the arguments, in order, and
the driver formats it into the text of the fragment with the value of the parameter in the place
of each placeholder outside the literals. -/
theorem make_faithful {text : String} {params : List Value} {origin : Members} {p : Predicate}
    (h : Predicate.make text params origin = .ok p) {collection : Value}
    (hparams : collection.elements? = some p.params) :
    ∃ q, make p.text collection = .ok q ∧
      (p.params = [] → q = ⟨p.text, none⟩) ∧
      (p.params ≠ [] →
        q.text.toList = (tokens (doubled p.text.toList)).flatMap written ∧
        q.arguments = some (p.params.map Value.normalize) ∧
        ∃ pieces, formatted q.text.toList (p.params.map Value.normalize) = some pieces ∧
          bound (p.params.map Value.normalize) (scan .outside p.text.toList) = some pieces) := by
  obtain ⟨hcount, rfl⟩ := Predicate.make_eq_ok_iff.1 h
  have htext : tokens (renumber text 0).toList = numbered 0 (tokens text.toList) :=
    tokens_renumber text 0
  refine ⟨if params = [] then ⟨renumber text 0, none⟩
    else ⟨String.ofList (render (tokens (renumber text 0).toList)),
      some (params.map Value.normalize)⟩, ?_, fun hnil => ?_, fun hne => ?_⟩
  · rw [make, hparams]
    exact ofParams_numbered htext hcount.symm
  · exact if_pos hnil
  · have hlength : (params.map Value.normalize).length =
        0 + (tokens text.toList).countP Token.isMark := by
      rw [List.length_map, Nat.zero_add]
      exact hcount.symm
    obtain ⟨pieces, hformatted, hbound⟩ := formatted_render hlength
    rw [if_neg hne]
    refine ⟨?_, rfl, pieces, ?_, ?_⟩
    · rw [String.toList_ofList, render_tokens]
    · rw [String.toList_ofList, htext]
      exact hformatted
    · rw [← tokens_eq_scan, htext]
      exact hbound

/-- Percent signs beside a placeholder and a dollar sign in a literal. -/
theorem likeClause_faithful :
    ∃ p q, Predicate.make "a LIKE '5%$1' AND b%$ = '%s'" [.text "x"] [] = .ok p ∧
      make p.text (.tuple p.params) = .ok q ∧
      q.text.toList = "a LIKE '5%%$1' AND b%%%s = '%%s'".toList ∧
      ∃ pieces, formatted q.text.toList [.text "x"] = some pieces ∧
        bound [.text "x"] (scan .outside p.text.toList) = some pieces := by
  have h : Predicate.make "a LIKE '5%$1' AND b%$ = '%s'" [.text "x"] [] =
      .ok ⟨"a LIKE '5%$1' AND b%$1 = '%s'", [.text "x"], []⟩ := by rfl
  obtain ⟨q, hq, -, hwhole⟩ := make_faithful h
    (show (Value.tuple [.text "x"]).elements? = some [.text "x"] from rfl)
  obtain ⟨htext, -, pieces, hformatted, hbound⟩ := hwhole (by simp)
  exact ⟨_, q, h, hq, htext.trans (by decide +kernel), pieces, hformatted, hbound⟩

end DriverQuery

end DocumentSql

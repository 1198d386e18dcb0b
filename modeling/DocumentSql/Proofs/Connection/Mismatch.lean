/-
Texts whose placeholders do not match their parameters.

A placeholder matches when it has a number and there is a parameter with this number, counting
from one.  A text with a placeholder that does not match should be refused, and otherwise the
driver should send the text with the parameters in the places of their placeholders (`IsRight`).

`make_isRight_iff` gives the texts for which this is so.  Bare placeholders are only missed next to
numbers, and numbers are only compared with the greatest one.  So the texts whose placeholders are
all bare are let through, and so is the number zero, which stands for the last parameter; and a
number with very many digits is not even read.
-/
import DocumentSql.Proofs.Connection.DriverQuery

namespace DocumentSql

namespace DriverQuery

open Sql

/-! ### What the driver sends -/

/-- What the driver sends: the text as it is, or formatted with its arguments. -/
def sent (q : DriverQuery) : Option (List Piece) :=
  match q.arguments with
  | none => some (q.text.toList.map .char)
  | some vs => formatted q.text.toList vs

/-- The parts of a text with the values that a rule gives to the numbers of its placeholders. -/
def boundBy (value : ℕ → Option Value) : List Token → Option (List Piece)
  | [] => some []
  | .plain c :: ts => (boundBy value ts).map (.char c :: ·)
  | .mark digits :: ts => do
    let v ← value (Text.digitsValue 0 digits)
    let pieces ← boundBy value ts
    some (.value v :: pieces)

/-- The value of the placeholder with a number, zero standing for the last parameter. -/
def wrappedValue (params : List Value) : ℕ → Option Value
  | 0 => params.getLast?
  | n + 1 => params[n]?

lemma bound_eq_boundBy (params : List Value) (ts : List Token) :
    bound params ts = boundBy (numberedValue params) ts := by
  induction ts with
  | nil => rfl
  | cons t ts ih => cases t <;> rw [bound, boundBy, ih]

/-- Only the values of the numbers that stand in a text count. -/
lemma boundBy_congr {value value' : ℕ → Option Value} {ts : List Token}
    (h : ∀ n, some n ∈ marks ts → value n = value' n) (hbare : none ∉ marks ts) :
    boundBy value ts = boundBy value' ts := by
  induction ts with
  | nil => rfl
  | cons t ts ih =>
    cases t with
    | plain c =>
      rw [boundBy, boundBy, ih h hbare]
    | mark digits =>
      cases digits with
      | nil => exact absurd List.mem_cons_self hbare
      | cons d ds =>
        have hrest := ih (fun n hn => h n (List.mem_cons_of_mem _ hn))
          (fun hn => hbare (List.mem_cons_of_mem _ hn))
        rw [boundBy, boundBy, h _ List.mem_cons_self, hrest]

lemma argument_eq_ok_iff {params : List Value} {n : ℕ} {v : Value} :
    argument params n = .ok v ↔ wrappedValue params n = some v := by
  have hvalue : params[if n == 0 then params.length - 1 else n - 1]? = wrappedValue params n := by
    cases n with
    | zero => simp [wrappedValue, List.getLast?_eq_getElem?]
    | succ n => simp [wrappedValue]
  rw [argument, hvalue]
  cases wrappedValue params n <;> simp

/-- Formatting what was rendered puts the values into the places of their placeholders, a
parameter that is referred to again a second time. -/
lemma formatted_render_of_marks {params vs : List Value} {ts : List Token} {numbers : List ℕ}
    (hmarks : marks ts = numbers.map some) (hvs : argumentsOf params numbers = .ok vs) :
    ∃ pieces, formatted (render ts) vs = some pieces ∧
      boundBy (wrappedValue params) ts = some pieces := by
  induction ts generalizing numbers vs with
  | nil =>
    obtain rfl : numbers = [] := List.map_eq_nil_iff.1 hmarks.symm
    obtain rfl := Except.ok.inj hvs
    exact ⟨[], rfl, rfl⟩
  | cons t ts ih =>
    cases t with
    | plain c =>
      obtain ⟨pieces, hformatted, hbound⟩ := ih hmarks hvs
      refine ⟨.char c :: pieces, ?_, by simp [boundBy, hbound]⟩
      by_cases hc : c = '%'
      · subst hc
        simp [render, formatted, hformatted]
      · simp [render, hc, formatted_cons_of_ne hc, hformatted]
    | mark digits =>
      cases numbers with
      | nil => cases digits <;> simp [marks] at hmarks
      | cons n numbers =>
        obtain ⟨d, ds, rfl⟩ : ∃ d ds, digits = d :: ds := by
          cases digits with
          | nil => simp [marks] at hmarks
          | cons d ds => exact ⟨d, ds, rfl⟩
        obtain ⟨hn, hmarks⟩ : Text.digitsValue 0 (d :: ds) = n ∧
            marks ts = numbers.map some := by simpa [marks] using hmarks
        obtain ⟨v, hv, hvs⟩ := Result.bind_eq_ok_iff.1 hvs
        obtain ⟨vs', hvs', hvs⟩ := Result.bind_eq_ok_iff.1 hvs
        obtain rfl := Except.ok.inj hvs
        obtain ⟨pieces, hformatted, hbound⟩ := ih hmarks hvs'
        refine ⟨.value v :: pieces, by simp [render, formatted, hformatted], ?_⟩
        simp [boundBy, hn, argument_eq_ok_iff.1 hv, hbound]

/-! ### Which texts are refused -/

/-- Each placeholder has the number of a parameter. -/
def Matched (params : List Value) (ts : List Token) : Prop :=
  ∀ m ∈ marks ts, ∃ n, m = some n ∧ 1 ≤ n ∧ n ≤ params.length

/-- The text has placeholders, and none of them has a number. -/
def AllBare (ts : List Token) : Prop := marks ts ≠ [] ∧ ∀ m ∈ marks ts, m = none

/-- Each placeholder has a number that is not too great, and one has the number zero. -/
def TakesZero (params : List Value) (ts : List Token) : Prop :=
  (∀ m ∈ marks ts, ∃ n, m = some n ∧ n ≤ params.length) ∧ some 0 ∈ marks ts

/-- A number has more digits than are read. -/
def Overlong (params : List Value) (ts : List Token) : Prop :=
  ∃ digits, Token.mark digits ∈ ts ∧ readDigits params.length < digits.length

/-- The outcome is right for a text with parameters: if the placeholders match, the driver sends
the text with the parameters in their places, and otherwise the text is refused. -/
def IsRight (text : String) (params : List Value) (r : Result DriverQuery) : Prop :=
  (Matched params (scan .outside text.toList) → ∃ q pieces, r = .ok q ∧ q.sent = some pieces ∧
      bound (params.map Value.normalize) (scan .outside text.toList) = some pieces) ∧
    (¬ Matched params (scan .outside text.toList) →
      r = .error (.placeholdersUnmatched text params.length))

variable {text : String} {params : List Value}

lemma mem_marks {digits : List Char} {ts : List Token} (h : Token.mark digits ∈ ts)
    (hne : digits ≠ []) : some (Text.digitsValue 0 digits) ∈ marks ts := by
  induction ts with
  | nil => simp at h
  | cons t ts ih =>
    rcases List.mem_cons.1 h with rfl | hrest
    · obtain ⟨d, ds, rfl⟩ := List.exists_cons_of_ne_nil hne
      exact List.mem_cons_self
    · cases t with
      | plain c => exact ih hrest
      | mark digits' => cases digits' <;> exact List.mem_cons_of_mem _ (ih hrest)

lemma not_overlong_of_unnumbered {ts : List Token} (h : ∀ m ∈ marks ts, m = none) :
    ¬ Overlong params ts := by
  rintro ⟨digits, hmem, hlength⟩
  have hnumber := mem_marks hmem (List.ne_nil_of_length_pos (by omega))
  simpa using h _ hnumber

lemma overlong_iff {ts : List Token} :
    Overlong params ts ↔ ts.any (isUnreadable params.length) = true := by
  rw [List.any_eq_true]
  constructor
  · rintro ⟨digits, hmem, hlength⟩
    exact ⟨.mark digits, hmem, by simpa [isUnreadable] using hlength⟩
  · rintro ⟨t, hmem, ht⟩
    cases t with
    | plain c => simp [isUnreadable] at ht
    | mark digits => exact ⟨digits, hmem, by simpa [isUnreadable] using ht⟩

/-- A number with too many digits is not read. -/
lemma ofParams_of_overlong (h : Overlong params (tokens text.toList)) :
    ofParams text params = .error (.fault .wrongValue) := by
  have hlong := overlong_iff.1 h
  simp only [ofParams, List.length_map, hlong, if_true]

/-- Numbers that are read are counted, compared and looked up. -/
lemma ofParams_of_not_overlong (h : ¬ Overlong params (tokens text.toList)) :
    ofParams text params =
      if ((marks (tokens text.toList)).filterMap id).isEmpty = true then .ok ⟨text, none⟩
      else if ((marks (tokens text.toList)).filterMap id).length ≠
            (marks (tokens text.toList)).length ∨
          ∃ n ∈ (marks (tokens text.toList)).filterMap id, params.length < n then
        .error (.placeholdersUnmatched text params.length)
      else (argumentsOf (params.map Value.normalize)
          ((marks (tokens text.toList)).filterMap id)).bind fun vs =>
        .ok ⟨String.ofList (render (tokens text.toList)), some vs⟩ := by
  have hread := mt overlong_iff.2 h
  simp only [ofParams, List.length_map, hread, Bool.or_eq_true, bne_iff_ne, List.any_eq_true,
    decide_eq_true_eq]
  rfl

/-- Where no placeholder has a number, the text is handed over as it is. -/
lemma ofParams_of_unnumbered (h : ∀ m ∈ marks (tokens text.toList), m = none) :
    ofParams text params = .ok ⟨text, none⟩ := by
  have hnumbers : (marks (tokens text.toList)).filterMap id = [] := by
    simpa [List.filterMap_eq_nil_iff] using h
  rw [ofParams_of_not_overlong (not_overlong_of_unnumbered h), hnumbers]
  rfl

/-- Next to a number, a bare placeholder is refused, and so is a number that is too great. -/
lemma ofParams_refused (hread : ¬ Overlong params (tokens text.toList))
    (hnumber : ∃ m ∈ marks (tokens text.toList), m ≠ none)
    (h : ∃ m ∈ marks (tokens text.toList), m = none ∨ ∃ n, m = some n ∧ params.length < n) :
    ofParams text params = .error (.placeholdersUnmatched text params.length) := by
  have hsome : ((marks (tokens text.toList)).filterMap id).isEmpty ≠ true := by
    simpa [List.filterMap_eq_nil_iff] using hnumber
  rw [ofParams_of_not_overlong hread, if_neg hsome, if_pos]
  obtain ⟨m, hm, rfl | ⟨n, rfl, hn⟩⟩ := h
  · -- the numbers are fewer than the placeholders
    left
    intro hlength
    have hall := List.reduceOption_length_eq_iff.1 hlength none hm
    simp at hall
  · exact Or.inr ⟨n, by simpa using hm, hn⟩

/-- Numbers that are not too great are looked up. -/
lemma ofParams_of_numbers {numbers : List ℕ} (hread : ¬ Overlong params (tokens text.toList))
    (hmarks : marks (tokens text.toList) = numbers.map some) (hne : numbers ≠ [])
    (hle : ∀ n ∈ numbers, n ≤ params.length) :
    ofParams text params = (argumentsOf (params.map Value.normalize) numbers).bind fun vs =>
      .ok ⟨String.ofList (render (tokens text.toList)), some vs⟩ := by
  have hnumbers : (marks (tokens text.toList)).filterMap id = numbers := by
    simp [hmarks, List.filterMap_map]
  rw [ofParams_of_not_overlong hread, hnumbers, if_neg (by simpa using hne), if_neg]
  simpa [hmarks] using hle

/-- With a parameter at hand, every number that is not too great refers to one. -/
lemma exists_argumentsOf {numbers : List ℕ} (hne : params ≠ [])
    (hle : ∀ n ∈ numbers, n ≤ params.length) : ∃ vs, argumentsOf params numbers = .ok vs := by
  induction numbers with
  | nil => exact ⟨[], rfl⟩
  | cons n numbers ih =>
    obtain ⟨vs, hvs⟩ := ih fun m hm => hle m (List.mem_cons_of_mem n hm)
    obtain ⟨v, hv⟩ : ∃ v, wrappedValue params n = some v := by
      cases n with
      | zero =>
        -- zero stands for the last parameter
        exact ⟨_, List.getLast?_eq_some_getLast hne⟩
      | succ n =>
        have hlt : n < params.length := hle (n + 1) List.mem_cons_self
        exact ⟨params[n], List.getElem?_eq_getElem hlt⟩
    refine ⟨v :: vs, ?_⟩
    rw [argumentsOf, argument_eq_ok_iff.2 hv, hvs]
    rfl

/-- A text whose placeholders all have numbers that are not too great is sent with the parameters
that the numbers refer to, zero to the last one. -/
lemma ofParams_sends {numbers : List ℕ} (hread : ¬ Overlong params (tokens text.toList))
    (hmarks : marks (tokens text.toList) = numbers.map some) (hne : numbers ≠ [])
    (hparams : params ≠ []) (hle : ∀ n ∈ numbers, n ≤ params.length) :
    ∃ q pieces, ofParams text params = .ok q ∧ q.sent = some pieces ∧
      boundBy (wrappedValue (params.map Value.normalize)) (tokens text.toList) = some pieces := by
  obtain ⟨vs, hvs⟩ : ∃ vs, argumentsOf (params.map Value.normalize) numbers = .ok vs :=
    exists_argumentsOf (by simpa using hparams) (by simpa using hle)
  obtain ⟨pieces, hformatted, hbound⟩ := formatted_render_of_marks hmarks hvs
  refine ⟨⟨String.ofList (render (tokens text.toList)), some vs⟩, pieces, ?_, ?_, hbound⟩
  · rw [ofParams_of_numbers hread hmarks hne hle, hvs]
    rfl
  · simpa [sent] using hformatted

/-- A text without placeholders is all that is to be sent. -/
lemma boundBy_of_marks_eq_nil {value : ℕ → Option Value} {ts : List Token} (h : marks ts = []) :
    boundBy value ts = some ((ts.flatMap Token.chars).map .char) := by
  induction ts with
  | nil => rfl
  | cons t ts ih =>
    cases t with
    | plain c => simp [boundBy, ih h, Token.chars]
    | mark digits => cases digits <;> simp [marks] at h

/-- Where every placeholder has a number, the numbers are all there is. -/
lemma exists_numbers {P : ℕ → Prop} {ms : List (Option ℕ)} (h : ∀ m ∈ ms, ∃ n, m = some n ∧ P n) :
    ∃ numbers : List ℕ, ms = numbers.map some ∧ ∀ n ∈ numbers, P n := by
  induction ms with
  | nil => exact ⟨[], rfl, by simp⟩
  | cons m ms ih =>
    obtain ⟨n, rfl, hn⟩ := h m List.mem_cons_self
    obtain ⟨numbers, rfl, hnumbers⟩ := ih fun m hm => h m (List.mem_cons_of_mem _ hm)
    exact ⟨n :: numbers, rfl, by simpa using ⟨hn, hnumbers⟩⟩

/-- The placeholders match, or the text is one of those that are let through, or it is refused. -/
lemma outcome_cases (text : String) (params : List Value) :
    Matched params (tokens text.toList) ∨ AllBare (tokens text.toList) ∨
      TakesZero params (tokens text.toList) ∨
      (∃ m ∈ marks (tokens text.toList), m ≠ none) ∧
        ∃ m ∈ marks (tokens text.toList), m = none ∨ ∃ n, m = some n ∧ params.length < n := by
  by_cases hrefused : ∃ m ∈ marks (tokens text.toList),
      m = none ∨ ∃ n, m = some n ∧ params.length < n
  · by_cases hnumber : ∃ m ∈ marks (tokens text.toList), m ≠ none
    · exact Or.inr (Or.inr (Or.inr ⟨hnumber, hrefused⟩))
    · obtain ⟨m, hm, -⟩ := hrefused
      exact Or.inr (Or.inl ⟨List.ne_nil_of_mem hm, by simpa using hnumber⟩)
  · have hle : ∀ m ∈ marks (tokens text.toList), ∃ n, m = some n ∧ n ≤ params.length := by
      intro m hm
      cases m with
      | none => exact absurd ⟨none, hm, Or.inl rfl⟩ hrefused
      | some n =>
        refine ⟨n, rfl, ?_⟩
        by_contra hn
        exact hrefused ⟨some n, hm, Or.inr ⟨n, rfl, by omega⟩⟩
    by_cases hzero : some 0 ∈ marks (tokens text.toList)
    · exact Or.inr (Or.inr (Or.inl ⟨hle, hzero⟩))
    · left
      intro m hm
      obtain ⟨n, rfl, hn⟩ := hle m hm
      refine ⟨n, rfl, Nat.one_le_iff_ne_zero.2 ?_, hn⟩
      rintro rfl
      exact hzero hm

/-- Placeholders that match are replaced by their own parameters. -/
lemma sends_of_matched (hread : ¬ Overlong params (tokens text.toList))
    (h : Matched params (tokens text.toList)) :
    ∃ q pieces, ofParams text params = .ok q ∧ q.sent = some pieces ∧
      bound (params.map Value.normalize) (tokens text.toList) = some pieces := by
  obtain ⟨numbers, hmarks, hnumbers⟩ := exists_numbers h
  rw [bound_eq_boundBy]
  cases numbers with
  | nil =>
    refine ⟨⟨text, none⟩, text.toList.map .char, ofParams_of_unnumbered (by simp [hmarks]), rfl, ?_⟩
    rw [boundBy_of_marks_eq_nil hmarks, tokens_eq_scan, flatMap_chars_scan (by decide)]
  | cons n numbers =>
    -- a number that matches is at least one, so there is a parameter
    obtain ⟨hone, hle⟩ := hnumbers n List.mem_cons_self
    have hparams : params ≠ [] := List.ne_nil_of_length_pos (by omega)
    obtain ⟨q, pieces, hq, hsent, hbound⟩ := ofParams_sends hread hmarks (by simp) hparams
      fun m hm => (hnumbers m hm).2
    refine ⟨q, pieces, hq, hsent, ?_⟩
    -- no number is zero, so none refers to the last parameter for that reason
    rw [← hbound]
    refine boundBy_congr (fun m hm => ?_) (by simp [hmarks])
    obtain ⟨m, rfl⟩ : ∃ m', m = m' + 1 :=
      Nat.exists_eq_add_of_le' (hnumbers m (by simpa [hmarks] using hm)).1
    rfl

/-- Where a number is zero and none is too great, the text is sent with the last parameter for it,
or there is no parameter to look up. -/
lemma outcome_of_takesZero (hread : ¬ Overlong params (tokens text.toList))
    (h : TakesZero params (tokens text.toList)) :
    params = [] ∧ ofParams text params = .error (.fault .outOfRange) ∨
      ∃ q pieces, ofParams text params = .ok q ∧ q.sent = some pieces ∧
        boundBy (wrappedValue (params.map Value.normalize)) (tokens text.toList) =
          some pieces := by
  obtain ⟨hle, hzero⟩ := h
  obtain ⟨numbers, hmarks, hnumbers⟩ := exists_numbers hle
  have hne : numbers ≠ [] := by
    rintro rfl
    simp [hmarks] at hzero
  by_cases hparams : params = []
  · subst hparams
    refine Or.inl ⟨rfl, ?_⟩
    rw [ofParams_of_numbers hread hmarks hne hnumbers]
    cases numbers with
    | nil => exact absurd rfl hne
    | cons n numbers =>
      obtain rfl : n = 0 := Nat.le_zero.1 (hnumbers n List.mem_cons_self)
      rfl
  · exact Or.inr (ofParams_sends hread hmarks hne hparams hnumbers)

lemma not_matched_of_allBare {ts : List Token} (h : AllBare ts) : ¬ Matched params ts := by
  intro hmatched
  obtain ⟨m, hm⟩ := List.exists_mem_of_ne_nil _ h.1
  obtain ⟨n, rfl, -⟩ := hmatched m hm
  exact Option.some_ne_none n (h.2 _ hm)

lemma not_matched_of_takesZero {ts : List Token} (h : TakesZero params ts) :
    ¬ Matched params ts := by
  intro hmatched
  obtain ⟨n, hn, hone, -⟩ := hmatched (some 0) h.2
  obtain rfl := Option.some.inj hn
  omega

/-- The outcome is right for every text and every list of parameters, but for three kinds of texts.
Those whose placeholders are all bare are handed over as they are. In those whose numbers are not
too great, but one of which is zero, the last parameter is sent in the place of the zero; when there
is no parameter, looking it up fails. And those with a number of too many digits make reading it
fail. -/
theorem make_isRight_iff {collection : Value} (h : collection.elements? = some params) :
    (IsRight text params (make text collection) ↔
      ¬ Overlong params (scan .outside text.toList) ∧ ¬ AllBare (scan .outside text.toList) ∧
        ¬ TakesZero params (scan .outside text.toList)) ∧
    (Overlong params (scan .outside text.toList) →
      make text collection = .error (.fault .wrongValue)) ∧
    (AllBare (scan .outside text.toList) → make text collection = .ok ⟨text, none⟩) ∧
    (TakesZero params (scan .outside text.toList) →
      ¬ Overlong params (scan .outside text.toList) →
      params = [] ∧ make text collection = .error (.fault .outOfRange) ∨
        ∃ q pieces, make text collection = .ok q ∧ q.sent = some pieces ∧
          boundBy (wrappedValue (params.map Value.normalize)) (scan .outside text.toList) =
            some pieces) := by
  have hmake : make text collection = ofParams text params := by simp [make, h]
  simp only [hmake, IsRight, ← tokens_eq_scan]
  refine ⟨⟨fun hright => ?_, fun hnone => ?_⟩, ofParams_of_overlong,
    fun hbare => ofParams_of_unnumbered hbare.2,
    fun hzero hread => outcome_of_takesZero hread hzero⟩
  · -- each of the three kinds has an outcome that is not right
    obtain ⟨hsends, hrefused⟩ := hright
    have hread : ¬ Overlong params (tokens text.toList) := by
      intro hlong
      rw [ofParams_of_overlong hlong] at hsends hrefused
      by_cases hmatched : Matched params (tokens text.toList)
      · obtain ⟨q, _, hq, -⟩ := hsends hmatched
        simp at hq
      · simpa using hrefused hmatched
    refine ⟨hread, fun hbare => ?_, fun hzero => ?_⟩
    · have herror := hrefused (not_matched_of_allBare hbare)
      rw [ofParams_of_unnumbered hbare.2] at herror
      simp at herror
    · have herror := hrefused (not_matched_of_takesZero hzero)
      rcases outcome_of_takesZero hread hzero with ⟨-, hfault⟩ | ⟨q, _, hq, -⟩
      · rw [hfault] at herror
        simp at herror
      · rw [hq] at herror
        simp at herror
  · -- without them, a text that does not match has a number, and a placeholder to be refused for
    obtain ⟨hread, hbare, hzero⟩ := hnone
    refine ⟨sends_of_matched hread, fun hmatched => ?_⟩
    rcases outcome_cases text params with h | h | h | ⟨hnumber, hrefused⟩
    · exact absurd h hmatched
    · exact absurd h hbare
    · exact absurd h hzero
    · exact ofParams_refused hread hnumber hrefused

/-- Two placeholders in the opposite order of their parameters, one of them twice, next to one in a
literal. -/
theorem swappedPair_isRight :
    (Value.list [.text "x", .int 2]).elements? = some [.text "x", .int 2] ∧
      IsRight "a = $2 AND b = '$9' OR c > $2 + $1" [.text "x", .int 2]
        (make "a = $2 AND b = '$9' OR c > $2 + $1" (.list [.text "x", .int 2])) := by
  have hmarks : marks (scan .outside "a = $2 AND b = '$9' OR c > $2 + $1".toList) =
      [some 2, some 2, some 1] := by decide +kernel
  have hshort : ∀ t ∈ scan .outside "a = $2 AND b = '$9' OR c > $2 + $1".toList,
      t.chars.length ≤ 2 := by decide +kernel
  refine ⟨rfl, (make_isRight_iff rfl).1.2 ⟨fun hlong => ?_, fun hbare => ?_, fun hzero => ?_⟩⟩
  · obtain ⟨digits, hmem, hlength⟩ := hlong
    have htwo := hshort _ hmem
    have hlimit : 4300 ≤ readDigits [Value.text "x", .int 2].length := le_max_left _ _
    simp only [Token.chars, List.length_cons] at htwo
    omega
  · rw [AllBare, hmarks] at hbare
    simpa using hbare.2 (some 2)
  · rw [TakesZero, hmarks] at hzero
    simpa using hzero.2

lemma not_isRight_of_ok {q : DriverQuery} {m : Option ℕ}
    (hm : m ∈ marks (scan .outside text.toList)) (hmatch : ∀ n, m = some n → n = 0) :
    ¬ IsRight text params (.ok q) := by
  intro hright
  have hrefused := hright.2 fun hmatched => by
    obtain ⟨n, rfl, hone, -⟩ := hmatched m hm
    have hzero := hmatch n rfl
    omega
  simp at hrefused

/-- A bare placeholder reaches the server, and the number zero stands for the last parameter, or
makes the look-up fail. -/
theorem barePlaceholder_sent :
    make "a = $" (.list [.text "x"]) = .ok ⟨"a = $", none⟩ ∧
      ¬ IsRight "a = $" [.text "x"] (make "a = $" (.list [.text "x"])) ∧
      make "a = $0" (.list [.text "x", .text "y"]) = .ok ⟨"a = %s", some [.text "y"]⟩ ∧
      ¬ IsRight "a = $0" [.text "x", .text "y"] (make "a = $0" (.list [.text "x", .text "y"])) ∧
      make "a = $0" (.list []) = .error (.fault .outOfRange) := by
  have hbare : make "a = $" (.list [.text "x"]) = .ok ⟨"a = $", none⟩ := by rfl
  have hzero : make "a = $0" (.list [.text "x", .text "y"]) = .ok ⟨"a = %s", some [.text "y"]⟩ := by
    rfl
  have hbareMarks : none ∈ marks (scan .outside "a = $".toList) := by decide +kernel
  have hzeroMarks : some 0 ∈ marks (scan .outside "a = $0".toList) := by decide +kernel
  refine ⟨hbare, ?_, hzero, ?_, by rfl⟩
  · rw [hbare]
    exact not_isRight_of_ok hbareMarks (by simp)
  · rw [hzero]
    exact not_isRight_of_ok hzeroMarks (by simp)

end DriverQuery

end DocumentSql

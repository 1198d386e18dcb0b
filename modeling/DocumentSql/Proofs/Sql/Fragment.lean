/-
Fragments inside larger texts.

A statement is put together of fragments: each is numbered behind the parameters of those before
it, set between other texts, and the whole is numbered once more.  `Predicate.Assembles` says
what must come of that: the parts of the whole are those of the fragments, each as it stands
alone and in order, with nothing but ordinary characters between them, and the parameters of the
whole are those of the fragments, one list behind the other.  Then the placeholders of a
fragment are bound to the parameters of that fragment.

The operations of `Predicate` assemble their operands (`chain_assembles`, `join_assembles`,
`wrap_assembles`), and what assembles fragments that assemble further ones assembles the latter
(`Assembles.trans`).
-/
import DocumentSql.Proofs.Result
import DocumentSql.Proofs.Sql.Reading
import DocumentSql.Sql.Predicate

namespace DocumentSql

namespace Sql

/-- The parts of a text are those of fragments, each of them whole and in order, with parts
between them that are no placeholders. -/
inductive Spliced : List (List Token) → List Token → Prop
  /-- A text without fragments. -/
  | glue {g : List Token} (hg : ∀ t ∈ g, t.isMark = false) : Spliced [] g
  /-- A fragment, with what stands before it and behind it. -/
  | fragment {g f w : List Token} {fs : List (List Token)} (hg : ∀ t ∈ g, t.isMark = false)
      (hw : Spliced fs w) : Spliced (f :: fs) (g ++ f ++ w)

namespace Spliced

variable {fs gs : List (List Token)} {w v g f : List Token}

lemma prepend (hg : ∀ t ∈ g, t.isMark = false) (h : Spliced fs w) : Spliced fs (g ++ w) := by
  cases h with
  | glue hw =>
    refine glue fun t ht => ?_
    rcases List.mem_append.1 ht with ht | ht
    · exact hg t ht
    · exact hw t ht
  | @fragment g' f w' fs hg' hw =>
    rw [List.append_assoc g', ← List.append_assoc g, ← List.append_assoc (g ++ g')]
    refine fragment (fun t ht => ?_) hw
    rcases List.mem_append.1 ht with ht | ht
    · exact hg t ht
    · exact hg' t ht

lemma append (h : Spliced fs w) (h' : Spliced gs v) : Spliced (fs ++ gs) (w ++ v) := by
  induction h with
  | glue hg => exact h'.prepend hg
  | fragment hg _ ih =>
    rw [List.append_assoc]
    exact fragment hg ih

/-- A text is a fragment of itself. -/
lemma single (f : List Token) : Spliced [f] f := by
  simpa using fragment (g := []) (f := f) (by simp) (glue (g := []) (by simp))

/-- Fragments of fragments are fragments of the whole. -/
lemma flatten {fss : List (List (List Token))} (hfs : List.Forall₂ Spliced fss gs)
    (h : Spliced gs w) : Spliced fss.flatten w := by
  induction h generalizing fss with
  | glue hg =>
    cases hfs
    exact glue hg
  | fragment hg _ ih =>
    cases hfs with
    | cons hf hrest =>
      rw [List.flatten_cons, List.append_assoc]
      exact (hf.append (ih hrest)).prepend hg

/-- The placeholders of a text are those of the fragments it holds. -/
lemma countP_isMark (h : Spliced fs w) :
    w.countP Token.isMark = (fs.map (List.countP Token.isMark)).sum := by
  have hnone : ∀ g : List Token, (∀ t ∈ g, t.isMark = false) → g.countP Token.isMark = 0 :=
    fun g hg => List.countP_eq_zero.2 fun t ht => by simp [hg t ht]
  induction h with
  | glue hg => simp [hnone _ hg]
  | fragment hg _ ih => simp [hnone _ hg, ih]

end Spliced

/-! ### Texts between fragments -/

lemma shape_append {a b : String} (hc : Closed a.toList) (hs : Seam a.toList b.toList) :
    shape (a ++ b) = shape a ++ shape b := by
  rw [shape, shape, shape, ← tokens_eq_scan, ← tokens_eq_scan, ← tokens_eq_scan,
    String.toList_append, tokens_append hc hs, List.map_append]

lemma Closed.append {as bs : List Char} (ha : Closed as) (hb : Closed bs) :
    Closed (as ++ bs) := by
  unfold Closed at *
  rw [List.count_append]
  omega

lemma closed_append {a b : String} (ha : Closed a.toList) (hb : Closed b.toList) :
    Closed (a ++ b).toList := by
  rw [String.toList_append]
  exact ha.append hb

/-- A text without quotes is closed. -/
lemma closed_of_not_mem {cs : List Char} (h : '\'' ∉ cs) : Closed cs := by
  simp [Closed, List.count_eq_zero_of_not_mem h]

/-- Every part of a text without dollar signs is an ordinary character. -/
lemma not_isMark_of_not_mem {m : Mode} {cs : List Char} (h : '$' ∉ cs) :
    ∀ t ∈ scan m cs, t.isMark = false := by
  induction cs generalizing m with
  | nil => simp
  | cons c cs ih =>
    intro t ht
    have hd : c ≠ '$' := fun hc => h (by simp [hc])
    rw [scan_cons, List.mem_append] at ht
    rcases ht with ht | ht
    · unfold step at ht
      split at ht
      · simp_all
      · split at ht
        · simp_all
        · split at ht <;> simp_all
    · exact ih (fun hm => h (by simp [hm])) t ht

lemma not_isMark_shape {s : String} (h : '$' ∉ s.toList) : ∀ t ∈ shape s, t.isMark = false := by
  intro t ht
  obtain ⟨u, hu, rfl⟩ := List.mem_map.1 ht
  rw [Token.isMark_bare]
  exact not_isMark_of_not_mem h u hu

/-- A text without quotes and dollar signs, and so without literals and placeholders. -/
structure Inert (s : String) : Prop where
  no_quote : '\'' ∉ s.toList
  no_dollar : '$' ∉ s.toList

instance : DecidablePred Inert := fun s =>
  decidable_of_iff ('\'' ∉ s.toList ∧ '$' ∉ s.toList)
    ⟨fun h => ⟨h.1, h.2⟩, fun h => ⟨h.no_quote, h.no_dollar⟩⟩

lemma Inert.closed {s : String} (h : Inert s) : Closed s.toList := closed_of_not_mem h.no_quote

lemma Inert.not_isMark {s : String} (h : Inert s) : ∀ t ∈ shape s, t.isMark = false :=
  not_isMark_shape h.no_dollar

lemma Inert.append {a b : String} (ha : Inert a) (hb : Inert b) : Inert (a ++ b) := by
  constructor
  · simp [ha.no_quote, hb.no_quote]
  · simp [ha.no_dollar, hb.no_dollar]

/-- A character of joined texts is one of the separator or of a text. -/
lemma mem_or_exists_of_mem_intercalate {c : Char} {sep : String} {ss : List String}
    (h : c ∈ (String.intercalate sep ss).toList) : c ∈ sep.toList ∨ ∃ s ∈ ss, c ∈ s.toList := by
  induction ss with
  | nil => simp at h
  | cons s ss ih =>
    cases ss with
    | nil => exact Or.inr ⟨s, by simp, by simpa using h⟩
    | cons t ts =>
      rw [String.intercalate_cons_cons, String.toList_append, String.toList_append,
        List.mem_append, List.mem_append] at h
      rcases h with (h | h) | h
      · exact Or.inr ⟨s, by simp, h⟩
      · exact Or.inl h
      · exact (ih h).imp_right fun ⟨u, hu, hc⟩ => ⟨u, List.mem_cons_of_mem s hu, hc⟩

lemma Inert.intercalate {sep : String} (hsep : Inert sep) {ss : List String}
    (h : ∀ s ∈ ss, Inert s) : Inert (String.intercalate sep ss) := by
  constructor
  · intro hc
    rcases mem_or_exists_of_mem_intercalate hc with hc | ⟨s, hs, hc⟩
    · exact hsep.no_quote hc
    · exact (h s hs).no_quote hc
  · intro hc
    rcases mem_or_exists_of_mem_intercalate hc with hc | ⟨s, hs, hc⟩
    · exact hsep.no_dollar hc
    · exact (h s hs).no_dollar hc

/-- A text that may stand between fragments: it is inert, and begins with no digit and no word
character. -/
structure Glue (s : String) : Prop extends Inert s where
  breaks : Breaks s.toList
  ne_nil : s.toList ≠ []

instance : DecidablePred Glue := fun s =>
  decidable_of_iff (Inert s ∧ Breaks s.toList ∧ s.toList ≠ [])
    ⟨fun h => ⟨h.1, h.2.1, h.2.2⟩, fun h => ⟨h.toInert, h.breaks, h.ne_nil⟩⟩

lemma Breaks.append {as bs : List Char} (h : Breaks as) (hne : as ≠ []) : Breaks (as ++ bs) := by
  intro c hc
  exact h c (by cases as <;> simp_all)

lemma breaks_append {s : String} (h : Breaks s.toList) (hne : s.toList ≠ []) (t : String) :
    Breaks (s ++ t).toList := by
  rw [String.toList_append]
  exact h.append hne

lemma Settled.append {bs : List Char} (h : Settled bs) (hne : bs ≠ []) (as : List Char) :
    Settled (as ++ bs) := by
  intro c hc
  rw [List.getLast?_append_of_ne_nil as hne] at hc
  exact h c hc

lemma settled_append {t : String} (h : Settled t.toList) (hne : t.toList ≠ []) (s : String) :
    Settled (s ++ t).toList := by
  rw [String.toList_append]
  exact h.append hne s.toList

/-- Texts with glue between them are read one by one. -/
lemma tokens_intercalate {sep : String} (hsep : Glue sep) {ss : List String}
    (hss : ∀ s ∈ ss, Closed s.toList) :
    Closed (String.intercalate sep ss).toList ∧
      tokens (String.intercalate sep ss).toList =
        (tokens sep.toList).intercalate (ss.map fun s => tokens s.toList) := by
  induction ss with
  | nil => exact ⟨by simp [Closed], by simp [List.intercalate]⟩
  | cons s ss ih =>
    obtain ⟨hclosed, htokens⟩ := ih fun t ht => hss t (by simp [ht])
    have hs := hss s (by simp)
    cases ss with
    | nil => simpa [List.intercalate] using hs
    | cons t ts =>
      have heq : String.intercalate sep (s :: t :: ts) =
          s ++ (sep ++ String.intercalate sep (t :: ts)) := by
        simp [String.intercalate_cons_cons, String.append_assoc]
      refine ⟨?_, ?_⟩
      · rw [heq]
        exact closed_append hs (closed_append hsep.closed hclosed)
      · rw [heq, String.toList_append, String.toList_append,
          tokens_append hs (Or.inr (hsep.breaks.append hsep.ne_nil)),
          tokens_append_of_no_dollar hsep.closed hsep.no_dollar, htokens, List.map_cons,
          List.map_cons, List.map_cons, List.intercalate_cons_cons, List.append_assoc]

lemma map_intercalate {α β : Type} (f : α → β) (sep : List α) (xss : List (List α)) :
    (sep.intercalate xss).map f = (sep.map f).intercalate (xss.map (·.map f)) := by
  induction xss with
  | nil => rfl
  | cons xs xss ih =>
    cases xss with
    | nil => simp [List.intercalate]
    | cons ys xss =>
      rw [List.intercalate_cons_cons, List.map_append, List.map_append, ih]
      simp [List.intercalate_cons_cons]

lemma shape_intercalate {sep : String} (hsep : Glue sep) {ss : List String}
    (hss : ∀ s ∈ ss, Closed s.toList) :
    shape (String.intercalate sep ss) = (shape sep).intercalate (ss.map shape) := by
  rw [shape, ← tokens_eq_scan, (tokens_intercalate hsep hss).2, map_intercalate, List.map_map]
  simp only [tokens_eq_scan]
  rfl

lemma Spliced.intercalate {g : List Token} (hg : ∀ t ∈ g, t.isMark = false)
    (fs : List (List Token)) : Spliced fs (g.intercalate fs) := by
  induction fs with
  | nil => exact Spliced.glue (by simp [List.intercalate])
  | cons f fs ih =>
    cases fs with
    | nil => simpa [List.intercalate] using Spliced.single f
    | cons f' fs =>
      rw [List.intercalate_cons_cons, List.append_assoc]
      exact (Spliced.single f).append (ih.prepend hg)

/-- A text set between two others holds the text. -/
lemma spliced_wrap {pre post s : String} (hs : Closed s.toList) (hpre : Inert pre)
    (hset : Settled pre.toList) (hpost : Inert post) (hbreaks : Breaks post.toList) :
    Closed (pre ++ s ++ post).toList ∧ Spliced [shape s] (shape (pre ++ s ++ post)) := by
  have hc : Closed (pre ++ s).toList := closed_append hpre.closed hs
  constructor
  · exact closed_append hc hpost.closed
  · rw [shape_append hc (Or.inr hbreaks), shape_append hpre.closed (Or.inl hset)]
    simpa using ((Spliced.single (shape s)).prepend hpre.not_isMark).append
      (Spliced.glue hpost.not_isMark)

end Sql

namespace Predicate

open Sql

/-- The literals of the fragment are closed, and it has a parameter for each placeholder. -/
structure Sound (p : Predicate) : Prop where
  closed : Closed p.text.toList
  count_eq : countPlaceholders p.text = p.params.length

/-- The fragment is put together of others: its text holds theirs, each whole and in order,
with no other placeholders, and its parameters are theirs. -/
structure Assembles (p : Predicate) (parts : List Predicate) : Prop where
  spliced : Spliced (parts.map fun q => shape q.text) (shape p.text)
  params_eq : p.params = allParams parts

namespace Assembles

variable {p : Predicate} {parts : List Predicate}

/-- A fragment is put together of itself. -/
lemma refl (p : Predicate) : p.Assembles [p] :=
  ⟨Spliced.single _, by simp [allParams]⟩

/-- What is put together of fragments that are put together themselves. -/
lemma trans {partss : List (List Predicate)} (h : p.Assembles parts)
    (hparts : List.Forall₂ Assembles parts partss) : p.Assembles partss.flatten := by
  obtain ⟨hspliced, hparams⟩ := h
  constructor
  · have hf : List.Forall₂ Spliced (partss.map fun qs => qs.map fun q => shape q.text)
        (parts.map fun q => shape q.text) := by
      rw [List.forall₂_map_left_iff, List.forall₂_map_right_iff]
      exact hparts.flip.imp fun _ _ h => h.spliced
    simpa [List.map_flatten] using hspliced.flatten hf
  · rw [hparams]
    clear hspliced hparams
    induction hparts with
    | nil => rfl
    | cons hq _ ih => simp_all [allParams, hq.params_eq]

end Assembles

lemma make_eq_ok_iff {text : String} {params : List Value} {origin : Members} {p : Predicate} :
    make text params origin = .ok p ↔
      countPlaceholders text = params.length ∧ p = ⟨renumber text 0, params, origin⟩ := by
  unfold make
  by_cases h : countPlaceholders text = params.length
  · simp [h, eq_comm]
  · simp [h]

lemma shape_of_make {text : String} {params : List Value} {origin : Members} {p : Predicate}
    (h : make text params origin = .ok p) : shape p.text = shape text := by
  obtain ⟨-, rfl⟩ := make_eq_ok_iff.1 h
  exact shape_renumber text 0

lemma params_of_make {text : String} {params : List Value} {origin : Members} {p : Predicate}
    (h : make text params origin = .ok p) : p.params = params := by
  obtain ⟨-, rfl⟩ := make_eq_ok_iff.1 h
  rfl

/-- A fragment made of a text with closed literals is sound. -/
lemma sound_of_make {text : String} {params : List Value} {origin : Members} {p : Predicate}
    (h : make text params origin = .ok p) (hc : Closed text.toList) : p.Sound := by
  obtain ⟨hcount, rfl⟩ := make_eq_ok_iff.1 h
  exact ⟨(closed_renumber text 0).2 hc, (countPlaceholders_renumber text 0).trans hcount⟩

lemma sound_empty : empty.Sound := ⟨by simp [Closed, empty], rfl⟩

lemma shape_eq_nil_of_isEmpty {p : Predicate} (h : p.isEmpty = true) : shape p.text = [] := by
  have ht : p.text = "" := by simpa [isEmpty] using h
  simp [shape, ht]

lemma params_eq_nil_of_isEmpty {p : Predicate} (hp : p.Sound) (h : p.isEmpty = true) :
    p.params = [] := by
  have hcount := hp.count_eq
  rw [countPlaceholders_eq, shape_eq_nil_of_isEmpty h] at hcount
  exact List.length_eq_zero_iff.1 hcount.symm

/-- The parts that a list of fragments without the empty ones holds, it holds with them. -/
lemma Assembles.of_filter {p : Predicate} {ps : List Predicate} (hps : ∀ q ∈ ps, q.Sound)
    (h : p.Assembles (ps.filter (!·.isEmpty))) : p.Assembles ps := by
  obtain ⟨hspliced, hparams⟩ := h
  constructor
  · generalize shape p.text = w at hspliced
    clear hparams
    induction ps generalizing w with
    | nil => exact hspliced
    | cons q ps ih =>
      have hps' : ∀ r ∈ ps, r.Sound := fun r hr => hps r (by simp [hr])
      by_cases hq : q.isEmpty = true
      · rw [List.filter_cons_of_neg (by simp [hq])] at hspliced
        have hrest := ih hps' w hspliced
        rw [List.map_cons, shape_eq_nil_of_isEmpty hq]
        simpa using Spliced.fragment (g := []) (f := []) (by simp) hrest
      · rw [List.filter_cons_of_pos (by simp [hq])] at hspliced
        cases hspliced with
        | fragment hg hw => exact Spliced.fragment hg (ih hps' _ hw)
  · rw [hparams]
    clear hspliced hparams
    induction ps with
    | nil => rfl
    | cons q ps ih =>
      have hrest := ih fun r hr => hps r (by simp [hr])
      by_cases hq : q.isEmpty = true
      · simp_all [allParams, params_eq_nil_of_isEmpty (hps q (by simp)) hq]
      · simp_all [allParams]

lemma shiftedTexts_shape (n : ℕ) (ps : List Predicate) :
    (shiftedTexts n ps).map shape = ps.map fun p => shape p.text := by
  induction ps generalizing n with
  | nil => rfl
  | cons p ps ih => simp [shiftedTexts, shifted, ih]

lemma closed_of_mem_shiftedTexts {n : ℕ} {ps : List Predicate} (hps : ∀ p ∈ ps, p.Sound) :
    ∀ s ∈ shiftedTexts n ps, Closed s.toList := by
  induction ps generalizing n with
  | nil => simp [shiftedTexts]
  | cons p ps ih =>
    intro s hs
    rcases List.mem_cons.1 hs with rfl | hs
    · exact (closed_renumber p.text n).2 (hps p (by simp)).closed
    · exact ih (fun q hq => hps q (by simp [hq])) s hs

/-- The parts of fragments one behind the other. -/
lemma shape_of_chain {ps : List Predicate} {sep : String} {q : Predicate}
    (hps : ∀ p ∈ ps, p.Sound) (hsep : Glue sep) (h : chain ps sep = .ok q) :
    shape q.text =
      (shape sep).intercalate ((ps.filter (!·.isEmpty)).map fun p => shape p.text) := by
  have hps' : ∀ p ∈ ps.filter (!·.isEmpty), p.Sound :=
    fun p hp => hps p (List.mem_of_mem_filter hp)
  have hmake : make (String.intercalate sep (shiftedTexts 0 (ps.filter (!·.isEmpty))))
      (allParams (ps.filter (!·.isEmpty))) [] = .ok q := h
  rw [shape_of_make hmake, shape_intercalate hsep (closed_of_mem_shiftedTexts hps'),
    shiftedTexts_shape]

lemma numbered_of_not_isMark {n : ℕ} {ts : List Token} (h : ∀ t ∈ ts, t.isMark = false) :
    numbered n ts = ts := by
  induction ts generalizing n with
  | nil => rfl
  | cons t ts ih =>
    cases t with
    | plain c => rw [numbered, ih fun u hu => h u (List.mem_cons_of_mem _ hu)]
    | mark digits => exact absurd (h (.mark digits) (by simp)) (by simp)

/-- A text without placeholders is not changed when it is numbered. -/
lemma renumber_of_count_eq_zero {s : String} (h : countPlaceholders s = 0) (n : ℕ) :
    renumber s n = s := by
  refine renumber_eq (numbered_of_not_isMark fun t ht => ?_)
  have hnone := List.countP_eq_zero.1 h t ht
  simpa using hnone

/-- A fragment without parameters has the text that it is made of. -/
lemma text_of_make_nil {text : String} {origin : Members} {p : Predicate}
    (h : make text [] origin = .ok p) : p.text = text := by
  obtain ⟨hcount, rfl⟩ := make_eq_ok_iff.1 h
  exact renumber_of_count_eq_zero hcount 0

lemma numbered_shiftedTexts {g : List Token} (hg : ∀ t ∈ g, t.isMark = false) (k n : ℕ)
    {ps : List Predicate} (hps : ∀ p ∈ ps, p.Sound) :
    numbered n (g.intercalate ((shiftedTexts k ps).map fun s => tokens s.toList)) =
      g.intercalate ((shiftedTexts n ps).map fun s => tokens s.toList) := by
  induction ps generalizing k n with
  | nil => rfl
  | cons p ps ih =>
    have hhead : ∀ i : ℕ, tokens (p.shifted i).toList = numbered i (tokens p.text.toList) :=
      tokens_renumber p.text
    have hcount : (tokens p.text.toList).countP Token.isMark = p.params.length :=
      (hps p (by simp)).count_eq
    cases ps with
    | nil => simp [shiftedTexts, List.intercalate, hhead]
    | cons q ps =>
      have hrest := ih (k + p.params.length) (n + p.params.length) fun r hr => hps r (by simp [hr])
      simp only [shiftedTexts, List.map_cons] at hrest ⊢
      rw [List.intercalate_cons_cons, List.intercalate_cons_cons, hhead, hhead, numbered_append,
        numbered_append, numbered_numbered, numbered_of_not_isMark hg, List.countP_append,
        countP_numbered, hcount, List.countP_eq_zero.2 fun t ht => by simpa using hg t ht,
        Nat.add_zero, hrest]

/-- Fragments one behind the other are numbered by numbering each of them. -/
lemma renumber_shiftedTexts {sep : String} (hsep : Glue sep) {ps : List Predicate}
    (hps : ∀ p ∈ ps, p.Sound) (k n : ℕ) :
    renumber (String.intercalate sep (shiftedTexts k ps)) n =
      String.intercalate sep (shiftedTexts n ps) := by
  have htokens : ∀ i : ℕ, tokens (String.intercalate sep (shiftedTexts i ps)).toList =
      (tokens sep.toList).intercalate ((shiftedTexts i ps).map fun s => tokens s.toList) :=
    fun i => (tokens_intercalate hsep (closed_of_mem_shiftedTexts hps)).2
  have hglue : ∀ t ∈ tokens sep.toList, t.isMark = false := by
    rw [tokens_eq_scan]
    exact not_isMark_of_not_mem hsep.no_dollar
  refine renumber_eq ?_
  rw [htokens, htokens]
  exact numbered_shiftedTexts hglue k n hps

/-- Fragments one behind the other stand there as they are, but for the numbers of their
placeholders: each is numbered behind the parameters of those before it. -/
theorem text_of_chain {ps : List Predicate} {sep : String} {q : Predicate}
    (hps : ∀ p ∈ ps, p.Sound) (hsep : Glue sep) (h : chain ps sep = .ok q) :
    q.text = String.intercalate sep (shiftedTexts 0 (ps.filter (!·.isEmpty))) := by
  have hmake : make (String.intercalate sep (shiftedTexts 0 (ps.filter (!·.isEmpty))))
      (allParams (ps.filter (!·.isEmpty))) [] = .ok q := h
  obtain ⟨-, rfl⟩ := make_eq_ok_iff.1 hmake
  exact renumber_shiftedTexts hsep (fun p hp => hps p (List.mem_of_mem_filter hp)) 0 0

/-- Fragments one behind the other make a fragment that holds them. -/
theorem chain_assembles {ps : List Predicate} {sep : String} {q : Predicate}
    (hps : ∀ p ∈ ps, p.Sound) (hsep : Glue sep) (h : chain ps sep = .ok q) :
    q.Sound ∧ q.Assembles ps := by
  have hps' : ∀ p ∈ ps.filter (!·.isEmpty), p.Sound :=
    fun p hp => hps p (List.mem_of_mem_filter hp)
  have hmake : make (String.intercalate sep (shiftedTexts 0 (ps.filter (!·.isEmpty))))
      (allParams (ps.filter (!·.isEmpty))) [] = .ok q := h
  obtain ⟨hclosed, -⟩ := tokens_intercalate hsep (closed_of_mem_shiftedTexts (n := 0) hps')
  refine ⟨sound_of_make hmake hclosed, Assembles.of_filter hps ⟨?_, params_of_make hmake⟩⟩
  rw [shape_of_chain hps hsep h]
  exact Spliced.intercalate hsep.not_isMark _

/-- A fragment set between other texts makes a fragment that holds it. -/
theorem wrap_assembles {p q : Predicate} {pre post : String} (hp : p.Sound) (hpre : Inert pre)
    (hset : Settled pre.toList) (hpost : Inert post) (hbreaks : Breaks post.toList)
    (h : p.withText (pre ++ p.text ++ post) = .ok q) : q.Sound ∧ q.Assembles [p] := by
  obtain ⟨hclosed, hspliced⟩ := spliced_wrap hp.closed hpre hset hpost hbreaks
  refine ⟨sound_of_make h hclosed, ?_, ?_⟩
  · rw [shape_of_make h]
    exact hspliced
  · rw [params_of_make h]
    simp [allParams]

/-! ### Joined fragments -/

lemma glue_space : Glue " " := by decide

lemma glue_comma : Glue ", " := by decide

lemma glue_operator (op : Operator) : Glue (" " ++ op.name ++ " ") := by
  cases op <;> decide

lemma enclosed_assembles {p q : Predicate} (hp : p.Sound) (h : p.enclosed = .ok q) :
    q.Sound ∧ q.Assembles [p] :=
  wrap_assembles hp (by decide) (by decide) (by decide) (by decide) h

/-- Fragments of which each holds one of others. -/
lemma forall₂_assembles {ps qs : List Predicate}
    (h : List.Forall₂ (fun p q => q.Sound ∧ q.Assembles [p]) ps qs) :
    (∀ q ∈ qs, q.Sound) ∧ List.Forall₂ Assembles qs (ps.map ([·])) := by
  induction h with
  | nil => simp
  | cons hq _ ih =>
    obtain ⟨hrest, hall⟩ := ih
    refine ⟨fun r hr => ?_, List.Forall₂.cons hq.2 hall⟩
    rcases List.mem_cons.1 hr with rfl | hr
    · exact hq.1
    · exact hrest r hr

lemma forall₂_enclosedAll {ps qs : List Predicate} (h : enclosedAll ps = .ok qs) :
    List.Forall₂ (fun p q => p.enclosed = .ok q) ps qs :=
  Result.forall₂_of_each (g := enclosedAll) rfl (fun _ _ => rfl) h

lemma enclosedAll_assembles {ps qs : List Predicate} (hps : ∀ p ∈ ps, p.Sound)
    (h : enclosedAll ps = .ok qs) :
    (∀ q ∈ qs, q.Sound) ∧ List.Forall₂ Assembles qs (ps.map ([·])) := by
  refine forall₂_assembles
    (((List.forall₂_and_left ps qs).2 ⟨hps, forall₂_enclosedAll h⟩).imp ?_)
  rintro p q ⟨hp, hq⟩
  exact enclosed_assembles hp hq

/-- Fragments joined with an operator make a fragment that holds them. -/
theorem join_assembles {ps : List Predicate} {op : Operator} {q : Predicate}
    (hps : ∀ p ∈ ps, p.Sound) (h : join ps op = .ok q) : q.Sound ∧ q.Assembles ps := by
  have hps' : ∀ p ∈ ps.filter (!·.isEmpty), p.Sound :=
    fun p hp => hps p (List.mem_of_mem_filter hp)
  unfold join at h
  split at h
  · next hnil =>
    obtain rfl : empty = q := by simpa using h
    refine ⟨sound_empty, Assembles.of_filter hps ?_⟩
    rw [hnil]
    exact ⟨Spliced.glue (by simp [empty, shape]), rfl⟩
  · next p hone =>
    obtain rfl : p = q := by simpa using h
    refine ⟨hps' p (by simp [hone]), Assembles.of_filter hps ?_⟩
    rw [hone]
    exact Assembles.refl p
  · obtain ⟨qs, hqs, h⟩ := Result.bind_eq_ok_iff.1 h
    obtain ⟨hsound, hassembles⟩ := enclosedAll_assembles hps' hqs
    obtain ⟨hq, hchain⟩ := chain_assembles hsound (glue_operator op) h
    refine ⟨hq, Assembles.of_filter hps ?_⟩
    simpa [← List.flatMap_def] using hchain.trans hassembles

/-! ### Fragments that can be put together -/

lemma length_allParams {ps : List Predicate} (hps : ∀ p ∈ ps, p.Sound) :
    (allParams ps).length = (ps.map fun p => (shape p.text).countP Token.isMark).sum := by
  induction ps with
  | nil => rfl
  | cons p ps ih =>
    have hcount := (hps p (by simp)).count_eq
    rw [countPlaceholders_eq] at hcount
    have hrest := ih fun q hq => hps q (by simp [hq])
    simpa [allParams, hcount] using hrest

/-- A text that holds sound fragments makes a fragment with their parameters. -/
lemma exists_make {text : String} {ps : List Predicate} (origin : Members)
    (hps : ∀ p ∈ ps, p.Sound) (h : Spliced (ps.map fun p => shape p.text) (shape text)) :
    ∃ q, make text (allParams ps) origin = .ok q := by
  refine ⟨_, make_eq_ok_iff.2 ⟨?_, rfl⟩⟩
  rw [countPlaceholders_eq, h.countP_isMark, length_allParams hps, List.map_map]
  rfl

lemma exists_enclosed {p : Predicate} (hp : p.Sound) : ∃ q, p.enclosed = .ok q := by
  have hspliced : Spliced [shape p.text] (shape ("(" ++ p.text ++ ")")) :=
    (spliced_wrap hp.closed (by decide) (by decide) (by decide) (by decide)).2
  have hsound : ∀ q ∈ [p], q.Sound := by simpa using hp
  simpa [enclosed, withText, allParams] using exists_make p.origin hsound hspliced

lemma exists_enclosedAll {ps : List Predicate} (hps : ∀ p ∈ ps, p.Sound) :
    ∃ qs, enclosedAll ps = .ok qs := by
  induction ps with
  | nil => exact ⟨[], rfl⟩
  | cons p ps ih =>
    obtain ⟨q, hq⟩ := exists_enclosed (hps p (by simp))
    obtain ⟨qs, hqs⟩ := ih fun r hr => hps r (by simp [hr])
    exact ⟨q :: qs, by simp [enclosedAll, hq, hqs, bind, Except.bind]⟩

lemma exists_chain {ps : List Predicate} {sep : String} (hps : ∀ p ∈ ps, p.Sound)
    (hsep : Glue sep) : ∃ q, chain ps sep = .ok q := by
  have hps' : ∀ p ∈ ps.filter (!·.isEmpty), p.Sound :=
    fun p hp => hps p (List.mem_of_mem_filter hp)
  refine exists_make [] hps' ?_
  rw [shape_intercalate hsep (closed_of_mem_shiftedTexts hps'), shiftedTexts_shape]
  exact Spliced.intercalate hsep.not_isMark _

/-- Sound fragments can be joined. -/
theorem exists_join {ps : List Predicate} (op : Operator) (hps : ∀ p ∈ ps, p.Sound) :
    ∃ q, join ps op = .ok q := by
  have hps' : ∀ p ∈ ps.filter (!·.isEmpty), p.Sound :=
    fun p hp => hps p (List.mem_of_mem_filter hp)
  unfold join
  split
  · exact ⟨_, rfl⟩
  · exact ⟨_, rfl⟩
  · obtain ⟨qs, hqs⟩ := exists_enclosedAll hps'
    obtain ⟨q, hq⟩ := exists_chain (enclosedAll_assembles hps' hqs).1 (glue_operator op)
    exact ⟨q, by simp [hqs, hq, bind, Except.bind]⟩

lemma placeholders_of_make {text : String} {params : List Value} {origin : Members}
    {p : Predicate} (h : make text params origin = .ok p) :
    placeholders p.text = (List.range p.params.length).map fun i => Nat.toDigits 10 (i + 1) := by
  obtain ⟨hcount, rfl⟩ := make_eq_ok_iff.1 h
  have hnumbers := placeholders_renumber text 0
  rw [hcount] at hnumbers
  simpa using hnumbers

/-- A fragment without parameters has no placeholders. -/
lemma Sound.assembles_nil {p : Predicate} (hp : p.Sound) (h : p.params = []) :
    p.Assembles [] := by
  have hcount := hp.count_eq
  rw [countPlaceholders_eq, h, List.length_nil, List.countP_eq_zero] at hcount
  exact ⟨Spliced.glue fun t ht => by simpa using hcount t ht, by simpa [allParams] using h⟩

/-- An empty fragment may be counted among those that a fragment holds. -/
lemma Assembles.insert_empty {p q : Predicate} {ps qs : List Predicate} (hq : q.Sound)
    (hempty : q.isEmpty = true) (h : p.Assembles (ps ++ qs)) : p.Assembles (ps ++ q :: qs) := by
  obtain ⟨hspliced, hparams⟩ := h
  constructor
  · generalize shape p.text = w at hspliced
    rw [List.map_append] at hspliced
    rw [List.map_append, List.map_cons, shape_eq_nil_of_isEmpty hempty]
    clear hparams
    induction ps generalizing w with
    | nil => simpa using Spliced.fragment (g := []) (f := []) (by simp) hspliced
    | cons r ps ih =>
      cases hspliced with
      | fragment hg hw => exact Spliced.fragment hg (ih _ hw)
  · rw [hparams]
    simp [allParams, params_eq_nil_of_isEmpty hq hempty]

/-! ### Empty fragments -/

lemma shape_eq_nil_iff {s : String} : shape s = [] ↔ s = "" := by
  constructor
  · intro h
    cases hs : s.toList with
    | nil => simpa using hs
    | cons c cs =>
      -- outside literals every character is part of the text
      have hstep : (step .outside c cs).1 ≠ [] := by
        unfold step
        rw [if_neg (by decide), if_neg (by simp)]
        split
        · simp
        · split
          · split <;> simp
          · simp
      rw [shape, hs, scan_cons, List.map_append, List.append_eq_nil_iff, List.map_eq_nil_iff] at h
      exact absurd h.1 hstep
  · rintro rfl
    rfl

lemma isEmpty_iff {p : Predicate} : p.isEmpty = true ↔ p.text = "" := by
  simp [isEmpty]

/-- Numbering leaves a text empty or not empty. -/
lemma isEmpty_of_make {text : String} {params : List Value} {origin : Members} {p : Predicate}
    (h : make text params origin = .ok p) : p.isEmpty = true ↔ text = "" := by
  rw [isEmpty_iff, ← shape_eq_nil_iff, shape_of_make h, shape_eq_nil_iff]

lemma isEmpty_of_make_ne {text : String} {params : List Value} {origin : Members} {p : Predicate}
    (h : make text params origin = .ok p) (hne : text ≠ "") : p.isEmpty = false := by
  rw [Bool.eq_false_iff]
  exact fun hempty => hne ((isEmpty_of_make h).1 hempty)

lemma isEmpty_enclosed {p q : Predicate} (h : p.enclosed = .ok q) : q.isEmpty = false := by
  rw [Bool.eq_false_iff]
  intro hempty
  have htext := (isEmpty_of_make h).1 hempty
  simp at htext

lemma shifted_ne_empty {p : Predicate} (h : p.isEmpty = false) (n : ℕ) : p.shifted n ≠ "" := by
  intro heq
  have hshape := shape_renumber p.text n
  rw [show renumber p.text n = "" from heq, shape_eq_nil_iff.2 rfl] at hshape
  simp [isEmpty, shape_eq_nil_iff.1 hshape.symm] at h

lemma isEmpty_of_mem_filter {ps : List Predicate} {p : Predicate}
    (h : p ∈ ps.filter (!·.isEmpty)) : p.isEmpty = false := by
  simpa using (List.mem_filter.1 h).2

lemma all_isEmpty (ps : List Predicate) :
    ps.all (·.isEmpty) = (ps.filter (!·.isEmpty)).isEmpty := by
  rw [Bool.eq_iff_iff]
  simp [List.filter_eq_nil_iff]

/-- Fragments one behind the other make the empty fragment exactly when all of them are empty. -/
lemma isEmpty_chain {ps : List Predicate} {sep : String} {q : Predicate}
    (h : chain ps sep = .ok q) : q.isEmpty = ps.all (·.isEmpty) := by
  rw [all_isEmpty, Bool.eq_iff_iff, isEmpty_of_make h]
  cases hfilter : ps.filter (!·.isEmpty) with
  | nil => simp [shiftedTexts]
  | cons p rest =>
    -- the text begins with the first fragment that is not empty
    have hmem : p ∈ ps.filter (!·.isEmpty) := by simp [hfilter]
    have hfirst : p.shifted 0 ≠ "" := shifted_ne_empty (isEmpty_of_mem_filter hmem) 0
    rw [shiftedTexts]
    cases shiftedTexts (0 + p.params.length) rest with
    | nil => simpa using hfirst
    | cons t ts => simp [String.intercalate_cons_cons, hfirst]

/-- Joined fragments impose no condition exactly when none of them does. -/
theorem isEmpty_join {ps : List Predicate} {op : Operator} {q : Predicate}
    (h : join ps op = .ok q) : q.isEmpty = ps.all (·.isEmpty) := by
  rw [all_isEmpty]
  have hne : ∀ p ∈ ps.filter (!·.isEmpty), p.isEmpty = false := fun p => isEmpty_of_mem_filter
  unfold join at h
  generalize ps.filter (!·.isEmpty) = fs at h hne
  split at h
  · obtain rfl : empty = q := Except.ok.inj h
    rfl
  · next p =>
    obtain rfl : p = q := Except.ok.inj h
    exact hne p (by simp)
  · next hnil hone =>
    obtain ⟨qs, hqs, h⟩ := Result.bind_eq_ok_iff.1 h
    cases forall₂_enclosedAll hqs with
    | nil => exact absurd rfl hnil
    | cons hr _ => simp [isEmpty_chain h, isEmpty_enclosed hr]

/-! ### Sequences of texts and fragments -/

/-- The parts of a sequence: each text is closed, and each fragment is sound. -/
def Part.IsSound : Part → Prop
  | .text s => Closed s.toList
  | .predicate p => p.Sound

/-- The fragments among the parts of a sequence. -/
def partFragments : List Part → List Predicate
  | [] => []
  | .text _ :: parts => partFragments parts
  | .predicate p :: parts => p :: partFragments parts

lemma partFragments_append (parts rest : List Part) :
    partFragments (parts ++ rest) = partFragments parts ++ partFragments rest := by
  induction parts with
  | nil => rfl
  | cons part parts ih => cases part <;> simp [partFragments, ih]

lemma forall₂_ofParts {parts : List Part} {ps : List Predicate} (h : ofParts parts = .ok ps) :
    List.Forall₂ (fun part p => part.toPredicate = .ok p) parts ps :=
  Result.forall₂_of_each (g := ofParts) rfl (fun _ _ => rfl) h

lemma ofParts_assembles {parts : List Part} {ps : List Predicate}
    (hparts : ∀ part ∈ parts, part.IsSound) (h : ofParts parts = .ok ps) :
    (∀ q ∈ ps, q.Sound) ∧ ∃ partss : List (List Predicate),
      List.Forall₂ Assembles ps partss ∧ partss.flatten = partFragments parts := by
  have heach := forall₂_ofParts h
  clear h
  induction heach with
  | nil => exact ⟨by simp, [], List.Forall₂.nil, rfl⟩
  | @cons part q parts ps hq _ ih =>
    obtain ⟨hsound, partss, hall, hflat⟩ := ih fun r hr => hparts r (by simp [hr])
    have hpart := hparts part (by simp)
    cases part with
    | text s =>
      have hqs := sound_of_make hq hpart
      refine ⟨fun r hr => ?_, [] :: partss,
        List.Forall₂.cons (hqs.assembles_nil (params_of_make hq)) hall, ?_⟩
      · rcases List.mem_cons.1 hr with rfl | hr
        · exact hqs
        · exact hsound r hr
      · simpa [partFragments] using hflat
    | predicate r =>
      obtain rfl : r = q := Except.ok.inj hq
      refine ⟨fun t ht => ?_, [r] :: partss, List.Forall₂.cons (Assembles.refl r) hall, ?_⟩
      · rcases List.mem_cons.1 ht with rfl | ht
        · exact hpart
        · exact hsound t ht
      · simpa [partFragments] using hflat

/-- A sequence of texts and fragments makes a fragment that holds the fragments. -/
theorem concat_assembles {parts : List Part} {sep : String} {p : Predicate}
    (hparts : ∀ part ∈ parts, part.IsSound) (hsep : Glue sep) (h : concat parts sep = .ok p) :
    p.Sound ∧ p.Assembles (partFragments parts) := by
  obtain ⟨ps, hps, h⟩ := Result.bind_eq_ok_iff.1 h
  obtain ⟨hsound, partss, hall, hflat⟩ := ofParts_assembles hparts hps
  obtain ⟨hp, hchain⟩ := chain_assembles hsound hsep h
  exact ⟨hp, hflat ▸ hchain.trans hall⟩

/-- The texts of the parts that are not empty, each fragment numbered behind the parameters of
those before it. -/
def partTexts (n : ℕ) : List Part → List String
  | [] => []
  | .text s :: parts => (if s.isEmpty then [] else [s]) ++ partTexts n parts
  | .predicate p :: parts =>
    (if p.isEmpty then [] else [p.shifted n]) ++ partTexts (n + p.params.length) parts

lemma partTexts_append (n : ℕ) (parts rest : List Part) :
    partTexts n (parts ++ rest) =
      partTexts n parts ++ partTexts (n + (allParams (partFragments parts)).length) rest := by
  induction parts generalizing n with
  | nil => simp [partTexts, partFragments, allParams]
  | cons part parts ih =>
    cases part with
    | text s => simp [partTexts, partFragments, ih]
    | predicate p => simp [partTexts, partFragments, allParams, ih, Nat.add_assoc]

lemma shiftedTexts_ofParts {parts : List Part} {ps : List Predicate} (n : ℕ)
    (hparts : ∀ part ∈ parts, part.IsSound) (h : ofParts parts = .ok ps) :
    shiftedTexts n (ps.filter (!·.isEmpty)) = partTexts n parts := by
  have heach := forall₂_ofParts h
  clear h
  induction heach generalizing n with
  | nil => rfl
  | @cons part p parts ps hp _ ih =>
    have hrest := fun n => ih n fun q hq => hparts q (by simp [hq])
    cases part with
    | text s =>
      -- a text has no placeholders, so no number in it changes
      have htext : p.text = s := text_of_make_nil hp
      have hparams : p.params = [] := params_of_make hp
      have hshifted : p.shifted n = s := by
        rw [shifted, htext]
        exact renumber_of_count_eq_zero (make_eq_ok_iff.1 hp).1 n
      by_cases hempty : s.isEmpty = true
      · rw [List.filter_cons_of_neg (by simp [isEmpty, htext, hempty]), hrest]
        simp [partTexts, hempty]
      · rw [List.filter_cons_of_pos (by simp [isEmpty, htext, hempty]), shiftedTexts, hshifted,
          hparams, hrest]
        simp [partTexts, hempty]
    | predicate q =>
      obtain rfl : q = p := Except.ok.inj hp
      by_cases hempty : q.isEmpty = true
      · have hparams := params_eq_nil_of_isEmpty (hparts (.predicate q) (by simp)) hempty
        rw [List.filter_cons_of_neg (by simp [hempty]), hrest]
        simp [partTexts, hempty, hparams]
      · rw [List.filter_cons_of_pos (by simp [hempty]), shiftedTexts, hrest]
        simp [partTexts, hempty]

/-- A sequence of texts and fragments stands in what it makes as it is, but for the numbers of
the placeholders. -/
theorem text_of_concat {parts : List Part} {sep : String} {p : Predicate}
    (hparts : ∀ part ∈ parts, part.IsSound) (hsep : Glue sep) (h : concat parts sep = .ok p) :
    p.text = String.intercalate sep (partTexts 0 parts) := by
  obtain ⟨ps, hps, h⟩ := Result.bind_eq_ok_iff.1 h
  obtain ⟨hsound, -⟩ := ofParts_assembles hparts hps
  rw [text_of_chain hsound hsep h, shiftedTexts_ofParts 0 hparts hps]

end Predicate

end DocumentSql

/-
Fragments in groups.

Putting fragments one behind the other is associative: fragments may be put together in groups, and
the groups then, with the same separator, and the result is that of all fragments at once
(`exists_concatenates_flatten`).  Each fragment stands in it as it is, numbered behind the
parameters of those before it (`Concatenates`).

Joining with an operator puts the fragments in parentheses and then one behind the other, so the
same holds of the fragments in parentheses (`Joins`).  What is joined in groups has the same
parameters, with a pair of parentheses for each group of several fragments.
-/
import DocumentSql.Proofs.Sql.Fragment

namespace DocumentSql

namespace Sql

/-- A text that may separate fragments: it is not empty, has no quotes and no dollar signs, and does
not begin with a word character. It may end with anything else. -/
structure IsSeparator (sep : String) : Prop where
  ne_empty : sep ≠ ""
  no_quote : '\'' ∉ sep.toList
  no_dollar : '$' ∉ sep.toList
  not_word : ∀ c ∈ sep.toList.head?, Text.isWord c = false

lemma IsSeparator.glue {sep : String} (h : IsSeparator sep) : Glue sep where
  no_quote := h.no_quote
  no_dollar := h.no_dollar
  breaks := by
    intro c hc
    have hword := h.not_word c hc
    refine ⟨hword, Bool.eq_false_iff.2 fun hdigit => ?_⟩
    simp [Text.isWord_of_isDigit hdigit] at hword
  ne_nil := by simpa using h.ne_empty

/-! ### Joined texts -/

/-- Texts joined first may be joined with others. -/
lemma intercalate_cons_intercalate {sep : String} {as bs cs : List String} (has : as ≠ [])
    (hnil : bs = [] ↔ cs = []) (h : sep.intercalate bs = sep.intercalate cs) :
    sep.intercalate (sep.intercalate as :: bs) = sep.intercalate (as ++ cs) := by
  by_cases hcs : cs = []
  · simp [hcs, hnil.2 hcs]
  · have hbs : bs ≠ [] := fun heq => hcs (hnil.1 heq)
    rw [String.intercalate_cons_of_ne_nil hbs, String.intercalate_append_of_ne_nil has hcs, h]

/-- A text in parentheses. -/
def inParens (s : String) : String := "(" ++ s ++ ")"

lemma tokens_inParens {s : String} (h : Closed s.toList) :
    tokens (inParens s).toList = .plain '(' :: (tokens s.toList ++ [.plain ')']) := by
  have hopen : tokens "(".toList = [.plain '('] := by decide
  have hclose : tokens ")".toList = [.plain ')'] := by decide
  have hbreaks : Breaks ")".toList := by decide
  have hinner : Closed ("(" ++ s).toList := closed_append (by decide) h
  rw [inParens, String.toList_append, tokens_append hinner (Or.inr hbreaks), String.toList_append,
    tokens_append_of_no_dollar (by decide) (by decide), hopen, hclose]
  rfl

/-- Numbering a text in parentheses is numbering the text. -/
lemma renumber_inParens {s : String} (h : Closed s.toList) (n : ℕ) :
    renumber (inParens s) n = inParens (renumber s n) := by
  refine renumber_eq ?_
  rw [tokens_inParens h, tokens_inParens ((closed_renumber s n).2 h), tokens_renumber]
  simp [numbered, numbered_append]

end Sql

namespace Predicate

open Sql

variable {ps qs es : List Predicate} {groups ess : List (List Predicate)} {p q : Predicate}
  {sep : String} {op : Operator}

/-! ### Fragments one behind the other -/

/-- The fragments are put one behind the other with a separator between them: those that are not
empty stand there, each numbered behind the parameters of those before it, and the parameters are
those of the fragments, in order. -/
structure Concatenates (sep : String) (ps : List Predicate) (q : Predicate) : Prop where
  eq_ok : concat (ps.map .predicate) sep = .ok q
  params_eq : q.params = allParams ps
  text_eq : q.text = String.intercalate sep (shiftedTexts 0 (ps.filter (!·.isEmpty)))

lemma ofParts_predicates (ps : List Predicate) : ofParts (ps.map .predicate) = .ok ps := by
  induction ps with
  | nil => rfl
  | cons p ps ih => simp [ofParts, Part.toPredicate, ih, bind, Except.bind]

lemma concat_predicates (ps : List Predicate) (sep : String) :
    concat (ps.map .predicate) sep = chain ps sep := by
  simp [concat, ofParts_predicates, bind, Except.bind]

/-- Sound fragments can be put one behind the other. -/
lemma exists_concatenates (hps : ∀ p ∈ ps, p.Sound) (hsep : Glue sep) :
    ∃ q, q.Sound ∧ Concatenates sep ps q := by
  obtain ⟨q, hq⟩ := exists_chain hps hsep
  obtain ⟨hsound, hassembles⟩ := chain_assembles hps hsep hq
  exact ⟨q, hsound, (concat_predicates ps sep).trans hq, hassembles.params_eq,
    text_of_chain hps hsep hq⟩

lemma Concatenates.eq_mk (h : Concatenates sep ps q) : q = ⟨q.text, q.params, []⟩ := by
  obtain ⟨-, hq⟩ := make_eq_ok_iff.1 ((concat_predicates ps sep).symm.trans h.eq_ok)
  rw [hq]

lemma Concatenates.isEmpty_eq (h : Concatenates sep ps q) : q.isEmpty = ps.all (·.isEmpty) :=
  isEmpty_chain ((concat_predicates ps sep).symm.trans h.eq_ok)

lemma shiftedTexts_append (n : ℕ) (ps qs : List Predicate) :
    shiftedTexts n (ps ++ qs) =
      shiftedTexts n ps ++ shiftedTexts (n + (allParams ps).length) qs := by
  induction ps generalizing n with
  | nil => simp [shiftedTexts, allParams]
  | cons p ps ih => simp [shiftedTexts, allParams, ih, Nat.add_assoc]

lemma shiftedTexts_eq_nil_iff {n : ℕ} : shiftedTexts n ps = [] ↔ ps = [] := by
  cases ps <;> simp [shiftedTexts]

lemma allParams_filter (hps : ∀ p ∈ ps, p.Sound) :
    allParams (ps.filter (!·.isEmpty)) = allParams ps := by
  induction ps with
  | nil => rfl
  | cons p ps ih =>
    have hrest := ih fun q hq => hps q (by simp [hq])
    by_cases hempty : p.isEmpty = true
    · rw [List.filter_cons_of_neg (by simp [hempty]), hrest]
      simp [allParams, params_eq_nil_of_isEmpty (hps p (by simp)) hempty]
    · rw [List.filter_cons_of_pos (by simp [hempty])]
      simpa [allParams] using hrest

lemma sound_flatten (hsound : ∀ ps ∈ groups, ∀ p ∈ ps, p.Sound) :
    ∀ p ∈ groups.flatten, p.Sound := by
  intro p hp
  obtain ⟨ps, hps, hmem⟩ := List.mem_flatten.1 hp
  exact hsound ps hps p hmem

/-- What can be made of each group can be made of all groups. -/
lemma exists_groups {R : List Predicate → Predicate → Prop}
    (h : ∀ ps ∈ groups, ∃ q, q.Sound ∧ R ps q) :
    ∃ qs, (∀ q ∈ qs, q.Sound) ∧ List.Forall₂ R groups qs := by
  induction groups with
  | nil => exact ⟨[], by simp, List.Forall₂.nil⟩
  | cons ps groups ih =>
    obtain ⟨q, hq, hps⟩ := h ps (by simp)
    obtain ⟨qs, hqs, hall⟩ := ih fun rs hrs => h rs (by simp [hrs])
    exact ⟨q :: qs, List.forall_mem_cons.2 ⟨hq, hqs⟩, List.Forall₂.cons hps hall⟩

lemma allParams_groups (h : List.Forall₂ (fun ps q => q.params = allParams ps) groups qs) :
    allParams qs = allParams groups.flatten := by
  induction h with
  | nil => rfl
  | cons hq _ ih => simp_all [allParams]

/-- Groups put together have the texts of all their fragments, behind any number of parameters. -/
lemma intercalate_groups (hsep : Glue sep) (hsound : ∀ ps ∈ groups, ∀ p ∈ ps, p.Sound)
    (h : List.Forall₂ (Concatenates sep) groups qs) (n : ℕ) :
    (qs.filter (!·.isEmpty) = [] ↔ groups.flatten.filter (!·.isEmpty) = []) ∧
      String.intercalate sep (shiftedTexts n (qs.filter (!·.isEmpty))) =
        String.intercalate sep (shiftedTexts n (groups.flatten.filter (!·.isEmpty))) := by
  induction h generalizing n with
  | nil => simp
  | @cons ps q groups qs hq _ ih =>
    have hps : ∀ p ∈ ps, p.Sound := hsound ps (by simp)
    have ih := fun n => ih (fun rs hrs => hsound rs (by simp [hrs])) n
    have hempty := hq.isEmpty_eq
    rw [all_isEmpty] at hempty
    rw [List.flatten_cons, List.filter_append]
    cases hfilter : ps.filter (!·.isEmpty) with
    | nil =>
      rw [List.filter_cons_of_neg (by simp [hempty, hfilter]), List.nil_append]
      exact ih n
    | cons p rest =>
      -- the text of the group is numbered on, and its fragments with it
      have htext : q.shifted n = String.intercalate sep (shiftedTexts n (p :: rest)) := by
        rw [shifted, hq.text_eq, hfilter]
        exact renumber_shiftedTexts hsep
          (fun r hr => hps r (List.mem_of_mem_filter (hfilter ▸ hr))) 0 n
      have hlength : q.params.length = (allParams (p :: rest)).length := by
        rw [hq.params_eq, ← allParams_filter hps, hfilter]
      obtain ⟨hnil, hrest⟩ := ih (n + q.params.length)
      rw [List.filter_cons_of_pos (by simp [hempty, hfilter]), shiftedTexts_append, shiftedTexts,
        htext, ← hlength]
      refine ⟨by simp, intercalate_cons_intercalate (by simp [shiftedTexts]) ?_ hrest⟩
      rw [shiftedTexts_eq_nil_iff, shiftedTexts_eq_nil_iff, hnil]

/-- Fragments may be put together in groups, and the groups then. -/
lemma exists_concatenates_flatten (hsep : Glue sep)
    (hsound : ∀ ps ∈ groups, ∀ p ∈ ps, p.Sound) :
    ∃ qs q, List.Forall₂ (Concatenates sep) groups qs ∧ Concatenates sep qs q ∧
      Concatenates sep groups.flatten q := by
  obtain ⟨qs, hqs, hall⟩ := exists_groups fun ps hps => exists_concatenates (hsound ps hps) hsep
  obtain ⟨q, -, hq⟩ := exists_concatenates hqs hsep
  obtain ⟨r, -, hr⟩ := exists_concatenates (sound_flatten hsound) hsep
  have hparams : q.params = r.params := by
    rw [hq.params_eq, hr.params_eq]
    exact allParams_groups (hall.imp fun _ _ h => h.params_eq)
  have htext : q.text = r.text := by
    rw [hq.text_eq, hr.text_eq]
    exact (intercalate_groups hsep hsound hall 0).2
  obtain rfl : q = r := by rw [hq.eq_mk, hr.eq_mk, htext, hparams]
  exact ⟨qs, q, hall, hq, hr⟩

/-! ### Fragments joined with an operator -/

/-- The fragments are joined with an operator: their parameters are kept in order, and of several
fragments that are not empty each stands there in parentheses, numbered behind the parameters of
those before it. -/
structure Joins (op : Operator) (ps : List Predicate) (q : Predicate) : Prop where
  eq_ok : join ps op = .ok q
  params_eq : q.params = allParams ps
  text_eq : 2 ≤ (ps.filter (!·.isEmpty)).length →
    q.text = String.intercalate (" " ++ op.name ++ " ")
      ((shiftedTexts 0 (ps.filter (!·.isEmpty))).map inParens)

lemma join_of_several (h : 2 ≤ (ps.filter (!·.isEmpty)).length) (op : Operator) :
    join ps op =
      enclosedAll (ps.filter (!·.isEmpty)) >>= fun es => chain es (" " ++ op.name ++ " ") := by
  unfold join
  split
  · next hnil => simp [hnil] at h
  · next p hone => simp [hone] at h
  · rfl

lemma enclosedAll_append {fs : List Predicate} (hps : enclosedAll ps = .ok es)
    (hqs : enclosedAll qs = .ok fs) : enclosedAll (ps ++ qs) = .ok (es ++ fs) := by
  induction ps generalizing es with
  | nil =>
    obtain rfl : [] = es := Except.ok.inj hps
    exact hqs
  | cons p ps ih =>
    obtain ⟨e, he, hps⟩ := Result.bind_eq_ok_iff.1 hps
    obtain ⟨rest, hrest, hps⟩ := Result.bind_eq_ok_iff.1 hps
    obtain rfl : e :: rest = es := Except.ok.inj hps
    simp [enclosedAll, he, ih hrest, bind, Except.bind]

/-- Fragments in parentheses are numbered inside them. -/
lemma shiftedTexts_enclosed (hps : ∀ p ∈ ps, p.Sound) (h : enclosedAll ps = .ok es) (n : ℕ) :
    shiftedTexts n es = (shiftedTexts n ps).map inParens := by
  have heach := forall₂_enclosedAll h
  clear h
  induction heach generalizing n with
  | nil => rfl
  | @cons p e ps es he _ ih =>
    obtain ⟨-, rfl⟩ := make_eq_ok_iff.1 he
    have hclosed := (hps p (by simp)).closed
    have hshifted : Sql.renumber (Sql.renumber (inParens p.text) (0 : ℕ)) n =
        inParens (p.shifted n) := by
      rw [renumber_renumber, renumber_inParens hclosed, shifted]
    rw [shiftedTexts, shiftedTexts, List.map_cons, ih (fun q hq => hps q (by simp [hq])),
      ← hshifted]
    rfl

lemma filter_enclosed (h : enclosedAll ps = .ok es) : es.filter (!·.isEmpty) = es := by
  refine List.filter_eq_self.2 (Result.forall_of_forall₂ (forall₂_enclosedAll h) ?_)
  exact fun _ _ _ he => by simp [isEmpty_enclosed he]

/-- Sound fragments can be joined. -/
lemma exists_joins (op : Operator) (hps : ∀ p ∈ ps, p.Sound) : ∃ q, q.Sound ∧ Joins op ps q := by
  obtain ⟨q, hq⟩ := exists_join op hps
  obtain ⟨hsound, hassembles⟩ := join_assembles hps hq
  refine ⟨q, hsound, hq, hassembles.params_eq, fun hseveral => ?_⟩
  have hps' : ∀ p ∈ ps.filter (!·.isEmpty), p.Sound :=
    fun p hp => hps p (List.mem_of_mem_filter hp)
  rw [join_of_several hseveral] at hq
  obtain ⟨es, hes, hq⟩ := Result.bind_eq_ok_iff.1 hq
  rw [text_of_chain (enclosedAll_assembles hps' hes).1 (glue_operator op) hq, filter_enclosed hes,
    shiftedTexts_enclosed hps' hes]

/-- Fragments may be put in parentheses in groups. -/
lemma exists_enclosed_groups (hsound : ∀ ps ∈ groups, ∀ p ∈ ps, p.Sound) :
    ∃ ess, List.Forall₂ (fun ps es => enclosedAll (ps.filter (!·.isEmpty)) = .ok es) groups ess ∧
      enclosedAll (groups.flatten.filter (!·.isEmpty)) = .ok ess.flatten ∧
      ∀ es ∈ ess, ∀ e ∈ es, e.Sound := by
  induction groups with
  | nil => exact ⟨[], List.Forall₂.nil, rfl, by simp⟩
  | cons ps groups ih =>
    have hps : ∀ p ∈ ps.filter (!·.isEmpty), p.Sound :=
      fun p hp => hsound ps (by simp) p (List.mem_of_mem_filter hp)
    obtain ⟨es, hes⟩ := exists_enclosedAll hps
    obtain ⟨ess, hall, hflat, hess⟩ := ih fun rs hrs => hsound rs (by simp [hrs])
    refine ⟨es :: ess, List.Forall₂.cons hes hall, ?_,
      List.forall_mem_cons.2 ⟨(enclosedAll_assembles hps hes).1, hess⟩⟩
    rw [List.flatten_cons, List.filter_append]
    exact enclosedAll_append hes hflat

/-- Sound fragments in groups can be put one behind the other with any separator, and it does not
matter whether the groups are put together first: the result is the same, with the parameters of all
fragments in order and the text of each one numbered behind those before it.

The same holds when they are joined with an operator: several fragments that are not empty stand in
parentheses, and these may be put one behind the other in groups. When the groups are joined, and
what comes of them again, each group stands in parentheses of its own, over the same parameters. -/
theorem concat_join_grouped (hsep : IsSeparator sep)
    (hsound : ∀ ps ∈ groups, ∀ p ∈ ps, p.Sound) :
    (∃ qs q, List.Forall₂ (Concatenates sep) groups qs ∧ Concatenates sep qs q ∧
        Concatenates sep groups.flatten q) ∧
      (∀ op, ∃ q, Joins op groups.flatten q ∧
        (2 ≤ (groups.flatten.filter (!·.isEmpty)).length → ∃ ess qs,
          List.Forall₂ (fun ps es => enclosedAll (ps.filter (!·.isEmpty)) = .ok es) groups ess ∧
          List.Forall₂ (Concatenates (" " ++ op.name ++ " ")) ess qs ∧
          Concatenates (" " ++ op.name ++ " ") qs q)) ∧
      ∀ op op', ∃ rs r, List.Forall₂ (Joins op) groups rs ∧ Joins op' rs r ∧
        r.params = allParams groups.flatten := by
  refine ⟨exists_concatenates_flatten hsep.glue hsound, fun op => ?_, fun op op' => ?_⟩
  · obtain ⟨q, -, hq⟩ := exists_joins op (sound_flatten hsound)
    refine ⟨q, hq, fun hseveral => ?_⟩
    obtain ⟨ess, hess, hflat, hsoundEss⟩ := exists_enclosed_groups hsound
    obtain ⟨qs, r, hqs, hr, hrflat⟩ := exists_concatenates_flatten (glue_operator op) hsoundEss
    have hjoin : join groups.flatten op = .ok r := by
      rw [join_of_several hseveral, hflat, ← hrflat.eq_ok, concat_predicates]
      rfl
    obtain rfl : q = r := Except.ok.inj (hq.eq_ok.symm.trans hjoin)
    exact ⟨ess, qs, hess, hqs, hr⟩
  · obtain ⟨rs, hrs, hall⟩ := exists_groups fun ps hps => exists_joins op (hsound ps hps)
    obtain ⟨r, -, hr⟩ := exists_joins op' hrs
    refine ⟨rs, r, hall, hr, ?_⟩
    rw [hr.params_eq]
    exact allParams_groups (hall.imp fun _ _ h => h.params_eq)

/-- Fragments with literals, without parameters and without text, in groups. -/
def sampleGroups : List (List Predicate) :=
  [[⟨"a = $1", [.int 1], []⟩, empty, ⟨"b = '$' OR b = $1", [.int 2], []⟩], [],
    [⟨"c || 'it''s'", [], []⟩]]

theorem sampleGroups_grouped :
    IsSeparator ", 1" ∧ (∀ ps ∈ sampleGroups, ∀ p ∈ ps, p.Sound) ∧
      (∃ qs q, List.Forall₂ (Concatenates ", 1") sampleGroups qs ∧ Concatenates ", 1" qs q ∧
        q.text = "a = $1, 1b = '$' OR b = $2, 1c || 'it''s'" ∧ q.params = [.int 1, .int 2]) ∧
      ∃ q, Joins .or sampleGroups.flatten q ∧
        q.text = "(a = $1) OR (b = '$' OR b = $2) OR (c || 'it''s')" := by
  have hsep : IsSeparator ", 1" := by
    refine ⟨by decide, by decide, by decide, ?_⟩
    simp
    decide
  have hsound : ∀ ps ∈ sampleGroups, ∀ p ∈ ps, p.Sound := by
    simp only [sampleGroups, List.forall_mem_cons, List.not_mem_nil, false_imp_iff, implies_true,
      and_true, true_and]
    exact ⟨⟨⟨rfl, by decide⟩, sound_empty, ⟨rfl, by decide⟩⟩, ⟨rfl, by decide⟩⟩
  obtain ⟨⟨qs, q, hqs, hq, hflat⟩, hjoin, -⟩ := concat_join_grouped hsep hsound
  obtain ⟨r, hr, -⟩ := hjoin .or
  refine ⟨hsep, hsound, ⟨qs, q, hqs, hq, ?_, hflat.params_eq⟩, r, hr, ?_⟩
  · rw [hflat.text_eq]
    decide +kernel
  · rw [hr.text_eq (by decide)]
    decide +kernel

end Predicate

end DocumentSql

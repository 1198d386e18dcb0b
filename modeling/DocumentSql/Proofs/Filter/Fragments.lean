/-
The fragments of a filter.

A filter is compiled bottom up, and the numbers of its placeholders are given anew at every join.
`Filter.fragments` lists what its leaves compile to on their own, from left to right; a call
stands there by the expressions of its keys and by its name and arguments.  By induction over
the tree, the compiled filter holds these fragments in this order, each with its own parameters
(`Filter.compile_assembles`).
-/
import DocumentSql.Proofs.Cast.Plain
import DocumentSql.Proofs.Filter.Keys

namespace DocumentSql

open Sql

/-- The names that are brought in by what a filter is compiled for do not disturb the reading of
the text around them. -/
structure Scope.IsPlain (s : Scope) : Prop where
  entity : s.entity.IsPlain
  procedures : s.procedures.IsInert

namespace Filter

mutual
/-- The raw fragments of a filter. -/
def rawTexts : Filter → List String
  | raw s => [s]
  | all fs => rawTextsAll fs
  | any fs => rawTextsAll fs
  | _ => []
  termination_by structural f => f
/-- The raw fragments of filters. -/
def rawTextsAll : List Filter → List String
  | [] => []
  | f :: fs => f.rawTexts ++ rawTextsAll fs
  termination_by structural fs => fs
end

/-- A filter that may stand in a statement: its keys were read from texts, and the literals of
its raw fragments are closed. -/
structure Proper (f : Filter) : Prop where
  keys : ∀ k ∈ f.keys, k.IsRead
  rawTexts : ∀ s ∈ f.rawTexts, Closed s.toList

lemma rawTextsAll_eq_flatMap (fs : List Filter) : rawTextsAll fs = fs.flatMap rawTexts := by
  induction fs with
  | nil => rfl
  | cons f fs ih => rw [rawTextsAll, ih, List.flatMap_cons]

lemma rawTexts_joined (op : Predicate.Operator) (fs : List Filter) :
    (joined op fs).rawTexts = rawTextsAll fs := by
  cases op <;> rfl

section Operands

variable {f : Filter} {fs : List Filter}

lemma keys_subset_joined (op : Predicate.Operator) (hf : f ∈ fs) :
    f.keys ⊆ (joined op fs).keys := by
  rw [keys_joined, keysAll_eq_flatMap]
  exact fun _ hmem => List.mem_flatMap_of_mem hf hmem

lemma rawTexts_subset_joined (op : Predicate.Operator) (hf : f ∈ fs) :
    f.rawTexts ⊆ (joined op fs).rawTexts := by
  rw [rawTexts_joined, rawTextsAll_eq_flatMap]
  exact fun _ hmem => List.mem_flatMap_of_mem hf hmem

lemma Proper.of_joined (op : Predicate.Operator) (h : (joined op fs).Proper) :
    ∀ f ∈ fs, f.Proper := fun _ hf =>
  ⟨fun k hk => h.keys k (keys_subset_joined op hf hk),
    fun t ht => h.rawTexts t (rawTexts_subset_joined op hf ht)⟩

end Operands

/-! ### The fragments of a filter -/

/-- The fragments of a call: the expressions of its keys, its name and its arguments. -/
def callFragments (s : Scope) (keys : List FieldKey) (f : PredicateFunction)
    (arguments : List Value) : Result (List Predicate) := do
  let resolved ← FieldKey.resolveAll s.procedures s.entity true s.documents keys
  let arguments ← jsonText (.list arguments)
  let name ← Predicate.ofText "$::json" [.text (Json.writeText f.name)]
  let arguments ← Predicate.ofText "$::json" [.text arguments]
  .ok (resolved ++ [name, arguments])

mutual
/-- What the leaves of a filter compile to on their own, from left to right. -/
def fragments (s : Scope) : Filter → Result (List Predicate)
  | call keys f arguments _ => callFragments s keys f arguments
  | all fs => fragmentsAll s fs
  | any fs => fragmentsAll s fs
  | raw text => (compile s (raw text)).map ([·])
  | column k v => (compile s (column k v)).map ([·])
  | property k v => (compile s (property k v)).map ([·])
  | other v => (compile s (other v)).map ([·])
  termination_by structural f => f
/-- What the leaves of filters compile to on their own, from left to right. -/
def fragmentsAll (s : Scope) : List Filter → Result (List Predicate)
  | [] => .ok []
  | f :: fs =>
    match fragments s f with
    | .ok ps => (fragmentsAll s fs).map (ps ++ ·)
    | .error e => .error e
  termination_by structural fs => fs
end

/-! ### Leaves -/

lemma compareJson_sound {expr : String} {v : Value} {p : Predicate} (hexpr : Closed expr.toList)
    (h : compareJson expr v = .ok p) : p.Sound := by
  obtain ⟨text, -, h⟩ := Result.bind_eq_ok_iff.1 h
  exact Predicate.sound_of_make h
    (closed_append (closed_append (by decide) hexpr) (by decide))

lemma Equates.sound {expr : String} {onNull : CastKind} {onPlain : Result CastKind} {v : Value}
    {p : Predicate} (h : Equates expr onNull onPlain v p) (hexpr : Closed expr.toList) :
    p.Sound := by
  have hcast : ∀ kind : CastKind, Closed ((Cast.kind kind).applyTo expr).toList := fun kind =>
    Cast.closed_applyTo (Cast.isInert_kind kind) hexpr
  cases h with
  | null _ h => exact Predicate.sound_of_make h (closed_append (hcast onNull) (by decide))
  | json _ _ h => exact compareJson_sound hexpr h
  | plain _ _ _ h => exact Predicate.sound_of_make h (closed_append (hcast _) (by decide))

lemma compileColumn_sound {s : Scope} {k : FieldKey} {v : Value} {p : Predicate}
    (hs : s.IsPlain) (hk : k.IsRead) (h : compileColumn s k v = .ok p) : p.Sound := by
  obtain ⟨q, hq, h⟩ := equates_of_compileColumn h
  exact h.sound (FieldKey.resolve_sound hs.procedures hs.entity hk hq).1.closed

lemma compileProperty_sound {s : Scope} {k : FieldKey} {v : Value} {p : Predicate}
    (hs : s.IsPlain) (hk : k.IsRead) (h : compileProperty s k v = .ok p) : p.Sound := by
  obtain ⟨q, hq, h⟩ := equates_of_compileProperty h
  exact h.sound (FieldKey.resolve_sound hs.procedures hs.entity hk hq).1.closed

/-! ### Calls -/

lemma resolveAll_sound {s : Scope} {keys : List FieldKey} {ps : List Predicate}
    (hs : s.IsPlain) (hkeys : ∀ k ∈ keys, k.IsRead)
    (h : FieldKey.resolveAll s.procedures s.entity true s.documents keys = .ok ps) :
    ∀ p ∈ ps, p.Sound :=
  Result.forall_of_forall₂ (forall₂_resolveAll h) fun k hk _ hp =>
    (FieldKey.resolve_sound hs.procedures hs.entity (hkeys k hk) hp).1

lemma asJson_assembles {ps qs : List Predicate} (hps : ∀ p ∈ ps, p.Sound)
    (h : asJson ps = .ok qs) :
    (∀ q ∈ qs, q.Sound) ∧ List.Forall₂ Predicate.Assembles qs (ps.map ([·])) := by
  refine Predicate.forall₂_assembles
    (((List.forall₂_and_left ps qs).2 ⟨hps, forall₂_asJson h⟩).imp ?_)
  rintro p q ⟨hp, hq⟩
  exact Predicate.wrap_assembles hp (by decide) (by decide) (by decide) (by decide) hq

lemma valueArray_spliced {values : Predicate} (h : values.Sound) :
    Closed (valueArray values).toList ∧
      Spliced [shape values.text] (shape (valueArray values)) := by
  unfold valueArray
  split
  · next hempty =>
    rw [Predicate.shape_eq_nil_of_isEmpty hempty]
    refine ⟨by simp [Closed], ?_⟩
    simpa using Spliced.fragment (g := []) (f := []) (by simp)
      (Spliced.glue (not_isMark_shape (s := "'[]'::json") (by decide)))
  · exact spliced_wrap h.closed (by decide) (by decide) (by decide) (by decide)

/-- The parameters of a call behind its values. -/
lemma spliced_json_arguments :
    Spliced [shape "$1::json", shape "$1::json"] (shape ", $::json, $::json)") := by
  have hshape : shape ", $::json, $::json)" =
      shape ", " ++ shape "$1::json" ++ (shape ", " ++ shape "$1::json" ++ shape ")") := by
    decide
  rw [hshape]
  have hcomma : ∀ t ∈ shape ", ", t.isMark = false := by decide
  exact Spliced.fragment hcomma (Spliced.fragment hcomma (Spliced.glue (by decide)))

lemma ofText_json (v : Value) :
    Predicate.ofText "$::json" [v] = .ok ⟨"$1::json", [v], []⟩ := by
  rw [Predicate.ofText, Predicate.make_eq_ok_iff]
  exact ⟨by simp [show countPlaceholders "$::json" = 1 from by decide],
    by rw [show renumber "$::json" 0 = "$1::json" from by decide]⟩

/-- A call under a cast stands between parentheses, if any, and the end of the cast. -/
lemma castCall_eq_ok {c : Cast} {v : Value} {expr text : String} (hc : Cast.parse v = .ok c)
    (h : castCall c expr = .ok text) :
    ∃ pre post, text = pre ++ expr ++ post ∧ pre ∈ ["", "(", "((", "((("] ∧ Inert post ∧
      Breaks post.toList := by
  have hclose := breaks_append (s := ")") (by decide) (by decide)
  unfold castCall at h
  split at h
  · have heq : text = "(" ++ expr ++ ")::text" := by simpa [eq_comm] using h
    exact ⟨"(", ")::text", heq, by simp, by decide, hclose "::text"⟩
  · next hne =>
    obtain ⟨d, hd, heq⟩ := Result.map_eq_ok_iff.1 h
    obtain rfl : d = c := Cast.parse_toValue hc hd
    cases d with
    | kind k =>
      cases k with
      | text => exact absurd rfl hne
      | direct =>
        refine ⟨"", "", ?_, by simp, by decide, by decide⟩
        simpa [Cast.applyTo, eq_comm] using heq
      | numeric =>
        exact ⟨"((", ")::text)::numeric", heq.symm, by simp, by decide,
          hclose "::text)::numeric"⟩
      | boolean =>
        exact ⟨"(((", ")::text)::boolean IS TRUE)", heq.symm, by simp, by decide,
          hclose "::text)::boolean IS TRUE)"⟩
    | type n =>
      have hn := Cast.isInert_of_parse hc n rfl
      have hcast : Inert ("::" ++ n) := Inert.append (by decide) hn
      rw [Cast.applyTo, Cast.operand] at heq
      split at heq
      · refine ⟨"", "::" ++ n, ?_, by simp, hcast, ?_⟩
        · simpa [eq_comm, String.append_assoc] using heq
        · exact breaks_append (by decide) (by decide) n
      · refine ⟨"(", ")" ++ ("::" ++ n), ?_, by simp,
          Inert.append (by decide) hcast, hclose _⟩
        rw [← heq]
        simp only [String.append_assoc]

/-- What opens parentheses is inert and ends with no placeholder. -/
lemma inert_of_mem_parentheses {pre : String} (h : pre ∈ ["", "(", "((", "((("]) :
    Inert pre ∧ Settled pre.toList := by
  simp only [List.mem_cons, List.not_mem_nil, or_false] at h
  rcases h with rfl | rfl | rfl | rfl
  all_goals
    exact ⟨by decide, by decide⟩

/-- The result of a call keeps the call whole under every cast. -/
lemma castCall_assembles {c : Cast} {v : Value} {p q : Predicate} {text : String}
    (hp : p.Sound) (hc : Cast.parse v = .ok c) (h : castCall c p.text = .ok text)
    (hq : p.withText text = .ok q) : q.Sound ∧ q.Assembles [p] := by
  obtain ⟨pre, post, rfl, hpre, hpost, hbreaks⟩ := castCall_eq_ok hc h
  obtain ⟨hinert, hset⟩ := inert_of_mem_parentheses hpre
  exact Predicate.wrap_assembles hp hinert hset hpost hbreaks hq

/-- The text of a call: its values stand between its name and the parameters behind them. -/
lemma shape_call {dispatch : String} (hdispatch : Inert dispatch) {values : Predicate}
    (hvalues : values.Sound) :
    Closed (dispatch ++ "(" ++ valueArray values ++ ", $::json, $::json)").toList ∧
      shape (dispatch ++ "(" ++ valueArray values ++ ", $::json, $::json)") =
        shape (dispatch ++ "(") ++ shape (valueArray values) ++ shape ", $::json, $::json)" := by
  have hopen : Inert (dispatch ++ "(") := hdispatch.append (by decide)
  have hclosed := closed_append hopen.closed (valueArray_spliced hvalues).1
  refine ⟨closed_append hclosed (by decide), ?_⟩
  rw [shape_append hclosed, shape_append hopen.closed]
  · exact Or.inl (settled_append (by decide) (by decide) _)
  · exact Or.inr (by decide)

/-- A call holds the expressions of its keys, its name and its arguments. -/
theorem compileCall_assembles {s : Scope} {keys : List FieldKey} {f : PredicateFunction}
    {arguments : List Value} {returnType : Value} {p : Predicate} (hs : s.IsPlain)
    (hkeys : ∀ k ∈ keys, k.IsRead) (h : compileCall s keys f arguments returnType = .ok p) :
    ∃ parts, callFragments s keys f arguments = .ok parts ∧ (∀ q ∈ parts, q.Sound) ∧
      p.Sound ∧ p.Assembles parts := by
  obtain ⟨resolved, jsons, values, argumentText, q, c, text, h⟩ := exists_calls h
  -- the values: each key as JSON, with commas between them
  have hsound := resolveAll_sound hs hkeys h.resolved_eq
  obtain ⟨hjsonSound, hjsonAll⟩ := asJson_assembles hsound h.jsons_eq
  obtain ⟨hvaluesSound, hvaluesAll⟩ :=
    Predicate.chain_assembles hjsonSound Predicate.glue_comma h.values_eq
  have hvaluesParts : values.Assembles resolved := by
    simpa [← List.flatMap_def] using hvaluesAll.trans hjsonAll
  -- the call: the values between its name and the JSON parameters
  set name : Predicate := ⟨"$1::json", [.text (Json.writeText f.name)], []⟩ with hname
  set given : Predicate := ⟨"$1::json", [.text argumentText], []⟩ with hgiven
  obtain ⟨hclosed, hshape⟩ := shape_call hs.procedures.dispatch hvaluesSound
  have hdispatch : Inert (s.procedures.dispatch ++ "(") :=
    hs.procedures.dispatch.append (by decide)
  have hcall : q.Sound ∧ q.Assembles [values, name, given] := by
    refine ⟨Predicate.sound_of_make h.call_eq hclosed, ?_, ?_⟩
    · rw [Predicate.shape_of_make h.call_eq, hshape]
      exact ((valueArray_spliced hvaluesSound).2.prepend hdispatch.not_isMark).append
        spliced_json_arguments
    · rw [Predicate.params_of_make h.call_eq]
      simp [Predicate.allParams, hname, hgiven]
  -- the cast of the result keeps the call whole
  obtain ⟨hpSound, hpAll⟩ := castCall_assembles hcall.1 h.cast_eq h.text_eq h.result_eq
  refine ⟨resolved ++ [name, given], ?_, ?_, hpSound, ?_⟩
  · simp [callFragments, h.resolved_eq, h.arguments_eq, ofText_json, hname, hgiven, bind,
      Except.bind]
  · have hjson : Closed "$::json".toList := by decide
    have hnameSound : name.Sound := Predicate.sound_of_make (ofText_json _) hjson
    have hgivenSound : given.Sound := Predicate.sound_of_make (ofText_json _) hjson
    intro r hr
    simp only [List.mem_append, List.mem_cons, List.not_mem_nil, or_false] at hr
    rcases hr with hr | rfl | rfl
    · exact hsound r hr
    · exact hnameSound
    · exact hgivenSound
  · have hparts := hcall.2.trans (List.Forall₂.cons hvaluesParts
      (List.Forall₂.cons (Predicate.Assembles.refl name)
        (List.Forall₂.cons (Predicate.Assembles.refl given) List.Forall₂.nil)))
    simpa using hpAll.trans (List.Forall₂.cons hparts List.Forall₂.nil)

/-! ### Filters -/

lemma leaf_assembles {x : Result Predicate} {p : Predicate} (h : x = .ok p) (hp : p.Sound) :
    ∃ parts, x.map ([·]) = .ok parts ∧ (∀ q ∈ parts, q.Sound) ∧
      p.Sound ∧ p.Assembles parts := by
  subst h
  exact ⟨[p], rfl, by simpa using hp, hp, Predicate.Assembles.refl p⟩

/-- Joined filters hold what the operands hold. -/
lemma joined_assembles {s : Scope} {fs : List Filter} {ps : List Predicate}
    {op : Predicate.Operator} {p : Predicate}
    (h : ∃ partss : List (List Predicate), fragmentsAll s fs = .ok partss.flatten ∧
      (∀ q ∈ partss.flatten, q.Sound) ∧ (∀ p ∈ ps, p.Sound) ∧
      List.Forall₂ Predicate.Assembles ps partss) (hp : Predicate.join ps op = .ok p) :
    ∃ parts, fragmentsAll s fs = .ok parts ∧ (∀ q ∈ parts, q.Sound) ∧
      p.Sound ∧ p.Assembles parts := by
  obtain ⟨partss, hparts, hown, hsound, hall⟩ := h
  obtain ⟨hpSound, hjoin⟩ := Predicate.join_assembles hsound hp
  exact ⟨partss.flatten, hparts, hown, hpSound, hjoin.trans hall⟩

mutual
/-- A compiled filter holds what its leaves compile to on their own, from left to right, each
with its parameters. -/
theorem compile_assembles {s : Scope} (hs : s.IsPlain) :
    ∀ (f : Filter) (p : Predicate), f.Proper → compile s f = .ok p →
      ∃ parts, fragments s f = .ok parts ∧ (∀ q ∈ parts, q.Sound) ∧
        p.Sound ∧ p.Assembles parts
  | raw text, p, hf, h => by
    refine leaf_assembles h (Predicate.sound_of_make h (hf.rawTexts text ?_))
    simp [rawTexts]
  | column k v, p, hf, h =>
    leaf_assembles h (compileColumn_sound hs (hf.keys k (by simp [keys])) h)
  | property k v, p, hf, h =>
    leaf_assembles h (compileProperty_sound hs (hf.keys k (by simp [keys])) h)
  | call ks f arguments returnType, p, hf, h =>
    compileCall_assembles hs (fun k hk => hf.keys k (by simpa [keys] using hk)) h
  | other v, p, _, h => by
    refine leaf_assembles h ?_
    rw [compile_other h]
    exact Predicate.sound_empty
  | all fs, p, hf, h => by
    obtain ⟨ps, hps, hp⟩ := compile_all h
    exact joined_assembles (compileAll_assembles hs fs ps (.of_joined .and hf) hps) hp
  | any fs, p, hf, h => by
    obtain ⟨ps, hps, hp⟩ := compile_any h
    exact joined_assembles (compileAll_assembles hs fs ps (.of_joined .or hf) hps) hp
  termination_by structural f => f
/-- The same for filters one after the other. -/
theorem compileAll_assembles {s : Scope} (hs : s.IsPlain) :
    ∀ (fs : List Filter) (ps : List Predicate), (∀ f ∈ fs, f.Proper) → compileAll s fs = .ok ps →
      ∃ partss : List (List Predicate), fragmentsAll s fs = .ok partss.flatten ∧
        (∀ q ∈ partss.flatten, q.Sound) ∧ (∀ p ∈ ps, p.Sound) ∧
        List.Forall₂ Predicate.Assembles ps partss
  | [], ps, _, h => by
    obtain rfl : [] = ps := by simpa [compileAll] using h
    exact ⟨[], rfl, by simp, by simp, List.Forall₂.nil⟩
  | f :: fs, ps, hproper, h => by
    obtain ⟨p, ps, hp, hps, rfl⟩ := compileAll_cons h
    obtain ⟨hf, hfs⟩ := List.forall_mem_cons.1 hproper
    obtain ⟨parts, hparts, hown, hsound, hassembles⟩ := compile_assembles hs f p hf hp
    obtain ⟨partss, hpartss, hownRest, hrest, hall⟩ := compileAll_assembles hs fs ps hfs hps
    refine ⟨parts :: partss, ?_, ?_, ?_, List.Forall₂.cons hassembles hall⟩
    · simp [fragmentsAll, hparts, hpartss, Except.map]
    · exact List.forall_mem_append.2 ⟨hown, hownRest⟩
    · exact List.forall_mem_cons.2 ⟨hsound, hrest⟩
  termination_by structural fs => fs
end

end Filter

end DocumentSql

/-
One filter under two schemas.

The schema that a filter is compiled for decides nothing but the casts of the properties that it
compares with plain values.  Under two schemas that give each of these the same cast it compiles
to the same fragment (`compile_congr`).  Under schemas that do not, the texts part at the first
property whose casts differ (`compile_agrees`): the casts put different numbers of parentheses
in front of the data container.
-/
import DocumentSql.Proofs.Filter.Fragments
import DocumentSql.Proofs.Sql.Divergence

namespace DocumentSql

open Sql

namespace Filter

mutual
/-- The properties that a filter compares with plain values, with these values. -/
def compared : Filter → List (FieldKey × Value)
  | property k v => if v.isNull || v.isStructured then [] else [(k, v)]
  | all fs => comparedAll fs
  | any fs => comparedAll fs
  | _ => []
  termination_by structural f => f
/-- The properties that filters compare with plain values, with these values. -/
def comparedAll : List Filter → List (FieldKey × Value)
  | [] => []
  | f :: fs => f.compared ++ comparedAll fs
  termination_by structural fs => fs
end

/-- Two schemas give properties the same casts in comparisons with values. -/
def SameCasts (s : Scope) (schema schema' : Value) (cs : List (FieldKey × Value)) : Prop :=
  ∀ c ∈ cs, comparisonKind { s with schema := schema } c.1 c.2 =
    comparisonKind { s with schema := schema' } c.1 c.2

namespace SameCasts

variable {s : Scope} {schema schema' : Value} {cs ds : List (FieldKey × Value)}

lemma append_iff : SameCasts s schema schema' (cs ++ ds) ↔
    SameCasts s schema schema' cs ∧ SameCasts s schema schema' ds := by
  simp only [SameCasts, List.mem_append]
  constructor
  · intro h
    exact ⟨fun c hc => h c (Or.inl hc), fun c hc => h c (Or.inr hc)⟩
  · rintro ⟨hcs, hds⟩ c (hc | hc)
    · exact hcs c hc
    · exact hds c hc

end SameCasts

/-! ### Filters without conditions -/

mutual
/-- The filter imposes no condition: it has no leaves but empty texts. -/
def isVacuous : Filter → Bool
  | raw s => s.isEmpty
  | all fs => isVacuousAll fs
  | any fs => isVacuousAll fs
  | other _ => true
  | column _ _ => false
  | property _ _ => false
  | call _ _ _ _ => false
  termination_by structural f => f
/-- None of the filters imposes a condition. -/
def isVacuousAll : List Filter → Bool
  | [] => true
  | f :: fs => f.isVacuous && isVacuousAll fs
  termination_by structural fs => fs
end

lemma isEmpty_compareJson {expr : String} {v : Value} {p : Predicate}
    (h : compareJson expr v = .ok p) : p.isEmpty = false := by
  obtain ⟨text, -, h⟩ := Result.bind_eq_ok_iff.1 h
  exact Predicate.isEmpty_of_make_ne h (by simp)

lemma Equates.isEmpty_eq {expr : String} {onNull : CastKind} {onPlain : Result CastKind} {v : Value}
    {p : Predicate} (h : Equates expr onNull onPlain v p) : p.isEmpty = false := by
  cases h with
  | null _ h => exact Predicate.isEmpty_of_make_ne h (by simp)
  | json _ _ h => exact isEmpty_compareJson h
  | plain _ _ _ h => exact Predicate.isEmpty_of_make_ne h (by simp)

lemma isEmpty_compileColumn {s : Scope} {k : FieldKey} {v : Value} {p : Predicate}
    (h : compileColumn s k v = .ok p) : p.isEmpty = false := by
  obtain ⟨q, -, h⟩ := equates_of_compileColumn h
  exact h.isEmpty_eq

lemma isEmpty_compileProperty {s : Scope} {k : FieldKey} {v : Value} {p : Predicate}
    (h : compileProperty s k v = .ok p) : p.isEmpty = false := by
  obtain ⟨q, -, h⟩ := equates_of_compileProperty h
  exact h.isEmpty_eq

lemma isEmpty_compileCall {s : Scope} {keys : List FieldKey} {f : PredicateFunction}
    {arguments : List Value} {returnType : Value} {p : Predicate}
    (h : compileCall s keys f arguments returnType = .ok p) : p.isEmpty = false := by
  obtain ⟨resolved, jsons, values, argumentText, q, c, text, h⟩ := exists_calls h
  have hq : q.text ≠ "" := by
    intro hempty
    have hcall := Predicate.isEmpty_of_make_ne h.call_eq (by simp)
    simp [Predicate.isEmpty, hempty] at hcall
  have hc := h.cast_eq
  have htext := h.text_eq
  refine Predicate.isEmpty_of_make_ne h.result_eq ?_
  unfold castCall at htext
  split at htext
  · obtain rfl := Except.ok.inj htext
    simp
  · next hne =>
    obtain ⟨d, hd, rfl⟩ := Result.map_eq_ok_iff.1 htext
    obtain rfl : d = c := Cast.parse_toValue hc hd
    cases d with
    | type name => simp [Cast.applyTo]
    | kind kind =>
      cases kind with
      | direct => exact hq
      | numeric => simp [Cast.applyTo]
      | boolean => simp [Cast.applyTo]
      | text => exact absurd rfl hne

mutual
/-- Whether a compiled filter is empty does not depend on what it is compiled for. -/
theorem isEmpty_compile {s : Scope} :
    ∀ (f : Filter) (p : Predicate), compile s f = .ok p → p.isEmpty = f.isVacuous
  | raw text, p, h => by
    rw [Bool.eq_iff_iff, Predicate.isEmpty_of_make h]
    simp [isVacuous]
  | column k v, p, h => isEmpty_compileColumn h
  | property k v, p, h => isEmpty_compileProperty h
  | call keys f arguments returnType, p, h => isEmpty_compileCall h
  | other v, p, h => by
    rw [compile_other h]
    rfl
  | all fs, p, h => by
    obtain ⟨ps, hps, hp⟩ := compile_all h
    rw [Predicate.isEmpty_join hp, isEmpty_compileAll fs ps hps, isVacuous]
  | any fs, p, h => by
    obtain ⟨ps, hps, hp⟩ := compile_any h
    rw [Predicate.isEmpty_join hp, isEmpty_compileAll fs ps hps, isVacuous]
  termination_by structural f => f
/-- The same for filters one after the other. -/
theorem isEmpty_compileAll {s : Scope} :
    ∀ (fs : List Filter) (ps : List Predicate), compileAll s fs = .ok ps →
      ps.all (·.isEmpty) = isVacuousAll fs
  | [], ps, h => by
    obtain rfl : [] = ps := Except.ok.inj h
    rfl
  | f :: fs, ps, h => by
    obtain ⟨p, ps, hp, hps, rfl⟩ := compileAll_cons h
    rw [List.all_cons, isEmpty_compile f p hp, isEmpty_compileAll fs ps hps, isVacuousAll]
  termination_by structural fs => fs
end

/-! ### Schemas that agree -/

lemma compileProperty_congr {s : Scope} {schema schema' : Value} {k : FieldKey} {v : Value}
    (h : SameCasts s schema schema' (property k v).compared) :
    compileProperty { s with schema := schema } k v =
      compileProperty { s with schema := schema' } k v := by
  unfold compileProperty
  by_cases hnull : v.isNull = true
  · simp [hnull]
  · by_cases hstruct : v.isStructured = true
    · simp [hnull, hstruct]
    · have hkind := h (k, v) (by simp [compared, hnull, hstruct])
      simp only [hnull, hstruct, hkind]

mutual
/-- A filter compiles to the same fragment under schemas that give the same casts. -/
theorem compile_congr {s : Scope} {schema schema' : Value} :
    ∀ f : Filter, SameCasts s schema schema' f.compared →
      compile { s with schema := schema } f = compile { s with schema := schema' } f
  | raw _, _ => rfl
  | column _ _, _ => rfl
  | property _ _, h => compileProperty_congr h
  | call _ _ _ _, _ => rfl
  | other _, _ => rfl
  | all fs, h => by
    rw [compile, compile, compileAll_congr fs h]
  | any fs, h => by
    rw [compile, compile, compileAll_congr fs h]
  termination_by structural f => f
/-- The same for filters one after the other. -/
theorem compileAll_congr {s : Scope} {schema schema' : Value} :
    ∀ fs : List Filter, SameCasts s schema schema' (comparedAll fs) →
      compileAll { s with schema := schema } fs = compileAll { s with schema := schema' } fs
  | [], _ => rfl
  | f :: fs, h => by
    obtain ⟨hf, hfs⟩ := SameCasts.append_iff.1 h
    rw [compileAll, compileAll, compile_congr f hf, compileAll_congr fs hfs]
  termination_by structural fs => fs
end

/-! ### Schemas that disagree -/

lemma scan_outside_cons {c : Char} (hq : c ≠ '\'') (hd : c ≠ '$') (cs : List Char) :
    scan .outside (c :: cs) = .plain c :: scan .outside cs := by
  rw [scan_cons, step_plain hq hd]
  rfl

/-- What a text begins with: so many parentheses and the first character of a name. -/
def Opens (n : ℕ) (c : Char) (s : String) : Prop :=
  ∃ cs, s.toList = List.replicate n '(' ++ c :: cs

lemma Opens.append {n : ℕ} {c : Char} {s : String} (h : Opens n c s) (t : String) :
    Opens n c (s ++ t) := by
  obtain ⟨cs, hcs⟩ := h
  exact ⟨cs ++ t.toList, by simp [hcs]⟩

lemma Opens.enclose {n : ℕ} {c : Char} {s : String} (h : Opens n c s) (pre post : String) {m : ℕ}
    (hpre : pre.toList = List.replicate m '(') : Opens (m + n) c (pre ++ s ++ post) := by
  obtain ⟨cs, hcs⟩ := h
  refine ⟨cs ++ post.toList, ?_⟩
  simp only [String.toList_append, hpre, hcs, List.replicate_add, List.append_assoc,
    List.cons_append]

lemma opens_navigate {container : String} (h : IsPlainName container) (path : List String) :
    ∃ c, FieldKey.isNameChar c = true ∧ Opens 1 c (navigate container .json path) := by
  obtain ⟨c, cs, hcs⟩ : ∃ c cs, container.toList = c :: cs := by
    cases hlist : container.toList with
    | nil =>
      rw [IsPlainName, hlist] at h
      simp [isPlainName] at h
    | cons c cs => exact ⟨c, cs, rfl⟩
  refine ⟨c, h.isNameChar c (by simp [hcs]), ?_⟩
  unfold navigate
  split <;> exact ⟨_, by simp [hcs]; rfl⟩

/-- Replacing a part that begins with a blank leaves the two characters at the start. -/
lemma opens_replaceLast? {c : Char} {expr : String} {part replacement cs : List Char}
    (hc : c ≠ ' ') (h : Opens 1 c expr) (hpart : part.head? = some ' ')
    (hcs : Text.replaceLast? part replacement expr.toList = some cs) :
    Opens 1 c (String.ofList cs) := by
  obtain ⟨⟨before, after⟩, hcut, rfl⟩ := Option.map_eq_some_iff.1 hcs
  obtain ⟨rest, hrest⟩ := h
  have heq := Cast.cutLast_eq_some hcut
  obtain ⟨blanks, rfl⟩ : ∃ blanks, part = ' ' :: blanks := by
    cases part with
    | nil => simp at hpart
    | cons d ds => exact ⟨ds, by simpa using hpart⟩
  rw [hrest] at heq
  rcases before with - | ⟨d, - | ⟨d', before⟩⟩
  · simp at heq
  · simp [hc] at heq
  · obtain ⟨rfl, rfl, -⟩ : '(' = d ∧ c = d' ∧ _ := by simpa using heq
    exact ⟨before ++ (replacement ++ after), by simp⟩

/-- The number of parentheses in front of a container tells the casts of a property apart. -/
lemma opens_applyTo {c : Char} {expr : String} (hc : c ≠ ' ') (h : Opens 1 c expr) :
    (∃ n ≤ 2, Opens n c ((Cast.kind .text).applyTo expr)) ∧
      Opens 3 c ((Cast.kind .numeric).applyTo expr) ∧
      Opens 4 c ((Cast.kind .boolean).applyTo expr) := by
  refine ⟨?_, h.enclose "((" ")::text)::numeric" (m := 2) rfl,
    h.enclose "(((" ")::text)::boolean IS TRUE)" (m := 3) rfl⟩
  rw [Cast.applyTo, Cast.asText]
  split
  · next cs hcs =>
    refine ⟨1, by omega, ?_⟩
    unfold Cast.textNavigation? at hcs
    split at hcs
    · next ds hds =>
      obtain rfl : ds = cs := Option.some.inj hcs
      exact opens_replaceLast? hc h rfl hds
    · exact opens_replaceLast? hc h rfl hcs
  · split
    · exact ⟨1, by omega, h⟩
    · rw [Cast.operand]
      split
      · exact ⟨1, by omega, h.append "::text"⟩
      · refine ⟨2, by omega, Opens.append ?_ "::text"⟩
        exact h.enclose "(" ")" (m := 1) rfl

lemma ofDeclared_ne_direct (t : Option String) : CastKind.ofDeclared t ≠ .direct := by
  unfold CastKind.ofDeclared
  split <;> simp

/-- The casts that a comparison of a property may have. -/
lemma comparisonKind_path {s : Scope} {path : List String} {v : Value} {kind : CastKind}
    (h : comparisonKind s (.path path) v = .ok kind) : kind ≠ .direct := by
  unfold comparisonKind at h
  split at h
  · obtain rfl : CastKind.ofDeclared (Schema.declaredType? s.schema (.path path)) = kind :=
      Except.ok.inj h
    exact ofDeclared_ne_direct _
  · obtain rfl : kindOfValue v = kind := Except.ok.inj h
    unfold kindOfValue
    split <;> simp

/-- Texts that begin with different numbers of parentheses part behind the fewer ones. -/
lemma diverge_of_opens {s t : String} {m n : ℕ} {c : Char} (hmn : m < n)
    (hc : FieldKey.isNameChar c = true) (hs : Opens m c s) (ht : Opens n c t) :
    Diverge (shape s) (shape t) := by
  obtain ⟨cs, hcs⟩ := hs
  obtain ⟨ds, hds⟩ := ht
  have hscan : ∀ (k : ℕ) (es : List Char), (scan .outside (List.replicate k '(' ++ es)).map
      Token.bare = List.replicate k (.plain '(') ++ (scan .outside es).map Token.bare := by
    intro k es
    induction k with
    | zero => rfl
    | succ k ih =>
      rw [List.replicate_succ, List.cons_append, scan_outside_cons (by decide) (by decide),
        List.map_cons, ih]
      rfl
  obtain ⟨hq, hd⟩ := FieldKey.ne_of_isNameChar hc
  have hparen : c ≠ '(' := by
    rintro rfl
    revert hc
    decide
  obtain ⟨k, rfl⟩ : ∃ k, n = m + (k + 1) := ⟨n - m - 1, by omega⟩
  rw [shape, shape, hcs, hds, List.replicate_add, List.append_assoc, hscan, hscan,
    scan_outside_cons hq hd, List.replicate_succ, List.cons_append,
    scan_outside_cons (by decide) (by decide)]
  exact ⟨List.replicate m (.plain '('), c, '(', _, _, rfl, rfl, hparen⟩

/-- Different casts of one expression part behind the parentheses of one of them. -/
lemma diverge_of_kind_ne {c : Char} {expr : String} {kind kind' : CastKind}
    (hc : FieldKey.isNameChar c = true) (h : Opens 1 c expr) (hkind : kind ≠ .direct)
    (hkind' : kind' ≠ .direct) (hne : kind ≠ kind') (t : String) :
    Diverge (shape ((Cast.kind kind).applyTo expr ++ t))
      (shape ((Cast.kind kind').applyTo expr ++ t)) := by
  have hblank : c ≠ ' ' := by
    rintro rfl
    revert hc
    decide
  obtain ⟨⟨n, hn, htext⟩, hnumeric, hboolean⟩ := opens_applyTo hblank h
  have htextNumeric := diverge_of_opens (by omega) hc (htext.append t) (hnumeric.append t)
  have htextBoolean := diverge_of_opens (by omega) hc (htext.append t) (hboolean.append t)
  have hnumericBoolean := diverge_of_opens (by omega) hc (hnumeric.append t) (hboolean.append t)
  cases kind with
  | direct => exact absurd rfl hkind
  | text =>
    cases kind' with
    | direct => exact absurd rfl hkind'
    | text => exact absurd rfl hne
    | numeric => exact htextNumeric
    | boolean => exact htextBoolean
  | numeric =>
    cases kind' with
    | direct => exact absurd rfl hkind'
    | text => exact htextNumeric.symm
    | numeric => exact absurd rfl hne
    | boolean => exact hnumericBoolean
  | boolean =>
    cases kind' with
    | direct => exact absurd rfl hkind'
    | text => exact htextBoolean.symm
    | numeric => exact hnumericBoolean.symm
    | boolean => exact absurd rfl hne

lemma comparisonKind_eq_of_isReserved {s : Scope} {schema schema' : Value} {k : FieldKey}
    (hk : ∀ path, k ≠ .path path) (v : Value) :
    comparisonKind { s with schema := schema } k v =
      comparisonKind { s with schema := schema' } k v := by
  unfold comparisonKind
  have hnone : ∀ schema, Schema.declaredType? schema k = none := by
    intro schema
    cases k with
    | path components => exact absurd rfl (hk components)
    | _ => rfl
  simp only [hnone]

lemma agrees_of_sameCasts {s : Scope} {schema schema' : Value} {f : Filter} {p q : Predicate}
    (h : SameCasts s schema schema' f.compared)
    (hp : compile { s with schema := schema } f = .ok p)
    (hq : compile { s with schema := schema' } f = .ok q) :
    p.Agrees q ∧ (p = q → SameCasts s schema schema' f.compared) := by
  rw [compile_congr f h] at hp
  exact ⟨Or.inl (Except.ok.inj (hp.symm.trans hq)), fun _ => h⟩

/-- Under two schemas a property is compared by equal fragments, or by fragments that part. -/
lemma compileProperty_agrees {s : Scope} {schema schema' : Value} {k : FieldKey} {v : Value}
    {p q : Predicate} (hs : s.IsPlain) (hk : k.IsRead)
    (hp : compileProperty { s with schema := schema } k v = .ok p)
    (hq : compileProperty { s with schema := schema' } k v = .ok q) :
    p.Agrees q ∧ (p = q → SameCasts s schema schema' (property k v).compared) := by
  by_cases hsame : SameCasts s schema schema' (property k v).compared
  · exact agrees_of_sameCasts hsame hp hq
  · -- the casts differ, so the value is plain and the key is a path
    obtain ⟨hnull, hstruct, hne⟩ : v.isNull = false ∧ v.isStructured = false ∧
        comparisonKind { s with schema := schema } k v ≠
          comparisonKind { s with schema := schema' } k v := by
      simp only [SameCasts, compared] at hsame
      split at hsame
      · simp at hsame
      · next hplain =>
        simp only [Bool.or_eq_true, not_or, Bool.not_eq_true] at hplain
        exact ⟨hplain.1, hplain.2, by simpa using hsame⟩
    cases k with
    | path path =>
      obtain ⟨r, hr, hp⟩ := Result.bind_eq_ok_iff.1 hp
      obtain ⟨r', hr', hq⟩ := Result.bind_eq_ok_iff.1 hq
      obtain rfl : r = r' := Except.ok.inj (hr.symm.trans hr')
      simp only [hnull, hstruct, Bool.false_eq_true, if_false] at hp hq
      obtain ⟨kind, hkind, hp⟩ := Result.bind_eq_ok_iff.1 hp
      obtain ⟨kind', hkind', hq⟩ := Result.bind_eq_ok_iff.1 hq
      rw [hkind, hkind'] at hne
      -- the expression of a path has no placeholders, so it stands there as it is
      have htext : r.text = navigate s.entity.container .json path :=
        Predicate.text_of_make_nil hr
      obtain ⟨c, hc, hopens⟩ := opens_navigate hs.entity.container path
      rw [← htext] at hopens
      have hdiverge := diverge_of_kind_ne hc hopens (comparisonKind_path hkind)
        (comparisonKind_path hkind') (fun heq => hne (by rw [heq])) " = $"
      rw [← Predicate.shape_of_make hp, ← Predicate.shape_of_make hq] at hdiverge
      exact ⟨Or.inr hdiverge, fun heq => absurd (by rw [heq]) hdiverge.ne⟩
    | column c => exact absurd (comparisonKind_eq_of_isReserved (by simp) v) hne
    | timestamp c => exact absurd (comparisonKind_eq_of_isReserved (by simp) v) hne
    | relations => exact absurd (comparisonKind_eq_of_isReserved (by simp) v) hne
    | all => exact absurd (comparisonKind_eq_of_isReserved (by simp) v) hne

/-- Operands that agree are joined to fragments that agree, and to equal ones only if they are
equal. -/
lemma join_agrees {ps qs : List Predicate} {op : Predicate.Operator} {p q : Predicate} {P : Prop}
    (h : (∀ r ∈ ps, r.Sound) ∧ (∀ r ∈ qs, r.Sound) ∧ List.Forall₂ Predicate.Agrees ps qs ∧
      (ps = qs → P))
    (hp : Predicate.join ps op = .ok p) (hq : Predicate.join qs op = .ok q) :
    p.Agrees q ∧ (p = q → P) := by
  obtain ⟨hps, hqs, hall, hequal⟩ := h
  by_cases hne : ps = qs
  · subst hne
    exact ⟨Or.inl (Except.ok.inj (hp.symm.trans hq)), fun _ => hequal rfl⟩
  · have hdiverge := Predicate.join_diverges hps hqs hall hne hp hq
    exact ⟨Or.inr hdiverge, fun heq => absurd (by rw [heq]) hdiverge.ne⟩

mutual
/-- Under two schemas a filter compiles to equal fragments, and then its properties have the same
casts, or to fragments that part. -/
theorem compile_agrees {s : Scope} {schema schema' : Value} (hs : s.IsPlain) :
    ∀ (f : Filter) (p q : Predicate), f.Proper →
      compile { s with schema := schema } f = .ok p →
      compile { s with schema := schema' } f = .ok q →
      p.Agrees q ∧ (p = q → SameCasts s schema schema' f.compared)
  | raw text, p, q, _, hp, hq => agrees_of_sameCasts (by simp [SameCasts, compared]) hp hq
  | column k v, p, q, _, hp, hq => agrees_of_sameCasts (by simp [SameCasts, compared]) hp hq
  | property k v, p, q, hf, hp, hq =>
    compileProperty_agrees hs (hf.keys k (by simp [keys])) hp hq
  | call _ _ _ _, p, q, _, hp, hq => agrees_of_sameCasts (by simp [SameCasts, compared]) hp hq
  | other v, p, q, _, hp, hq => agrees_of_sameCasts (by simp [SameCasts, compared]) hp hq
  | all fs, p, q, hf, hp, hq => by
    obtain ⟨ps, hps, hp⟩ := compile_all hp
    obtain ⟨qs, hqs, hq⟩ := compile_all hq
    exact join_agrees (compileAll_agrees hs fs ps qs (.of_joined .and hf) hps hqs) hp hq
  | any fs, p, q, hf, hp, hq => by
    obtain ⟨ps, hps, hp⟩ := compile_any hp
    obtain ⟨qs, hqs, hq⟩ := compile_any hq
    exact join_agrees (compileAll_agrees hs fs ps qs (.of_joined .or hf) hps hqs) hp hq
  termination_by structural f => f
/-- The same for filters one after the other. -/
theorem compileAll_agrees {s : Scope} {schema schema' : Value} (hs : s.IsPlain) :
    ∀ (fs : List Filter) (ps qs : List Predicate), (∀ f ∈ fs, f.Proper) →
      compileAll { s with schema := schema } fs = .ok ps →
      compileAll { s with schema := schema' } fs = .ok qs →
      (∀ p ∈ ps, p.Sound) ∧ (∀ q ∈ qs, q.Sound) ∧ List.Forall₂ Predicate.Agrees ps qs ∧
        (ps = qs → SameCasts s schema schema' (comparedAll fs))
  | [], ps, qs, _, hps, hqs => by
    obtain rfl : [] = ps := by simpa [compileAll] using hps
    obtain rfl : [] = qs := by simpa [compileAll] using hqs
    exact ⟨by simp, by simp, List.Forall₂.nil, fun _ => by simp [SameCasts, comparedAll]⟩
  | f :: fs, ps, qs, hproper, h, h' => by
    obtain ⟨p, ps, hp, hps, rfl⟩ := compileAll_cons h
    obtain ⟨q, qs, hq, hqs, rfl⟩ := compileAll_cons h'
    obtain ⟨hf, hfs⟩ := List.forall_mem_cons.1 hproper
    obtain ⟨-, -, -, hpSound, -⟩ :=
      compile_assembles (s := { s with schema := schema }) ⟨hs.entity, hs.procedures⟩ f p hf hp
    obtain ⟨-, -, -, hqSound, -⟩ :=
      compile_assembles (s := { s with schema := schema' }) ⟨hs.entity, hs.procedures⟩ f q hf hq
    obtain ⟨hagrees, hcasts⟩ := compile_agrees hs f p q hf hp hq
    obtain ⟨hpsSound, hqsSound, hall, hcastsAll⟩ := compileAll_agrees hs fs ps qs hfs hps hqs
    refine ⟨List.forall_mem_cons.2 ⟨hpSound, hpsSound⟩, List.forall_mem_cons.2 ⟨hqSound, hqsSound⟩,
      List.Forall₂.cons hagrees hall, fun heq => ?_⟩
    obtain ⟨hpq, hpsqs⟩ := List.cons.inj heq
    exact SameCasts.append_iff.2 ⟨hcasts hpq, hcastsAll hpsqs⟩
  termination_by structural fs => fs
end

end Filter

end DocumentSql

/-
What the condition of a filter means.

A specification is a tree: a list without an operator is a conjunction, a list with one is what it
says, the members of a mapping are joined by the operator of the match, and a table is a
disjunction of conjunctions.  Its leaves are comparisons, calls and raw fragments; what compiles
to nothing is left out.  `meaning` evaluates the tree under a truth value for each leaf.

The compiled text is read back by the rules of SQL, with the fragments of the leaves as atoms.  By
induction over the filter, it is read as what the filter means (`reads_compile`,
`reads_condition`): an operand is put in parentheses whenever a second one stands beside it, so the
words in a raw fragment never group with those around it.
-/
import DocumentSql.Proofs.Filter.Nesting
import DocumentSql.Proofs.Filter.Shape

namespace DocumentSql

open Sql

/-! ### Fragments that are read as values -/

namespace Predicate

/-- What an operator makes of the values of operands. Those that have none are left out. -/
def Operator.combine (op : Operator) (vs : List (Option Bool)) : Option Bool :=
  match vs.reduceOption with
  | [] => none
  | bs => some (op.eval bs)

lemma Operator.combine_congr (op : Operator) {vs ws : List (Option Bool)}
    (h : vs.reduceOption = ws.reduceOption) : op.combine vs = op.combine ws := by
  rw [combine, combine, h]

lemma reduceOption_cons_congr {v : Option Bool} {vs ws : List (Option Bool)}
    (h : vs.reduceOption = ws.reduceOption) :
    (v :: vs).reduceOption = (v :: ws).reduceOption := by
  cases v <;> simp [h]

/-- The fragment consists of the atoms and is read as the value; without a value it is empty. -/
inductive Reads : Predicate → List Atom → Option Bool → Prop
  | nothing {p : Predicate} (h : p.isEmpty = true) : Reads p [] none
  | condition {p : Predicate} {atoms : List Atom} {b : Bool} (hp : p.isEmpty = false)
    (h : (⟨bare p.text, atoms, b⟩ : Operand).IsRead) : Reads p atoms (some b)

/-- The fragments, one behind the other, consist of the atoms and are read as the values. -/
inductive AllRead : List Predicate → List Atom → List (Option Bool) → Prop
  | nil : AllRead [] [] []
  | cons {p : Predicate} {ps : List Predicate} {atoms atoms' : List Atom} {v : Option Bool}
    {vs : List (Option Bool)} (h : p.Reads atoms v) (hrest : AllRead ps atoms' vs) :
    AllRead (p :: ps) (atoms ++ atoms') (v :: vs)

lemma Reads.of_operand {p : Predicate} {o : Operand} (htext : bare p.text = o.text)
    (ho : o.IsRead) (hne : o.text ≠ []) : p.Reads o.atoms (some o.value) :=
  .condition (bare_ne_nil_iff.1 (htext ▸ hne)) (by rwa [htext])

/-- The operands that are left when the empty ones are left out. -/
lemma AllRead.exists_operands {ps : List Predicate} {atoms : List Atom}
    {vs : List (Option Bool)} (h : AllRead ps atoms vs) :
    ∃ os : List Operand, (∀ o ∈ os, o.IsRead) ∧
      (ps.filter (!·.isEmpty)).map (fun p => bare p.text) = os.map (·.text) ∧
      os.flatMap (·.atoms) = atoms ∧ os.map (·.value) = vs.reduceOption := by
  induction h with
  | nil => exact ⟨[], by simp, rfl, rfl, rfl⟩
  | @cons p ps atoms atoms' v vs h _ ih =>
    obtain ⟨os, hos, htexts, hatoms, hvalues⟩ := ih
    cases h with
    | nothing hempty =>
      refine ⟨os, hos, ?_, hatoms, ?_⟩
      · rw [List.filter_cons_of_neg (by simp [hempty]), htexts]
      · rw [List.reduceOption_cons_of_none, hvalues]
    | @condition _ b hp h =>
      refine ⟨⟨bare p.text, atoms, b⟩ :: os, ?_, ?_, ?_, ?_⟩
      · simpa using ⟨h, hos⟩
      · rw [List.filter_cons_of_pos (by simp [hp]), List.map_cons, List.map_cons, htexts]
      · rw [List.flatMap_cons, hatoms]
      · rw [List.map_cons, hvalues, List.reduceOption_cons_of_some]

/-- Joined fragments are read as what the operator makes of their values. -/
theorem AllRead.join {ps : List Predicate} {atoms : List Atom} {vs : List (Option Bool)}
    {op : Operator} {q : Predicate} (h : AllRead ps atoms vs) (hq : join ps op = .ok q) :
    q.Reads atoms (op.combine vs) := by
  obtain ⟨os, hos, htexts, rfl, hvalues⟩ := h.exists_operands
  have hlength : (ps.filter (!·.isEmpty)).length = os.length := by
    simpa using congrArg List.length htexts
  rw [Operator.combine, ← hvalues]
  -- nothing is left, one operand is left without parentheses, or each is put in parentheses
  rcases os with _ | ⟨o, _ | ⟨o', os⟩⟩
  · have hnone := List.length_eq_zero_iff.1 hlength
    rw [Predicate.join, hnone] at hq
    obtain rfl := Except.ok.inj hq
    exact .nothing rfl
  · obtain ⟨p, hone⟩ := List.length_eq_one_iff.1 hlength
    have hp : p ∈ ps.filter (!·.isEmpty) := by simp [hone]
    rw [Predicate.join, hone] at hq
    obtain rfl := Except.ok.inj hq
    have htext : bare p.text = o.text := by simpa [hone] using htexts
    have hne : o.text ≠ [] := by
      rw [← htext, bare_ne_nil_iff]
      simpa using (List.mem_filter.1 hp).2
    have hread := Reads.of_operand htext (hos o List.mem_cons_self) hne
    simpa [Operand.eval_singleton] using hread
  · have hread := Operand.isRead_join op hos (by simp)
    have htext : bare q.text = (Operand.join op (o :: o' :: os)).text := by
      have hwrapped := congrArg (List.map parenthesized) htexts
      simp only [List.map_map, Function.comp_def] at hwrapped
      rw [bare_join (by rw [hlength]; simp) hq, Operand.text_join, hwrapped]
    have hlonger := Operand.length_le_join op (List.mem_cons_self (a := o) (l := o' :: os))
    exact Reads.of_operand htext hread (List.ne_nil_of_length_pos (by omega))

end Predicate

/-! ### The value of a filter -/

namespace Filter

mutual
/-- The leaves of a filter, from left to right. -/
def leaves : Filter → List Filter
  | all fs => leavesAll fs
  | any fs => leavesAll fs
  | f => [f]
  termination_by structural f => f
/-- The leaves of filters, from left to right. -/
def leavesAll : List Filter → List Filter
  | [] => []
  | f :: fs => f.leaves ++ leavesAll fs
  termination_by structural fs => fs
end

/-- What a leaf compiles to, unless it is empty. -/
def fragment? (s : Scope) (f : Filter) : Option Predicate :=
  match compile s f with
  | .ok p => if p.isEmpty then none else some p
  | .error _ => none

/-- The fragments of leaves as atoms, under a truth value for each fragment. -/
def atoms (s : Scope) (truth : Predicate → Bool) (fs : List Filter) : List Atom :=
  (fs.filterMap (fragment? s)).map fun p => (bare p.text, truth p)

/-- The truth value of a leaf; there is none if the leaf compiles to nothing. -/
def leafValue (s : Scope) (truth : Predicate → Bool) (f : Filter) : Option Bool :=
  (fragment? s f).map truth

section

variable (leaf : Filter → Option Bool)

mutual
/-- The value of a filter under a value for each of its leaves. -/
def value : Filter → Option Bool
  | all fs => Predicate.Operator.and.combine (values fs)
  | any fs => Predicate.Operator.or.combine (values fs)
  | f => leaf f
  termination_by structural f => f
/-- The values of filters. -/
def values : List Filter → List (Option Bool)
  | [] => []
  | f :: fs => f.value :: values fs
  termination_by structural fs => fs
end

/-- The value of a filter that may impose no condition. -/
def value? (f : Option Filter) : Option Bool := f.bind (value leaf)

end

variable {s : Scope} {truth : Predicate → Bool} {leaf : Filter → Option Bool}

lemma atoms_append (fs gs : List Filter) :
    atoms s truth (fs ++ gs) = atoms s truth fs ++ atoms s truth gs := by
  simp [atoms]

lemma leaves_of_isLeaf {f : Filter} (h : f.IsLeaf) : f.leaves = [f] := by
  cases f <;> first | rfl | exact h.elim

lemma value_of_isLeaf {f : Filter} (h : f.IsLeaf) : f.value leaf = leaf f := by
  cases f <;> first | rfl | exact h.elim

/-- A leaf is an atom, or empty. -/
lemma reads_leaf (hs : s.IsWellNested) {f : Filter} {p : Predicate} (hf : f.Enclosable)
    (hleaf : f.IsLeaf) (h : compile s f = .ok p) :
    p.Reads (atoms s truth f.leaves) (f.value (leafValue s truth)) := by
  rw [leaves_of_isLeaf hleaf, value_of_isLeaf hleaf]
  cases hempty : p.isEmpty with
  | true =>
    have hnone : fragment? s f = none := by simp [fragment?, h, hempty]
    simpa [atoms, leafValue, hnone] using Predicate.Reads.nothing hempty
  | false =>
    have hsome : fragment? s f = some p := by simp [fragment?, h, hempty]
    have hnested := (wellNested_bare_iff p.text).2 (wellNested_compile hs hf hleaf h)
    simpa [atoms, leafValue, hsome] using
      Predicate.Reads.condition hempty (Operand.isRead_atom hnested (truth p))

mutual
/-- The compiled text of a filter is read as the value of the filter, with the fragments of its
leaves as atoms. -/
theorem reads_compile (hs : s.IsWellNested) (truth : Predicate → Bool) :
    ∀ (f : Filter) (p : Predicate), f.Enclosable → compile s f = .ok p →
      p.Reads (atoms s truth f.leaves) (f.value (leafValue s truth))
  | raw t, p, hf, h => reads_leaf hs hf trivial h
  | column k v, p, hf, h => reads_leaf hs hf trivial h
  | property k v, p, hf, h => reads_leaf hs hf trivial h
  | call ks f arguments returnType, p, hf, h => reads_leaf hs hf trivial h
  | other v, p, hf, h => reads_leaf hs hf trivial h
  | all fs, p, hf, h => by
    obtain ⟨ps, hps, hjoin⟩ := compile_all h
    exact (reads_compileAll hs truth fs ps (.of_joined .and hf) hps).join hjoin
  | any fs, p, hf, h => by
    obtain ⟨ps, hps, hjoin⟩ := compile_any h
    exact (reads_compileAll hs truth fs ps (.of_joined .or hf) hps).join hjoin
  termination_by structural f => f
/-- The same for filters one after the other. -/
theorem reads_compileAll (hs : s.IsWellNested) (truth : Predicate → Bool) :
    ∀ (fs : List Filter) (ps : List Predicate), (∀ f ∈ fs, f.Enclosable) →
      compileAll s fs = .ok ps →
      Predicate.AllRead ps (atoms s truth (leavesAll fs)) (values (leafValue s truth) fs)
  | [], ps, _, h => by
    obtain rfl := Except.ok.inj h
    exact .nil
  | f :: fs, ps, henclosable, h => by
    obtain ⟨p, ps, hp, hps, rfl⟩ := compileAll_cons h
    obtain ⟨hf, hfs⟩ := List.forall_mem_cons.1 henclosable
    have hfirst := reads_compile hs truth f p hf hp
    have hrest := reads_compileAll hs truth fs ps hfs hps
    rw [leavesAll, atoms_append, values]
    exact .cons hfirst hrest
  termination_by structural fs => fs
end

/-! ### The meaning of a specification -/

section

variable (r : FunctionRegistry) (leaf : Filter → Option Bool) (op : Predicate.Operator)

/-- The value of what is read as a leaf. -/
def leafOf (x : Result Filter) : Option Bool :=
  match x with
  | .ok f => leaf f
  | .error _ => none

/-- The values of the equalities of a mapping. -/
def memberValues (ms : Members) : List (Option Bool) :=
  ms.map fun m => leafOf leaf (comparison m.1 m.2)

mutual
/-- The value of a specification under a value for each of its leaves. The operator joins the
members of mappings. -/
def meaning : Value → Option Bool
  | .null => none
  | .frame columns rows => Predicate.Operator.or.combine (rows.map fun row =>
      Predicate.Operator.and.combine (memberValues leaf (rowMembers columns row)))
  | .dict ms => op.combine (memberValues leaf ms)
  | .list items => meaningItems items
  | .tuple items => meaningItems items
  | v => leafOf leaf (ofScalar v)
  termination_by structural v => v
/-- The value of a list of specifications, which an operator may stand before. -/
def meaningItems : List Value → Option Bool
  | [] => none
  | first :: rest =>
    match OperatorToken.ofValue first with
    | .ok (some (.call returnType)) => leafOf leaf (ofCall r returnType rest)
    | .ok (some (.junction joiner)) => joiner.combine (meanings rest)
    | _ => Predicate.Operator.and.combine (meaning first :: meanings rest)
  termination_by structural items => items
/-- The values of specifications. -/
def meanings : List Value → List (Option Bool)
  | [] => []
  | v :: vs => meaning v :: meanings vs
  termination_by structural vs => vs
end

end

variable {r : FunctionRegistry} {op : Predicate.Operator}

lemma value?_joined? (op : Predicate.Operator) (fs : List Filter) :
    value? leaf (joined? op fs) = op.combine (values leaf fs) := by
  cases fs with
  | nil => rfl
  | cons f fs => cases op <;> rfl

/-- A filter that imposes no condition is left out. -/
lemma reduceOption_values_cons (f : Option Filter) (fs : List Filter) :
    (values leaf (f.toList ++ fs)).reduceOption =
      (value? leaf f :: values leaf fs).reduceOption := by
  cases f with
  | none => rfl
  | some f => rfl

lemma isLeaf_of_comparison {name v : Value} {f : Filter} (h : comparison name v = .ok f) :
    f.IsLeaf := by
  obtain ⟨k, v, -, -, ⟨-, rfl⟩ | ⟨-, rfl⟩⟩ := comparison_eq_ok h <;> trivial

lemma isLeaf_of_ofScalar {v : Value} {f : Filter} (h : ofScalar v = .ok f) : f.IsLeaf := by
  unfold ofScalar at h
  split at h
  all_goals first
    | (obtain rfl := Except.ok.inj h; trivial)
    | simp at h

lemma isLeaf_of_ofCall {returnType : Option String} {vs : List Value} {f : Filter}
    (h : ofCall r returnType vs = .ok f) : f.IsLeaf := by
  obtain ⟨_, _, _, hsplit⟩ := exists_splitCall h
  obtain ⟨_, _, -, -, rfl⟩ := ofCall_eq_ok hsplit h
  trivial

lemma values_comparisons {ms : Members} {fs : List Filter} (h : comparisons ms = .ok fs) :
    values leaf fs = memberValues leaf ms := by
  have heach := forall₂_comparisons h
  clear h
  induction heach with
  | nil => rfl
  | cons hf _ ih =>
    rw [values, ih, value_of_isLeaf (isLeaf_of_comparison hf), memberValues, memberValues,
      List.map_cons, hf]
    rfl

lemma value?_ofMembers {ms : Members} {f : Option Filter} (h : ofMembers op ms = .ok f) :
    value? leaf f = op.combine (memberValues leaf ms) := by
  obtain ⟨fs, hfs, rfl⟩ := Result.map_eq_ok_iff.1 h
  rw [value?_joined?, values_comparisons hfs]

lemma reduceOption_ofRows {columns : List String} {rows : List (List Value)} {fs : List Filter}
    (h : ofRows columns rows = .ok fs) : (values leaf fs).reduceOption =
      (rows.map fun row => Predicate.Operator.and.combine
        (memberValues leaf (rowMembers columns row))).reduceOption := by
  obtain ⟨gs, hgs, rfl⟩ := forall₂_ofRows h
  clear h
  induction hgs with
  | nil => rfl
  | cons hf _ ih =>
    rw [List.flatMap_cons, reduceOption_values_cons, value?_ofMembers hf, List.map_cons]
    exact Predicate.reduceOption_cons_congr ih

lemma meaning_of_items {v : Value} {vs : List Value} (h : items? v = some vs) :
    meaning r leaf op v = meaningItems r leaf op vs := by
  cases v <;> simp [items?] at h <;> subst h <;> rfl

lemma meaning_of_isScalarForm {v : Value} (h : isScalarForm v = true) :
    meaning r leaf op v = leafOf leaf (ofScalar v) := by
  cases v <;> first | rfl | simp [isScalarForm] at h

/-- A list without an operator at its head means the conjunction of its items. -/
lemma meaningItems_unmarked {vs : List Value}
    (h : ∀ v ∈ vs.head?, OperatorToken.ofValue v = .ok none) :
    meaningItems r leaf op vs = Predicate.Operator.and.combine (meanings r leaf op vs) := by
  cases vs with
  | nil => rfl
  | cons v vs =>
    rw [meaningItems, h v rfl, meanings]

mutual
/-- A parsed filter has the value that its specification means. -/
theorem value?_of_parses : ∀ {v : Value} {f : Option Filter}, Parses r op v f →
    value? leaf f = meaning r leaf op v
  | _, _, .nothing => rfl
  | _, _, .table h => by
    rw [value?_joined?, meaning]
    exact Predicate.Operator.combine_congr .or (reduceOption_ofRows h)
  | _, _, .mapping h => value?_ofMembers h
  | _, _, .scalar hv h => by
    rw [meaning_of_isScalarForm hv, h]
    exact value_of_isLeaf (isLeaf_of_ofScalar h)
  | _, _, .call hv htoken h => by
    rw [meaning_of_items hv, meaningItems, htoken]
    dsimp only
    rw [h]
    exact value_of_isLeaf (isLeaf_of_ofCall h)
  | _, _, .joined hv htoken h => by
    rw [meaning_of_items hv, meaningItems, htoken, value?_joined?]
    exact Predicate.Operator.combine_congr _ (reduceOption_of_allParse h)
  | _, _, .unmarked hv htoken h => by
    rw [meaning_of_items hv, meaningItems_unmarked htoken, value?_joined?]
    exact Predicate.Operator.combine_congr .and (reduceOption_of_allParse h)
/-- The same for specifications one after the other, those that impose no condition left out. -/
theorem reduceOption_of_allParse : ∀ {vs : List Value} {fs : List Filter}, AllParse r op vs fs →
    (values leaf fs).reduceOption = (meanings r leaf op vs).reduceOption
  | _, _, .nil => rfl
  | _, _, .cons h hrest => by
    rw [reduceOption_values_cons, value?_of_parses h, meanings]
    exact Predicate.reduceOption_cons_congr (reduceOption_of_allParse hrest)
end

end Filter

end DocumentSql

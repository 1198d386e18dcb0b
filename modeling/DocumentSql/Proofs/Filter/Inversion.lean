/-
How a filter is put together.

A specification is read once, and every way to read one is a rule of `Parses`: what the
specification must look like, and what its parts are parsed to.  Every successful run of the parser
follows the rules (`parses_of_eq_ok`), so that what holds of all parsed filters is shown rule by
rule.  Compiling goes the same way back: the fragment of joined filters is joined of theirs
(`compile_all`, `compile_any`).
-/
import DocumentSql.Filter.Compile
import DocumentSql.Filter.Parse
import DocumentSql.Proofs.Result

namespace DocumentSql.Filter

variable {r : FunctionRegistry} {op : Predicate.Operator}

/-! ### Parsing -/

/-- The items of a list or tuple. -/
def items? : Value → Option (List Value)
  | .list vs => some vs
  | .tuple vs => some vs
  | _ => none

/-- The specification is there, and is no list, no mapping and no table. -/
def isScalarForm : Value → Bool
  | .null | .frame .. | .dict _ | .list _ | .tuple _ => false
  | _ => true

mutual
/-- The specification is parsed to the filter; there is none if it imposes no condition. -/
inductive Parses (r : FunctionRegistry) (op : Predicate.Operator) : Value → Option Filter → Prop
  /-- Nothing imposes no condition. -/
  | nothing : Parses r op .null none
  /-- A table is a disjunction of its rows. -/
  | table {columns : List String} {rows : List (List Value)} {fs : List Filter}
    (h : ofRows columns rows = .ok fs) : Parses r op (.frame columns rows) (joined? .or fs)
  /-- A mapping is joined by the operator of the match. -/
  | mapping {ms : Members} {f : Option Filter} (h : ofMembers op ms = .ok f) :
    Parses r op (.dict ms) f
  /-- Any other value is a raw fragment. -/
  | scalar {v : Value} {f : Filter} (hv : isScalarForm v = true) (h : ofScalar v = .ok f) :
    Parses r op v (some f)
  /-- The operator of calls stands at the head of a list. -/
  | call {v token : Value} {vs : List Value} {returnType : Option String} {f : Filter}
    (hv : items? v = some (token :: vs))
    (htoken : OperatorToken.ofValue token = .ok (some (.call returnType)))
    (h : ofCall r returnType vs = .ok f) : Parses r op v (some f)
  /-- An operator that joins stands at the head of a list. -/
  | joined {v token : Value} {vs : List Value} {joiner : Predicate.Operator} {fs : List Filter}
    (hv : items? v = some (token :: vs))
    (htoken : OperatorToken.ofValue token = .ok (some (.junction joiner)))
    (h : AllParse r op vs fs) : Parses r op v (joined? joiner fs)
  /-- No operator stands at the head of a list. -/
  | unmarked {v : Value} {vs : List Value} {fs : List Filter} (hv : items? v = some vs)
    (htoken : ∀ token ∈ vs.head?, OperatorToken.ofValue token = .ok none)
    (h : AllParse r op vs fs) : Parses r op v (joined? .and fs)
/-- The specifications are parsed to the filters, those that impose no condition left out. -/
inductive AllParse (r : FunctionRegistry) (op : Predicate.Operator) :
    List Value → List Filter → Prop
  | nil : AllParse r op [] []
  | cons {v : Value} {vs : List Value} {f : Option Filter} {fs : List Filter}
    (h : Parses r op v f) (hrest : AllParse r op vs fs) :
    AllParse r op (v :: vs) (f.toList ++ fs)
end

/-- A list without an operator at its head is parsed item by item. -/
lemma parseItems_unmarked {vs : List Value}
    (h : ∀ v ∈ vs.head?, OperatorToken.ofValue v = .ok none) :
    parseItems r op vs = (parseAll r op vs).map (joined? .and) := by
  cases vs with
  | nil => rfl
  | cons v vs =>
    rw [parseItems, h v rfl, parseAll]
    cases parse r op v with
    | error e => rfl
    | ok f => cases parseAll r op vs <;> rfl

/-- A list with an operator at its head and items behind it joins what these are parsed to. -/
lemma parseItems_joined {joiner : Predicate.Operator} {token : Value} {vs : List Value}
    {f : Option Filter} (htoken : OperatorToken.ofValue token = .ok (some (.junction joiner)))
    (h : parseItems r op (token :: vs) = .ok f) :
    ∃ fs, parseAll r op vs = .ok fs ∧ f = joined? joiner fs := by
  rw [parseItems, htoken] at h
  dsimp only at h
  split at h
  · simp at h
  · obtain ⟨fs, hfs, rfl⟩ := Result.map_eq_ok_iff.1 h
    exact ⟨fs, hfs, rfl⟩

/-- A list with the operator of calls at its head is a call. -/
lemma parseItems_call {returnType : Option String} {token : Value} {vs : List Value}
    {f : Option Filter}
    (htoken : OperatorToken.ofValue token = .ok (some (.call returnType)))
    (h : parseItems r op (token :: vs) = .ok f) :
    ∃ g, ofCall r returnType vs = .ok g ∧ f = some g := by
  rw [parseItems, htoken] at h
  dsimp only at h
  split at h
  · simp at h
  · obtain ⟨g, hg, rfl⟩ := Result.map_eq_ok_iff.1 h
    exact ⟨g, hg, rfl⟩

lemma parseAll_cons {v : Value} {vs : List Value} {fs : List Filter}
    (h : parseAll r op (v :: vs) = .ok fs) :
    ∃ f fs', parse r op v = .ok f ∧ parseAll r op vs = .ok fs' ∧ fs = f.toList ++ fs' := by
  rw [parseAll] at h
  split at h
  · simp at h
  · next f hf =>
    obtain ⟨fs', hfs', rfl⟩ := Result.map_eq_ok_iff.1 h
    exact ⟨f, fs', hf, hfs', rfl⟩

mutual
/-- What the parser accepts follows the rules. -/
theorem parses_of_eq_ok : ∀ {v : Value} {f : Option Filter}, parse r op v = .ok f →
    Parses r op v f
  | .null, f, h => by
    obtain rfl := Except.ok.inj h
    exact .nothing
  | .frame columns rows, f, h => by
    obtain ⟨fs, hfs, rfl⟩ := Result.map_eq_ok_iff.1 h
    exact .table hfs
  | .dict ms, f, h => .mapping h
  | .list vs, f, h => parses_of_items (v := .list vs) rfl h
  | .tuple vs, f, h => parses_of_items (v := .tuple vs) rfl h
  | .bool _, f, h | .int _, f, h | .float _, f, h | .text _, f, h | .set _, f, h
  | .complex _ _, f, h | .decimal _, f, h | .date _, f, h | .moment _, f, h | .time _, f, h
  | .uuid _, f, h | .bytes _, f, h | .scalar _ _, f, h | .array _ _, f, h | .function _ _ _, f, h
  | .callable _, f, h | .class_ _, f, h | .key _, f, h | .cast _, f, h
  | .documentType _ _ _ _, f, h => by
    simp only [parse] at h
    obtain ⟨g, hg, rfl⟩ := Result.map_eq_ok_iff.1 h
    exact .scalar rfl hg
  termination_by structural v => v
/-- The same for the items of a list or tuple. -/
theorem parses_of_items : ∀ {vs : List Value} {v : Value} {f : Option Filter},
    items? v = some vs → parseItems r op vs = .ok f → Parses r op v f
  | [], v, f, hv, h => by
    obtain rfl := Except.ok.inj h
    exact .unmarked hv (by simp) .nil
  | first :: rest, v, f, hv, h => by
    cases htoken : OperatorToken.ofValue first with
    | error e => simp [parseItems, htoken] at h
    | ok token =>
      rcases token with _ | joiner | returnType
      · have hhead : ∀ v ∈ (first :: rest).head?, OperatorToken.ofValue v = .ok none := by
          simpa using htoken
        rw [parseItems_unmarked hhead] at h
        obtain ⟨_, hall, rfl⟩ := Result.map_eq_ok_iff.1 h
        obtain ⟨g, fs, hg, hfs, rfl⟩ := parseAll_cons hall
        exact .unmarked hv hhead (.cons (parses_of_eq_ok hg) (allParse_of_eq_ok hfs))
      · obtain ⟨fs, hfs, rfl⟩ := parseItems_joined htoken h
        exact .joined hv htoken (allParse_of_eq_ok hfs)
      · obtain ⟨g, hg, rfl⟩ := parseItems_call htoken h
        exact .call hv htoken hg
  termination_by structural vs => vs
/-- The same for specifications one after the other. -/
theorem allParse_of_eq_ok : ∀ {vs : List Value} {fs : List Filter}, parseAll r op vs = .ok fs →
    AllParse r op vs fs
  | [], fs, h => by
    obtain rfl := Except.ok.inj h
    exact .nil
  | v :: vs, fs, h => by
    obtain ⟨f, fs', hf, hfs, rfl⟩ := parseAll_cons h
    exact .cons (parses_of_eq_ok hf) (allParse_of_eq_ok hfs)
  termination_by structural vs => vs
end

/-! ### Equalities -/

/-- A property is compared in the data container, and any other key as the column that it is. -/
lemma comparison_eq_ok {name value : Value} {f : Filter} (h : comparison name value = .ok f) :
    ∃ k v, FieldKey.parse name = .ok k ∧ checkedValue k value = .ok v ∧
      ((∃ path, k = .path path) ∧ f = property k v ∨
        (∃ c, k = .column c ∨ k = .timestamp c) ∧ f = column k v) := by
  obtain ⟨k, hk, h⟩ := Result.bind_eq_ok_iff.1 h
  split at h
  · simp at h
  · simp at h
  all_goals
    obtain ⟨v, hv, h⟩ := Result.bind_eq_ok_iff.1 h
    obtain rfl := Except.ok.inj h
    exact ⟨_, v, hk, hv, by simp⟩

lemma forall₂_comparisons {ms : Members} {fs : List Filter} (h : comparisons ms = .ok fs) :
    List.Forall₂ (fun m f => comparison m.1 m.2 = .ok f) ms fs :=
  Result.forall₂_of_each (f := fun m : Value × Value => comparison m.1 m.2) (g := comparisons) rfl
    (fun _ _ => rfl) h

/-! ### Calls -/

/-- The first reference to a function parts the keys of a call from its arguments. -/
lemma eq_of_splitCall {vs names arguments : List Value} {reference : Value}
    (h : splitCall vs = some (names, reference, arguments)) :
    vs = names ++ reference :: arguments ∧
      (∀ v ∈ names, FunctionRegistry.isReference v = false) ∧
      FunctionRegistry.isReference reference = true := by
  induction vs generalizing names with
  | nil => simp [splitCall] at h
  | cons w ws ih =>
    rw [splitCall] at h
    split at h
    · next hw =>
      obtain ⟨rfl, rfl, rfl⟩ : [] = names ∧ w = reference ∧ ws = arguments := by simpa using h
      exact ⟨rfl, by simp, hw⟩
    · next hw =>
      obtain ⟨⟨before, f, after⟩, hsplit, heq⟩ := Option.map_eq_some_iff.1 h
      obtain ⟨rfl, rfl, rfl⟩ : w :: before = names ∧ f = reference ∧ after = arguments := by
        simpa using heq
      obtain ⟨hws, hbefore, hf⟩ := ih hsplit
      exact ⟨by rw [hws, List.cons_append], List.forall_mem_cons.2 ⟨by simpa using hw, hbefore⟩, hf⟩

/-- The filters of a table are those of its rows, those that impose no condition left out. -/
lemma forall₂_ofRows {columns : List String} {rows : List (List Value)} {fs : List Filter}
    (h : ofRows columns rows = .ok fs) : ∃ gs : List (Option Filter),
      List.Forall₂ (fun row g => ofMembers .and (rowMembers columns row) = .ok g) rows gs ∧
        fs = gs.flatMap Option.toList := by
  induction rows generalizing fs with
  | nil =>
    obtain rfl := Except.ok.inj h
    exact ⟨[], .nil, rfl⟩
  | cons row rows ih =>
    obtain ⟨g, hg, h⟩ := Result.bind_eq_ok_iff.1 h
    obtain ⟨fs, hfs, h⟩ := Result.bind_eq_ok_iff.1 h
    obtain rfl := Except.ok.inj h
    obtain ⟨gs, hgs, rfl⟩ := ih hfs
    exact ⟨g :: gs, .cons hg hgs, rfl⟩

lemma forall₂_of_callKeys {vs : List Value} {ks : List FieldKey} (h : callKeys vs = .ok ks) :
    List.Forall₂ (fun v k => FieldKey.parse v = .ok k) vs ks := by
  induction vs generalizing ks with
  | nil =>
    obtain rfl := Except.ok.inj h
    exact .nil
  | cons v vs ih =>
    obtain ⟨k, hk, h⟩ := Result.bind_eq_ok_iff.1 h
    split at h
    -- all columns at once are refused
    · simp at h
    · obtain ⟨ls, hls, h⟩ := Result.bind_eq_ok_iff.1 h
      obtain rfl := Except.ok.inj h
      exact .cons hk (ih hls)

lemma exists_splitCall {returnType : Option String} {vs : List Value} {g : Filter}
    (h : ofCall r returnType vs = .ok g) :
    ∃ names reference arguments, splitCall vs = some (names, reference, arguments) := by
  cases hsplit : splitCall vs with
  | none => simp [ofCall, hsplit] at h
  | some parts => exact ⟨_, _, _, rfl⟩

/-- What a call is parsed to. -/
lemma ofCall_eq_ok {returnType : Option String} {vs names arguments : List Value}
    {reference : Value} {g : Filter} (hsplit : splitCall vs = some (names, reference, arguments))
    (h : ofCall r returnType vs = .ok g) :
    ∃ f keys, r.find reference = .ok f ∧ callKeys names = .ok keys ∧
      g = call keys f (arguments.map Value.normalize) (callType returnType f) := by
  rw [ofCall, hsplit] at h
  obtain ⟨f, hf, h⟩ := Result.bind_eq_ok_iff.1 h
  obtain ⟨keys, hkeys, h⟩ := Result.bind_eq_ok_iff.1 h
  dsimp only at h
  split at h
  · simp at h
  · obtain ⟨c, -, h⟩ := Result.bind_eq_ok_iff.1 h
    exact ⟨f, keys, hf, hkeys, (Except.ok.inj h).symm⟩

/-! ### Compiling -/

variable {s : Scope} {p : Predicate} {fs : List Filter}

lemma compile_all (h : compile s (all fs) = .ok p) :
    ∃ ps, compileAll s fs = .ok ps ∧ Predicate.join ps .and = .ok p := by
  rw [compile] at h
  split at h
  · next ps hps => exact ⟨ps, hps, h⟩
  · simp at h

lemma compile_any (h : compile s (any fs) = .ok p) :
    ∃ ps, compileAll s fs = .ok ps ∧ Predicate.join ps .or = .ok p := by
  rw [compile] at h
  split at h
  · next ps hps => exact ⟨ps, hps, h⟩
  · simp at h

/-- A value in the place of a filter imposes no condition. -/
lemma compile_other {v : Value} (h : compile s (other v) = .ok p) : p = Predicate.empty := by
  rw [compile] at h
  split at h
  · exact (Except.ok.inj h).symm
  · simp at h

lemma compileAll_cons {f : Filter} {ps : List Predicate}
    (h : compileAll s (f :: fs) = .ok ps) :
    ∃ p ps', compile s f = .ok p ∧ compileAll s fs = .ok ps' ∧ ps = p :: ps' := by
  rw [compileAll] at h
  split at h
  · next p hp =>
    obtain ⟨ps', hps', rfl⟩ := Result.map_eq_ok_iff.1 h
    exact ⟨p, ps', hp, hps', rfl⟩
  · simp at h

/-- The fragment of the equality of an expression with a value.  With nothing the expression stands
under one cast, and with a plain value under the one that is decided for the value. -/
inductive Equates (expr : String) (onNull : CastKind) (onPlain : Result CastKind) (v : Value)
    (p : Predicate) : Prop
  | null (hnull : v.isNull = true)
    (h : Predicate.ofText ((Cast.kind onNull).applyTo expr ++ " IS NULL") [] = .ok p)
  /-- With a list or mapping. -/
  | json (hnull : v.isNull = false) (hstructured : v.isStructured = true)
    (h : compareJson expr v = .ok p)
  | plain {kind : CastKind} (hnull : v.isNull = false) (hplain : v.isStructured = false)
    (hkind : onPlain = .ok kind)
    (h : Predicate.ofText ((Cast.kind kind).applyTo expr ++ " = $") [castParam kind v] = .ok p)

/-- A column is compared as it is. -/
lemma equates_of_compileColumn {k : FieldKey} {v : Value} (h : compileColumn s k v = .ok p) :
    ∃ q, k.resolve s.procedures s.entity false (.list []) = .ok q ∧
      Equates q.text .direct (.ok .direct) v p := by
  obtain ⟨q, hq, h⟩ := Result.bind_eq_ok_iff.1 h
  refine ⟨q, hq, ?_⟩
  split at h
  · next hnull => exact .null hnull h
  · next hnull =>
    split at h
    · next hstructured => exact .json (by simpa using hnull) hstructured h
    · next hplain => exact .plain (by simpa using hnull) (by simpa using hplain) rfl h

lemma equates_of_compileProperty {k : FieldKey} {v : Value} (h : compileProperty s k v = .ok p) :
    ∃ q, k.resolve s.procedures s.entity false (.list []) = .ok q ∧
      Equates q.text .text (comparisonKind s k v) v p := by
  obtain ⟨q, hq, h⟩ := Result.bind_eq_ok_iff.1 h
  refine ⟨q, hq, ?_⟩
  split at h
  · next hnull => exact .null hnull h
  · next hnull =>
    split at h
    · next hstructured => exact .json (by simpa using hnull) hstructured h
    · next hplain =>
      obtain ⟨kind, hkind, h⟩ := Result.bind_eq_ok_iff.1 h
      exact .plain (by simpa using hnull) (by simpa using hplain) hkind h

/-- What a call is put together from: the fragments of its keys, on their own and as JSON, the list
of these, the text of its arguments, the call itself, and its result under a cast. -/
structure Calls (s : Scope) (keys : List FieldKey) (f : PredicateFunction)
    (arguments : List Value) (returnType : Value) (p : Predicate) (resolved jsons : List Predicate)
    (values : Predicate) (argumentText : String) (call : Predicate) (cast : Cast)
    (text : String) : Prop where
  resolved_eq : FieldKey.resolveAll s.procedures s.entity true s.documents keys = .ok resolved
  jsons_eq : asJson resolved = .ok jsons
  values_eq : Predicate.chain jsons ", " = .ok values
  arguments_eq : jsonText (.list arguments) = .ok argumentText
  call_eq : Predicate.ofText
    (s.procedures.dispatch ++ "(" ++ valueArray values ++ ", $::json, $::json)")
    (values.params ++ [.text (Json.writeText f.name), .text argumentText]) = .ok call
  cast_eq : Cast.parse returnType = .ok cast
  text_eq : castCall cast call.text = .ok text
  result_eq : call.withText text = .ok p

lemma exists_calls {keys : List FieldKey} {f : PredicateFunction} {arguments : List Value}
    {returnType : Value} (h : compileCall s keys f arguments returnType = .ok p) :
    ∃ resolved jsons values argumentText call cast text,
      Calls s keys f arguments returnType p resolved jsons values argumentText call cast text := by
  obtain ⟨resolved, hresolved, h⟩ := Result.bind_eq_ok_iff.1 h
  obtain ⟨jsons, hjsons, h⟩ := Result.bind_eq_ok_iff.1 h
  obtain ⟨values, hvalues, h⟩ := Result.bind_eq_ok_iff.1 h
  obtain ⟨argumentText, harguments, h⟩ := Result.bind_eq_ok_iff.1 h
  obtain ⟨call, hcall, h⟩ := Result.bind_eq_ok_iff.1 h
  obtain ⟨cast, hcast, h⟩ := Result.bind_eq_ok_iff.1 h
  obtain ⟨text, htext, h⟩ := Result.bind_eq_ok_iff.1 h
  exact ⟨resolved, jsons, values, argumentText, call, cast, text, hresolved, hjsons, hvalues,
    harguments, hcall, hcast, htext, h⟩

lemma forall₂_resolveAll {procedures : Procedures} {e : Entity} {epoch : Bool} {documents : Value}
    {keys : List FieldKey} {ps : List Predicate}
    (h : FieldKey.resolveAll procedures e epoch documents keys = .ok ps) :
    List.Forall₂ (fun k p => k.resolve procedures e epoch documents = .ok p) keys ps :=
  Result.forall₂_of_each (g := FieldKey.resolveAll procedures e epoch documents) rfl
    (fun _ _ => rfl) h

lemma forall₂_asJson {ps qs : List Predicate} (h : asJson ps = .ok qs) :
    List.Forall₂ (fun p q => p.withText ("to_json(" ++ p.text ++ ")") = .ok q) ps qs :=
  Result.forall₂_of_each (g := asJson) rfl (fun _ _ => rfl) h

end DocumentSql.Filter

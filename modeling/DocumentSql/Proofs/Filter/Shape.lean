/-
Filters that differ in their values only.

Values are bound as parameters and never written into the text.  Two specifications of one shape
have the same nesting, operators, tables and keys, and compare the same keys with values of the
same class; the values themselves, and the functions that are called with their arguments, may be
any.  What they compile to has the same text, and as many parameters
(`Filter.sameText_of_sameShape`).
-/
import DocumentSql.Proofs.Filter.Inversion
import DocumentSql.Proofs.Sql.Fragment
import DocumentSql.Search.TypeNeed

namespace DocumentSql

/-! ### Fragments of the same text -/

namespace Predicate

/-- The fragments have the same text and as many parameters. -/
structure SameText (p q : Predicate) : Prop where
  text_eq : p.text = q.text
  length_eq : p.params.length = q.params.length

namespace SameText

variable {p q p' q' : Predicate} {ps qs : List Predicate} {text : String}

lemma refl (p : Predicate) : p.SameText p := ⟨rfl, rfl⟩

lemma isEmpty_eq (h : p.SameText q) : p.isEmpty = q.isEmpty := by
  rw [isEmpty, isEmpty, h.text_eq]

/-- Fragments made of the same text have as many parameters as it has placeholders. -/
lemma of_make {params params' : List Value} {origin origin' : Members}
    (hp : make text params origin = .ok p) (hq : make text params' origin' = .ok q) :
    p.SameText q := by
  obtain ⟨hcount, rfl⟩ := make_eq_ok_iff.1 hp
  obtain ⟨hcount', rfl⟩ := make_eq_ok_iff.1 hq
  exact ⟨rfl, hcount.symm.trans hcount'⟩

lemma withText {text' : String} (htext : text = text') (hp : p.withText text = .ok p')
    (hq : q.withText text' = .ok q') : p'.SameText q' := by
  subst htext
  exact of_make hp hq

lemma enclosed (h : p.SameText q) (hp : p.enclosed = .ok p') (hq : q.enclosed = .ok q') :
    p'.SameText q' :=
  withText (by rw [h.text_eq]) hp hq

lemma filter (h : List.Forall₂ SameText ps qs) :
    List.Forall₂ SameText (ps.filter (!·.isEmpty)) (qs.filter (!·.isEmpty)) := by
  induction h with
  | nil => exact List.Forall₂.nil
  | @cons p q ps qs hpq _ ih =>
    rw [List.filter_cons, List.filter_cons, hpq.isEmpty_eq]
    split
    · exact List.Forall₂.cons hpq ih
    · exact ih

lemma shiftedTexts (h : List.Forall₂ SameText ps qs) (offset : ℕ) :
    shiftedTexts offset ps = shiftedTexts offset qs := by
  induction h generalizing offset with
  | nil => rfl
  | @cons p q ps qs hpq _ ih =>
    rw [Predicate.shiftedTexts, Predicate.shiftedTexts, shifted, shifted, hpq.text_eq,
      hpq.length_eq, ih]

lemma chain {separator : String} (h : List.Forall₂ SameText ps qs)
    (hp : chain ps separator = .ok p) (hq : chain qs separator = .ok q) : p.SameText q := by
  have htexts := shiftedTexts (filter h) 0
  simp only [Predicate.chain, ofText, htexts] at hp hq
  exact of_make hp hq

lemma enclosedAll (h : List.Forall₂ SameText ps qs) {ps' qs' : List Predicate}
    (hp : enclosedAll ps = .ok ps') (hq : enclosedAll qs = .ok qs') :
    List.Forall₂ SameText ps' qs' :=
  Result.forall₂_answers h (forall₂_enclosedAll hp) (forall₂_enclosedAll hq)
    fun hpq hp hq => hpq.enclosed hp hq

lemma join {op : Operator} (h : List.Forall₂ SameText ps qs) (hp : join ps op = .ok p)
    (hq : join qs op = .ok q) : p.SameText q := by
  have hkept := filter h
  simp only [Predicate.join] at hp hq
  revert hp hq
  generalize ps.filter (!·.isEmpty) = ps at hkept ⊢
  generalize qs.filter (!·.isEmpty) = qs at hkept ⊢
  intro hp hq
  rcases hkept with _ | ⟨hfirst, _ | ⟨hsecond, hrest⟩⟩
  · obtain rfl := Except.ok.inj hp
    obtain rfl := Except.ok.inj hq
    exact refl empty
  · obtain rfl := Except.ok.inj hp
    obtain rfl := Except.ok.inj hq
    exact hfirst
  · obtain ⟨ps', hps', hp⟩ := Result.bind_eq_ok_iff.1 hp
    obtain ⟨qs', hqs', hq⟩ := Result.bind_eq_ok_iff.1 hq
    exact chain (enclosedAll (.cons hfirst (.cons hsecond hrest)) hps' hqs') hp hq

end SameText

end Predicate

/-! ### Specifications of one shape -/

namespace Filter

/-- The classes of literals that the text of a comparison tells apart. -/
inductive LiteralClass where
  /-- Nothing. -/
  | nothing
  /-- A list or mapping. -/
  | structured
  /-- A truth value. -/
  | truth
  /-- A number. -/
  | number
  /-- Any other value. -/
  | other
deriving DecidableEq

/-- The class of a literal in its plain form. -/
def classOf (v : Value) : LiteralClass :=
  match extended v with
  | .null => .nothing
  | .dict _ | .list _ => .structured
  | .bool _ => .truth
  | .int _ | .float _ | .decimal _ => .number
  | _ => .other

/-- The class is that of a literal with a value of its own. -/
def LiteralClass.IsPlain (c : LiteralClass) : Prop := c ≠ .nothing ∧ c ≠ .structured

/-- The key is a property that the schema does not declare. -/
def IsUndeclared (schema : Value) : FieldKey → Prop
  | .path components => Schema.declaredType? schema (.path components) = none
  | _ => False

/-- Literals that a key is compared with are of the same class.  Plain literals are told apart only
under properties that the schema does not declare. -/
def SameClass (schema : Value) (k : FieldKey) (v w : Value) : Prop :=
  classOf v = classOf w ∨
    ((classOf v).IsPlain ∧ (classOf w).IsPlain ∧ ¬ IsUndeclared schema k)

/-- Two members have the same key, and literals of the same class. -/
def SameMember (schema : Value) (m n : Value × Value) : Prop :=
  FieldKey.parse m.1 = FieldKey.parse n.1 ∧
    ∀ k, FieldKey.parse m.1 = .ok k → SameClass schema k m.2.normalize n.2.normalize

variable {r : FunctionRegistry} {schema : Value}

mutual
/-- Two specifications without raw fragments have the same shape: they differ in the literals of
comparisons, within their classes, and in the functions and arguments of calls. -/
inductive SameShape (r : FunctionRegistry) (schema : Value) : Value → Value → Prop
  /-- No condition. -/
  | nothing : SameShape r schema .null .null
  /-- Mappings with the same keys. -/
  | mapping {ms ns : Members} (h : List.Forall₂ (SameMember schema) ms ns) :
    SameShape r schema (.dict ms) (.dict ns)
  /-- Tables with the same columns and as many rows. -/
  | table {columns : List String} {rows rows' : List (List Value)}
    (h : List.Forall₂ (fun row row' => List.Forall₂ (SameMember schema)
      (rowMembers columns row) (rowMembers columns row')) rows rows') :
    SameShape r schema (.frame columns rows) (.frame columns rows')
  /-- Lists without an operator. -/
  | unmarked {v w : Value} {vs ws : List Value} (hv : items? v = some vs) (hw : items? w = some ws)
    (h : SameShapes r schema vs ws) : SameShape r schema v w
  /-- Lists with the same operator. -/
  | joined {v w token token' : Value} {vs ws : List Value} {op : Predicate.Operator}
    (hv : items? v = some (token :: vs)) (hw : items? w = some (token' :: ws))
    (htoken : OperatorToken.ofValue token = .ok (some (.junction op)))
    (htoken' : OperatorToken.ofValue token' = .ok (some (.junction op)))
    (h : SameShapes r schema vs ws) : SameShape r schema v w
  /-- Calls on the same keys, of functions whose results are cast to the same type. -/
  | call {v w token token' reference reference' : Value}
    {vs ws names names' arguments arguments' : List Value} {returnType returnType' : Option String}
    (hv : items? v = some (token :: vs)) (hw : items? w = some (token' :: ws))
    (htoken : OperatorToken.ofValue token = .ok (some (.call returnType)))
    (htoken' : OperatorToken.ofValue token' = .ok (some (.call returnType')))
    (hsplit : splitCall vs = some (names, reference, arguments))
    (hsplit' : splitCall ws = some (names', reference', arguments'))
    (hnames : List.Forall₂ (fun n n' => FieldKey.parse n = FieldKey.parse n') names names')
    (htype : ∀ f f', r.find reference = .ok f → r.find reference' = .ok f' →
      callType returnType f = callType returnType' f') : SameShape r schema v w
/-- Specifications have pairwise the same shape. -/
inductive SameShapes (r : FunctionRegistry) (schema : Value) : List Value → List Value → Prop
  | nil : SameShapes r schema [] []
  | cons {v w : Value} {vs ws : List Value} (h : SameShape r schema v w)
    (hrest : SameShapes r schema vs ws) : SameShapes r schema (v :: vs) (w :: ws)
end

mutual
/-- Two filters differ only in the literals of comparisons, within their classes, and in the
functions and arguments of calls. -/
inductive Alike (schema : Value) : Filter → Filter → Prop
  | column {k : FieldKey} {v w : Value} (h : SameClass schema k v w) :
    Alike schema (column k v) (column k w)
  | property {components : List String} {v w : Value}
    (h : SameClass schema (.path components) v w) :
    Alike schema (property (.path components) v) (property (.path components) w)
  | call (keys : List FieldKey) (f f' : PredicateFunction) (arguments arguments' : List Value)
    (returnType : Value) :
    Alike schema (call keys f arguments returnType) (call keys f' arguments' returnType)
  | all {fs gs : List Filter} (h : AllAlike schema fs gs) : Alike schema (all fs) (all gs)
  | any {fs gs : List Filter} (h : AllAlike schema fs gs) : Alike schema (any fs) (any gs)
/-- Filters are pairwise alike. -/
inductive AllAlike (schema : Value) : List Filter → List Filter → Prop
  | nil : AllAlike schema [] []
  | cons {f g : Filter} {fs gs : List Filter} (h : Alike schema f g)
    (hrest : AllAlike schema fs gs) : AllAlike schema (f :: fs) (g :: gs)
end

/-! ### Parsing -/

lemma AllAlike.append {fs gs fs' gs' : List Filter} (h : AllAlike schema fs gs)
    (h' : AllAlike schema fs' gs') : AllAlike schema (fs ++ fs') (gs ++ gs') := by
  induction fs generalizing gs with
  | nil =>
    cases h
    exact h'
  | cons f fs ih =>
    cases h with
    | cons hfirst hrest => exact .cons hfirst (ih hrest)

lemma AllAlike.of_forall₂ {fs gs : List Filter} (h : List.Forall₂ (Alike schema) fs gs) :
    AllAlike schema fs gs := by
  induction h with
  | nil => exact .nil
  | cons hfg _ ih => exact .cons hfg ih

lemma AllAlike.flatMap {fs gs : List (Option Filter)}
    (h : List.Forall₂ (fun f g => AllAlike schema f.toList g.toList) fs gs) :
    AllAlike schema (fs.flatMap Option.toList) (gs.flatMap Option.toList) := by
  induction h with
  | nil => exact .nil
  | cons hfg _ ih => exact hfg.append ih

lemma AllAlike.joined? {fs gs : List Filter} (h : AllAlike schema fs gs) (op : Predicate.Operator) :
    AllAlike schema (joined? op fs).toList (joined? op gs).toList := by
  cases h with
  | nil => exact .nil
  | cons hfirst hrest =>
    cases op with
    | and => exact .cons (.all (.cons hfirst hrest)) .nil
    | or => exact .cons (.any (.cons hfirst hrest)) .nil

lemma checkedValue_eq {k : FieldKey} {v v' : Value} (h : checkedValue k v = .ok v') :
    v' = v.normalize := by
  simp only [checkedValue] at h
  split at h
  · exact (Except.ok.inj h).symm
  · split at h
    · split at h
      · exact (Except.ok.inj h).symm
      · simp at h
    · simp at h

lemma alike_comparison {m n : Value × Value} {f g : Filter} (h : SameMember schema m n)
    (hf : comparison m.1 m.2 = .ok f) (hg : comparison n.1 n.2 = .ok g) : Alike schema f g := by
  obtain ⟨hname, hclass⟩ := h
  obtain ⟨k, v, hk, hv, hf⟩ := comparison_eq_ok hf
  obtain ⟨l, w, hl, hw, hg⟩ := comparison_eq_ok hg
  obtain rfl : k = l := Except.ok.inj (hk.symm.trans (hname.trans hl))
  have hsame := hclass k hk
  rw [← checkedValue_eq hv, ← checkedValue_eq hw] at hsame
  rcases hf with ⟨⟨path, rfl⟩, rfl⟩ | ⟨⟨c, hc⟩, rfl⟩
  · rcases hg with ⟨-, rfl⟩ | ⟨⟨c, hc⟩, -⟩
    · exact .property hsame
    · simp at hc
  · rcases hg with ⟨⟨path, rfl⟩, -⟩ | ⟨-, rfl⟩
    · simp at hc
    · exact .column hsame

lemma alike_ofMembers {op : Predicate.Operator} {ms ns : Members}
    (h : List.Forall₂ (SameMember schema) ms ns) {f g : Option Filter}
    (hf : ofMembers op ms = .ok f) (hg : ofMembers op ns = .ok g) :
    AllAlike schema f.toList g.toList := by
  obtain ⟨fs, hfs, rfl⟩ := Result.map_eq_ok_iff.1 hf
  obtain ⟨gs, hgs, rfl⟩ := Result.map_eq_ok_iff.1 hg
  exact (AllAlike.of_forall₂ (Result.forall₂_answers h (forall₂_comparisons hfs)
    (forall₂_comparisons hgs) alike_comparison)).joined? op

lemma alike_ofRows {columns : List String} {rows rows' : List (List Value)}
    (h : List.Forall₂ (fun row row' => List.Forall₂ (SameMember schema)
      (rowMembers columns row) (rowMembers columns row')) rows rows') {fs gs : List Filter}
    (hf : ofRows columns rows = .ok fs) (hg : ofRows columns rows' = .ok gs) :
    AllAlike schema fs gs := by
  obtain ⟨fs', hfs, rfl⟩ := forall₂_ofRows hf
  obtain ⟨gs', hgs, rfl⟩ := forall₂_ofRows hg
  exact AllAlike.flatMap (Result.forall₂_answers h hfs hgs
    fun hms hf hg => alike_ofMembers hms hf hg)

/-- The keys of a call depend on what its names are parsed to only. -/
lemma callKeys_congr {names names' : List Value}
    (h : List.Forall₂ (fun n n' => FieldKey.parse n = FieldKey.parse n') names names') :
    callKeys names = callKeys names' := by
  induction h with
  | nil => rfl
  | cons hname _ ih => rw [callKeys, callKeys, hname, ih]

/-- Lists and tuples are parsed by their items. -/
lemma parse_of_items {op : Predicate.Operator} {v : Value} {vs : List Value}
    (h : items? v = some vs) : parse r op v = parseItems r op vs := by
  cases v <;> simp [items?] at h <;> subst h <;> rfl

lemma ofValue_of_items {v : Value} {vs : List Value} (h : items? v = some vs) :
    OperatorToken.ofValue v = .ok none := by
  cases v <;> simp [items?] at h <;> rfl

/-- Specifications of one shape are no operators. -/
lemma SameShape.no_operator {v w : Value} (h : SameShape r schema v w) :
    OperatorToken.ofValue v = .ok none ∧ OperatorToken.ofValue w = .ok none := by
  cases h with
  | nothing => exact ⟨rfl, rfl⟩
  | mapping => exact ⟨rfl, rfl⟩
  | table => exact ⟨rfl, rfl⟩
  | unmarked hv hw => exact ⟨ofValue_of_items hv, ofValue_of_items hw⟩
  | joined hv hw => exact ⟨ofValue_of_items hv, ofValue_of_items hw⟩
  | call hv hw => exact ⟨ofValue_of_items hv, ofValue_of_items hw⟩

lemma SameShapes.heads {vs ws : List Value} (h : SameShapes r schema vs ws) :
    (∀ v ∈ vs.head?, OperatorToken.ofValue v = .ok none) ∧
      ∀ w ∈ ws.head?, OperatorToken.ofValue w = .ok none := by
  cases h with
  | nil => simp
  | cons h _ => simpa using h.no_operator

mutual
/-- Specifications of one shape are parsed to filters that are alike. -/
theorem alike_parse {op : Predicate.Operator} : ∀ {v w : Value} {f g : Option Filter},
    SameShape r schema v w → parse r op v = .ok f → parse r op w = .ok g →
      AllAlike schema f.toList g.toList
  | _, _, f, g, .nothing, hf, hg => by
    obtain rfl := Except.ok.inj hf
    obtain rfl := Except.ok.inj hg
    exact .nil
  | _, _, f, g, .mapping h, hf, hg => alike_ofMembers h hf hg
  | _, _, f, g, .table h, hf, hg => by
    obtain ⟨fs, hfs, rfl⟩ := Result.map_eq_ok_iff.1 hf
    obtain ⟨gs, hgs, rfl⟩ := Result.map_eq_ok_iff.1 hg
    exact (alike_ofRows h hfs hgs).joined? .or
  | _, _, f, g, .unmarked hv hw h, hf, hg => by
    rw [parse_of_items hv, parseItems_unmarked h.heads.1] at hf
    rw [parse_of_items hw, parseItems_unmarked h.heads.2] at hg
    obtain ⟨fs, hfs, rfl⟩ := Result.map_eq_ok_iff.1 hf
    obtain ⟨gs, hgs, rfl⟩ := Result.map_eq_ok_iff.1 hg
    exact (alike_parseAll h hfs hgs).joined? .and
  | _, _, f, g, .joined hv hw htoken htoken' h, hf, hg => by
    rw [parse_of_items hv] at hf
    rw [parse_of_items hw] at hg
    obtain ⟨fs, hfs, rfl⟩ := parseItems_joined htoken hf
    obtain ⟨gs, hgs, rfl⟩ := parseItems_joined htoken' hg
    exact (alike_parseAll h hfs hgs).joined? _
  | _, _, f, g, .call hv hw htoken htoken' hsplit hsplit' hnames htype, hf, hg => by
    rw [parse_of_items hv] at hf
    rw [parse_of_items hw] at hg
    obtain ⟨f', hcall, rfl⟩ := parseItems_call htoken hf
    obtain ⟨g', hcall', rfl⟩ := parseItems_call htoken' hg
    obtain ⟨p, keys, hp, hkeys, rfl⟩ := ofCall_eq_ok hsplit hcall
    obtain ⟨q, keys', hq, hkeys', rfl⟩ := ofCall_eq_ok hsplit' hcall'
    obtain rfl : keys = keys' :=
      Except.ok.inj (hkeys.symm.trans ((callKeys_congr hnames).trans hkeys'))
    rw [htype p q hp hq]
    exact .cons (.call keys p q _ _ _) .nil
/-- The same for specifications one after the other. -/
theorem alike_parseAll {op : Predicate.Operator} : ∀ {vs ws : List Value} {fs gs : List Filter},
    SameShapes r schema vs ws → parseAll r op vs = .ok fs → parseAll r op ws = .ok gs →
      AllAlike schema fs gs
  | _, _, fs, gs, .nil, hf, hg => by
    obtain rfl := Except.ok.inj hf
    obtain rfl := Except.ok.inj hg
    exact .nil
  | _, _, fs, gs, .cons h hrest, hf, hg => by
    obtain ⟨f, fs', hf', hfs', rfl⟩ := parseAll_cons hf
    obtain ⟨g, gs', hg', hgs', rfl⟩ := parseAll_cons hg
    exact (alike_parse h hf' hg').append (alike_parseAll hrest hfs' hgs')
end

/-! ### Compiling -/

lemma extended_cases (v : Value) :
    extended v = v ∨ (∃ x, v = .scalar "float64" (.float x) ∧ extended v = .float x) ∨
      ∃ kind t, v = .scalar kind (.text t) ∧ extended v = .text t := by
  unfold extended
  split
  · exact Or.inr (Or.inl ⟨_, rfl, rfl⟩)
  · exact Or.inr (Or.inr ⟨_, _, rfl, rfl⟩)
  · exact Or.inl rfl

lemma isNull_iff (v : Value) : v.isNull = true ↔ classOf v = .nothing := by
  rcases extended_cases v with h | ⟨x, rfl, h⟩ | ⟨kind, t, rfl, h⟩
  · rw [classOf, h]
    cases v <;> simp [Value.isNull]
  · simp [classOf, h, Value.isNull]
  · simp [classOf, h, Value.isNull]

lemma isStructured_iff (v : Value) : v.isStructured = true ↔ classOf v = .structured := by
  rcases extended_cases v with h | ⟨x, rfl, h⟩ | ⟨kind, t, rfl, h⟩
  · rw [classOf, h]
    cases v <;> simp [Value.isStructured]
  · simp [classOf, h, Value.isStructured]
  · simp [classOf, h, Value.isStructured]

lemma SameClass.isNull_eq {k : FieldKey} {v w : Value} (h : SameClass schema k v w) :
    v.isNull = w.isNull := by
  rw [Bool.eq_iff_iff, isNull_iff, isNull_iff]
  rcases h with h | ⟨hv, hw, -⟩
  · rw [h]
  · simp [hv.1, hw.1]

lemma SameClass.isStructured_eq {k : FieldKey} {v w : Value} (h : SameClass schema k v w) :
    v.isStructured = w.isStructured := by
  rw [Bool.eq_iff_iff, isStructured_iff, isStructured_iff]
  rcases h with h | ⟨hv, hw, -⟩
  · rw [h]
  · simp [hv.2, hw.2]

/-- The cast that a class of literals is compared under. -/
def LiteralClass.kind : LiteralClass → CastKind
  | truth => .boolean
  | number => .numeric
  | _ => .text

lemma kindOfValue_eq (v : Value) : kindOfValue v = (classOf v).kind := by
  unfold kindOfValue classOf
  generalize extended v = w
  cases w <;> rfl

variable {s : Scope} {p q : Predicate}

lemma sameText_compareJson {expr : String} {v w : Value} (hp : compareJson expr v = .ok p)
    (hq : compareJson expr w = .ok q) : p.SameText q := by
  obtain ⟨a, -, hp⟩ := Result.bind_eq_ok_iff.1 hp
  obtain ⟨b, -, hq⟩ := Result.bind_eq_ok_iff.1 hq
  exact .of_make hp hq

/-- Literals of one class are compared by the same of three ways. -/
lemma Equates.sameText {expr : String} {onNull : CastKind} {onPlain : Result CastKind}
    {k : FieldKey} {v w : Value} (h : SameClass schema k v w)
    (hp : Equates expr onNull onPlain v p) (hq : Equates expr onNull onPlain w q) :
    p.SameText q := by
  cases hp with
  | null hnull hp =>
    rw [h.isNull_eq] at hnull
    cases hq with
    | null _ hq => exact .of_make hp hq
    | json hne | plain hne => simp [hne] at hnull
  | json hnull hstructured hp =>
    rw [h.isNull_eq] at hnull
    rw [h.isStructured_eq] at hstructured
    cases hq with
    | null hne => simp [hne] at hnull
    | json _ _ hq => exact sameText_compareJson hp hq
    | plain _ hne => simp [hne] at hstructured
  | plain hnull hplain hkind hp =>
    rw [h.isNull_eq] at hnull
    rw [h.isStructured_eq] at hplain
    cases hq with
    | null hne => simp [hne] at hnull
    | json _ hne => simp [hne] at hplain
    | plain _ _ hkind' hq =>
      obtain rfl := Except.ok.inj (hkind.symm.trans hkind')
      exact .of_make hp hq

lemma sameText_compileColumn {k : FieldKey} {v w : Value} (h : SameClass s.schema k v w)
    (hp : compileColumn s k v = .ok p) (hq : compileColumn s k w = .ok q) : p.SameText q := by
  obtain ⟨e, he, hp⟩ := equates_of_compileColumn hp
  obtain ⟨e', he', hq⟩ := equates_of_compileColumn hq
  obtain rfl : e = e' := Except.ok.inj (he.symm.trans he')
  exact hp.sameText h hq

lemma comparisonKind_congr {components : List String} {v w : Value}
    (h : SameClass s.schema (.path components) v w) :
    comparisonKind s (.path components) v = comparisonKind s (.path components) w := by
  unfold comparisonKind
  cases hdeclared : Schema.declaredType? s.schema (.path components) with
  | some t => rfl
  | none =>
    rcases h with h | ⟨-, -, hkey⟩
    · rw [kindOfValue_eq, kindOfValue_eq, h]
    · exact absurd hdeclared hkey

lemma sameText_compileProperty {components : List String} {v w : Value}
    (h : SameClass s.schema (.path components) v w)
    (hp : compileProperty s (.path components) v = .ok p)
    (hq : compileProperty s (.path components) w = .ok q) : p.SameText q := by
  obtain ⟨e, he, hp⟩ := equates_of_compileProperty hp
  obtain ⟨e', he', hq⟩ := equates_of_compileProperty hq
  obtain rfl : e = e' := Except.ok.inj (he.symm.trans he')
  -- the cast depends on the class of a plain literal only where the schema does not declare one
  rw [← comparisonKind_congr h] at hq
  exact hp.sameText h hq

/-- The function and the arguments of a call are parameters. -/
lemma sameText_compileCall {keys : List FieldKey} {f f' : PredicateFunction}
    {arguments arguments' : List Value} {returnType : Value}
    (hp : compileCall s keys f arguments returnType = .ok p)
    (hq : compileCall s keys f' arguments' returnType = .ok q) : p.SameText q := by
  obtain ⟨resolved, jsons, values, _, call, c, text, hp⟩ := exists_calls hp
  obtain ⟨_, _, _, _, call', _, text', hq⟩ := exists_calls hq
  obtain rfl := Except.ok.inj (hp.resolved_eq.symm.trans hq.resolved_eq)
  obtain rfl := Except.ok.inj (hp.jsons_eq.symm.trans hq.jsons_eq)
  obtain rfl := Except.ok.inj (hp.values_eq.symm.trans hq.values_eq)
  obtain rfl := Except.ok.inj (hp.cast_eq.symm.trans hq.cast_eq)
  have hcalls : call.SameText call' := .of_make hp.call_eq hq.call_eq
  have htext : text = text' :=
    Except.ok.inj (hp.text_eq.symm.trans (hcalls.text_eq ▸ hq.text_eq))
  exact .withText htext hp.result_eq hq.result_eq

mutual
/-- Filters that are alike compile to the same text. -/
theorem sameText_compile : ∀ {f g : Filter} {p q : Predicate}, Alike s.schema f g →
    compile s f = .ok p → compile s g = .ok q → p.SameText q
  | _, _, p, q, .column h, hp, hq => sameText_compileColumn h hp hq
  | _, _, p, q, .property h, hp, hq => sameText_compileProperty h hp hq
  | _, _, p, q, .call keys f f' arguments arguments' returnType, hp, hq =>
    sameText_compileCall hp hq
  | _, _, p, q, .all h, hp, hq => by
    obtain ⟨ps, hps, hp⟩ := compile_all hp
    obtain ⟨qs, hqs, hq⟩ := compile_all hq
    exact .join (sameText_compileAll h hps hqs) hp hq
  | _, _, p, q, .any h, hp, hq => by
    obtain ⟨ps, hps, hp⟩ := compile_any hp
    obtain ⟨qs, hqs, hq⟩ := compile_any hq
    exact .join (sameText_compileAll h hps hqs) hp hq
/-- The same for filters one after the other. -/
theorem sameText_compileAll : ∀ {fs gs : List Filter} {ps qs : List Predicate},
    AllAlike s.schema fs gs → compileAll s fs = .ok ps → compileAll s gs = .ok qs →
      List.Forall₂ Predicate.SameText ps qs
  | _, _, ps, qs, .nil, hp, hq => by
    obtain rfl := Except.ok.inj hp
    obtain rfl := Except.ok.inj hq
    exact .nil
  | _, _, ps, qs, .cons h hrest, hp, hq => by
    obtain ⟨p, ps', hp', hps', rfl⟩ := compileAll_cons hp
    obtain ⟨q, qs', hq', hqs', rfl⟩ := compileAll_cons hq
    exact .cons (sameText_compile h hp' hq') (sameText_compileAll hrest hps' hqs')
end

/-! ### Conditions -/

lemma length_typeNames {vs names : List Value} (h : Search.typeNames vs = .ok names) :
    names.length = vs.length :=
  (Result.forall₂_of_each (f := Search.typeName) (g := Search.typeNames) rfl (fun _ _ => rfl)
    h).length_eq.symm

/-- Equalities of a column with equally many names. -/
lemma sameText_nameConditions {column : String} {names names' : List Value}
    (h : names.length = names'.length) {ps qs : List Predicate}
    (hp : Search.nameConditions column names = .ok ps)
    (hq : Search.nameConditions column names' = .ok qs) :
    List.Forall₂ Predicate.SameText ps qs := by
  have heach : ∀ {names : List Value} {ps : List Predicate},
      Search.nameConditions column names = .ok ps → List.Forall₂
        (fun n p => Predicate.ofText (column ++ " = $") [n] = .ok p) names ps := fun hps =>
    Result.forall₂_of_each (g := Search.nameConditions column) rfl (fun _ _ => rfl) hps
  have hpairs : List.Forall₂ (fun _ _ => True) names names' :=
    List.forall₂_iff_zip.2 ⟨h, fun _ => trivial⟩
  exact Result.forall₂_answers hpairs (heach hp) (heach hq) fun _ hp hq => .of_make hp hq

lemma sameText_typeCondition {e : Entity} {types types' : Value}
    (h : types.asList.length = types'.asList.length)
    (hp : Search.typeCondition e types = .ok p) (hq : Search.typeCondition e types' = .ok q) :
    p.SameText q := by
  obtain ⟨names, hnames, hp⟩ := Result.bind_eq_ok_iff.1 hp
  obtain ⟨names', hnames', hq⟩ := Result.bind_eq_ok_iff.1 hq
  have hlength : names.length = names'.length := by
    rw [length_typeNames hnames, length_typeNames hnames', h]
  cases names with
  | nil =>
    obtain rfl := List.length_eq_zero_iff.1 hlength.symm
    obtain rfl := Except.ok.inj hp
    obtain rfl := Except.ok.inj hq
    exact .refl _
  | cons n names =>
    obtain ⟨n', names', rfl⟩ := List.exists_cons_of_length_eq_add_one hlength.symm
    cases hcolumn : e.discriminator with
    | none => simp [hcolumn] at hp
    | some column =>
      rw [hcolumn] at hp hq
      obtain ⟨ps, hps, hp⟩ := Result.bind_eq_ok_iff.1 hp
      obtain ⟨qs, hqs, hq⟩ := Result.bind_eq_ok_iff.1 hq
      exact .join (sameText_nameConditions hlength hps hqs) hp hq

/-- Values never reach the text: conditions of specifications of one shape have the same text and
as many parameters, and so have conditions of equally many document types. -/
theorem sameText_of_sameShape (r : FunctionRegistry) (s : Scope) (match_ : Value) :
    (∀ v w p q, SameShape r s.schema v w → condition r s match_ v = .ok p →
      condition r s match_ w = .ok q → p.SameText q) ∧
    ∀ types types' p q, types.asList.length = types'.asList.length →
      Search.typeCondition s.entity types = .ok p → Search.typeCondition s.entity types' = .ok q →
        p.SameText q := by
  refine ⟨fun v w p q hshape hp hq => ?_, fun types types' p q => sameText_typeCondition⟩
  obtain ⟨op, hop, hp⟩ := Result.bind_eq_ok_iff.1 hp
  obtain ⟨_, hop', hq⟩ := Result.bind_eq_ok_iff.1 hq
  obtain rfl := Except.ok.inj (hop.symm.trans hop')
  obtain ⟨f, hf, hp⟩ := Result.bind_eq_ok_iff.1 hp
  obtain ⟨g, hg, hq⟩ := Result.bind_eq_ok_iff.1 hq
  have halike := alike_parse hshape hf hg
  rcases f with _ | f <;> rcases g with _ | g
  · obtain rfl := Except.ok.inj hp
    obtain rfl := Except.ok.inj hq
    exact .refl _
  · simp at halike
    cases halike
  · simp at halike
    cases halike
  · cases halike with
    | cons hfirst hrest => exact sameText_compile hfirst hp hq

/-- A specification with two literals of choice. -/
def personFilter (name id : Value) : Value :=
  .list [.text "OR", .dict [(.text "name", name), (.text "$id", id)]]

/-- Conditions on documents. -/
def documentScope : Scope := ⟨.standard, .document, .null, .list []⟩

lemma sameShape_personFilter {name name' id id' : Value}
    (hname : SameClass .null (.path ["name"]) name.normalize name'.normalize)
    (hid : SameClass .null (.column "id") id.normalize id'.normalize) :
    SameShape r .null (personFilter name id) (personFilter name' id') := by
  have hmembers : List.Forall₂ (SameMember .null) [(.text "name", name), (.text "$id", id)]
      [(.text "name", name'), (.text "$id", id')] := by
    refine .cons ⟨rfl, fun k hk => ?_⟩ (.cons ⟨rfl, fun k hk => ?_⟩ .nil)
    · obtain rfl : FieldKey.path ["name"] = k := Except.ok.inj hk
      exact hname
    · obtain rfl : FieldKey.column "id" = k := Except.ok.inj hk
      exact hid
  exact .joined rfl rfl rfl rfl (.cons (.mapping hmembers) .nil)

lemma exists_of_isOk {α : Type} {x : Result α} (h : x.isOk = true) : ∃ a, x = .ok a := by
  cases x with
  | ok a => exact ⟨a, rfl⟩
  | error e => simp [Except.isOk, Except.toBool] at h

/-- The text does not tell whether the literals are harmless. -/
theorem personFilter_sameText :
    ∃ p q, condition [] documentScope (.text "any") (personFilter (.text "Ann") (.int 1)) = .ok p ∧
      condition [] documentScope (.text "any")
        (personFilter (.text "' OR TRUE --") (.text "$1")) = .ok q ∧
      p.SameText q := by
  have hshape : SameShape [] documentScope.schema (personFilter (.text "Ann") (.int 1))
      (personFilter (.text "' OR TRUE --") (.text "$1")) := by
    refine sameShape_personFilter (Or.inl rfl) (Or.inr ⟨?_, ?_, id⟩)
    · simp [classOf, extended, LiteralClass.IsPlain, Value.normalize]
    · simp [classOf, extended, LiteralClass.IsPlain, Value.normalize]
  have hcompiled : (condition [] documentScope (.text "any")
      (personFilter (.text "Ann") (.int 1))).isOk = true ∧
      (condition [] documentScope (.text "any")
        (personFilter (.text "' OR TRUE --") (.text "$1"))).isOk = true := by
    decide +kernel
  obtain ⟨p, hp⟩ := exists_of_isOk hcompiled.1
  obtain ⟨q, hq⟩ := exists_of_isOk hcompiled.2
  exact ⟨p, q, hp, hq, (sameText_of_sameShape [] documentScope (.text "any")).1
    _ _ p q hshape hp hq⟩

end Filter

end DocumentSql

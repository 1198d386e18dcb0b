/-
One expression for each field.

A filter, an order, a group and an index each read the key of a field, resolve it and cast what
they find, every one on its own.  They arrive at one expression: a property whose type is declared
under the cast of that type, and a column as it is (`expression_shared`).  Only then is an index
of any use to the searches that it was made for.

What the four have in common is `NamesField`: a text names a field, which resolves to an
expression whatever it is used for, and has a cast.
-/
import DocumentSql.Proofs.Cast.Navigation
import DocumentSql.Proofs.Index.Spec
import DocumentSql.Proofs.Search.Parameters

namespace DocumentSql

open Sql

/-! ### Texts in front of a placeholder -/

namespace Predicate

/-- A text without placeholders in front of another text leaves the placeholders of that one. -/
lemma ofText_append {x y : String} (hx : Closed x.toList) (hdollar : '$' ∉ x.toList)
    (hy : Breaks y.toList) {params : List Value} (hcount : countPlaceholders y = params.length) :
    ofText (x ++ y) params = .ok ⟨x ++ renumber y 0, params, []⟩ := by
  have hplain : ∀ t ∈ tokens x.toList, t.isMark = false := by
    rw [tokens_eq_scan]
    exact not_isMark_of_not_mem hdollar
  have hnone : (tokens x.toList).countP Token.isMark = 0 :=
    List.countP_eq_zero.2 fun t ht => by simp [hplain t ht]
  have hwhole : (tokens x.toList).flatMap Token.chars = x.toList := by
    rw [tokens_eq_scan, flatMap_chars_scan (by decide)]
  have htokens : tokens (x ++ y).toList = tokens x.toList ++ tokens y.toList := by
    rw [String.toList_append, tokens_append hx (Or.inr hy)]
  have hrenumber : renumber (x ++ y) 0 = x ++ renumber y 0 := by
    have hrender := render_eq_flatMap 0 (tokens x.toList ++ tokens y.toList)
    rw [numbered_append, numbered_of_not_isMark hplain, hnone, List.flatMap_append, hwhole,
      ← render_eq_flatMap] at hrender
    rw [renumber, renumber, htokens, ← String.toList_inj]
    simpa using hrender
  refine (make_eq_ok_iff.2 ⟨?_, rfl⟩).trans (by rw [hrenumber])
  rw [countPlaceholders, htokens, List.countP_append, hnone, Nat.zero_add]
  exact hcount

/-- Two texts without placeholders, one behind the other. -/
lemma concat_text {x y : String} {origin : Members} (hx : '$' ∉ x.toList) (hy : '$' ∉ y.toList)
    (hxne : x ≠ "") (hyne : y ≠ "") :
    concat [.predicate ⟨x, [], origin⟩, .text y] " " = .ok ⟨x ++ " " ++ y, [], []⟩ := by
  have hparts : ofParts [.predicate ⟨x, [], origin⟩, .text y] =
      .ok [⟨x, [], origin⟩, ⟨y, [], []⟩] := by
    rw [ofParts, ofParts, Part.toPredicate, Part.toPredicate, ofText,
      make_of_count (countPlaceholders_of_no_dollar hy)]
    rfl
  have hjoined : '$' ∉ (x ++ " " ++ y).toList := by simp [hx, hy]
  rw [concat, hparts]
  simp only [bind, Except.bind, chain]
  rw [List.filter_cons_of_pos (by simp [isEmpty, hxne]),
    List.filter_cons_of_pos (by simp [isEmpty, hyne])]
  simp only [List.filter_nil, shiftedTexts, shifted, allParams, List.flatMap_cons,
    List.flatMap_nil, List.append_nil]
  have hsame : ∀ {z : String} (n : ℕ), '$' ∉ z.toList → renumber z n = z := fun n hz =>
    renumber_of_count_eq_zero (countPlaceholders_of_no_dollar hz) n
  rw [hsame 0 hx, hsame _ hy, String.intercalate_cons_cons, String.intercalate_singleton, ofText,
    make_of_count (countPlaceholders_of_no_dollar hjoined)]

end Predicate

namespace Search

/-! ### Texts that name a field -/

/-- The words that join the items of a filter. -/
def operatorWords : List String := ["AND", "OR", OperatorToken.callName]

/-- A text names a field of an entity: it is read as a key, which resolves to an expression,
whatever it is used for, and has a cast.  Under that cast the expression has closed literals and
no placeholders. -/
structure NamesField (s : Scope) (name : String) (k : FieldKey) (expr : String)
    (kind : CastKind) : Prop where
  parse : FieldKey.parse (.text name) = .ok k
  no_colon : ':' ∉ name.toList
  no_operator : name ∉ operatorWords
  single : k ≠ .all ∧ k ≠ .relations
  resolve : ∀ epoch documents, ∃ origin,
    k.resolve s.procedures s.entity epoch documents = .ok ⟨expr, [], origin⟩
  cast : CastKind.ofKey s.entity s.schema k = .ok kind
  closed : Closed ((Cast.kind kind).applyTo expr).toList
  no_dollar : '$' ∉ ((Cast.kind kind).applyTo expr).toList
  ne_empty : (Cast.kind kind).applyTo expr ≠ ""

namespace NamesField

variable {s : Scope} {name expr : String} {k : FieldKey} {kind : CastKind}

lemma cutAt_eq (h : NamesField s name k expr kind) :
    Text.cutAt ':' name.toList = (name.toList, none) := by
  have hcut : ∀ cs : List Char, ':' ∉ cs → Text.cutAt ':' cs = (cs, none) := by
    intro cs hcs
    induction cs with
    | nil => rfl
    | cons c cs ih =>
      have hc : c ≠ ':' := fun heq => hcs (by simp [heq])
      rw [Text.cutAt, if_neg (by simpa using hc), ih fun hmem => hcs (by simp [hmem])]
  exact hcut _ h.no_colon

lemma splitCast_eq (h : NamesField s name k expr kind) :
    splitCast (.text name) = .ok (name, .null) := by
  simp [splitCast, Value.asText?, h.cutAt_eq, OperatorToken.suffix?]

lemma token_eq (h : NamesField s name k expr kind) :
    OperatorToken.ofValue (.text name) = .ok none := by
  have hno := h.no_operator
  simp only [operatorWords, List.mem_cons, List.not_mem_nil, or_false, not_or] at hno
  simp [OperatorToken.ofValue, Value.asText?, h.cutAt_eq, Predicate.Operator.ofName?, hno]

/-- The cast that the schema decides gives the expression its form. -/
lemma castKey_eq (h : NamesField s name k expr kind) (origin : Members) :
    castKey s k .null ⟨expr, [], origin⟩ =
      .ok ⟨(Cast.kind kind).applyTo expr, [], origin⟩ := by
  have hmake := Predicate.make_of_count (countPlaceholders_of_no_dollar h.no_dollar) origin
  have htext : Cast.applyToKey s.entity s.schema k expr .null =
      .ok ((Cast.kind kind).applyTo expr) := by
    rw [Cast.applyToKey, Cast.ofKey, h.cast]
    rfl
  simp only [castKey, htext]
  exact hmake

lemma groupItem_eq (h : NamesField s name k expr kind) :
    ∃ origin, groupItem s (.text name) = .ok ⟨(Cast.kind kind).applyTo expr, [], origin⟩ := by
  obtain ⟨origin, hresolve⟩ := h.resolve true (.list [])
  refine ⟨origin, ?_⟩
  have hkey : groupKey (.text name) = .ok (k, .null) := by
    rw [groupKey, h.splitCast_eq]
    simp [bind, Except.bind, h.parse]
  rw [groupItem, hkey]
  simp only [bind, Except.bind]
  split
  · exact absurd rfl h.single.1
  · exact absurd rfl h.single.2
  · rw [hresolve]
    exact h.castKey_eq origin

lemma orderItem_eq (r : FunctionRegistry) (h : NamesField s name k expr kind) {item : Value}
    {words : List Value} (hitem : orderParts item = .ok (.text name, words)) :
    ∃ origin, orderItem r s item =
      if words.isEmpty then .ok ⟨(Cast.kind kind).applyTo expr, [], origin⟩
      else (directionOf words).bind fun direction =>
        .ok ⟨(Cast.kind kind).applyTo expr ++ " " ++ direction, [], []⟩ := by
  obtain ⟨origin, hresolve⟩ := h.resolve true s.documents
  refine ⟨origin, ?_⟩
  have hkey : orderItem r s item = orderKey s (.text name) words := by
    rw [orderItem, hitem]
    simp [bind, Except.bind, h.token_eq]
  rw [hkey, orderKey, h.splitCast_eq]
  simp only [bind, Except.bind, h.parse]
  split
  · exact absurd rfl h.single.1
  · exact absurd rfl h.single.2
  · rw [hresolve]
    simp only [h.castKey_eq origin]
    split
    · rfl
    · cases hdirection : directionOf words with
      | error e => rfl
      | ok direction =>
        have hne : direction ≠ "" := by
          rintro rfl
          exact absurd (mem_of_directionOf hdirection) (by decide)
        exact Predicate.concat_text h.no_dollar (inert_of_directionOf hdirection).no_dollar
          h.ne_empty hne

lemma expression_eq (h : NamesField s name k expr kind) (unique : Bool) :
    (IndexSpec.mk s.entity (.text name) s.schema .null unique).expression s.procedures =
      .ok (Cast.indexExpression ((Cast.kind kind).applyTo expr)) := by
  obtain ⟨origin, hresolve⟩ := h.resolve false (.list [])
  have hresolved : (IndexSpec.mk s.entity (.text name) s.schema .null unique).resolved
      s.procedures = .ok (k, ⟨expr, [], origin⟩) := by
    rw [IndexSpec.resolved, h.parse]
    simp only [bind, Except.bind]
    split
    · exact absurd rfl h.single.1
    · rw [hresolve]
      rfl
  rw [IndexSpec.expression, hresolved]
  simp [bind, Except.bind, h.cast, IndexSpec.typeColumn, Value.asText?]

end NamesField

/-! ### Filters of one member -/

/-- A mapping of one member is its only equality, whichever way it is matched. -/
lemma condition_eq {r : FunctionRegistry} {s : Scope} {name v m : Value} {f : Filter}
    {p : Predicate} (hm : m = .text "all" ∨ m = .text "any")
    (hf : Filter.comparison name v = .ok f) (hp : Filter.compile s f = .ok p)
    (hne : p.isEmpty = false) : Filter.condition r s m (.dict [(name, v)]) = .ok p := by
  have hall : Filter.compileAll s [f] = .ok [p] := by
    rw [Filter.compileAll, hp]
    rfl
  have hjoin : ∀ op, Predicate.join [p] op = .ok p := fun op => by
    rw [Predicate.join, List.filter_cons_of_pos (by simp [hne])]
    rfl
  have hparse : ∀ op, Filter.parse r op (.dict [(name, v)]) =
      .ok (some (Filter.joined op [f])) := fun op => by
    simp [Filter.parse, Filter.ofMembers, Filter.comparisons, bind, Except.bind, hf, Except.map]
  rcases hm with rfl | rfl
  · have hoperator : Filter.matchOperator (.text "all") = .ok .and := by rfl
    rw [Filter.condition, hoperator]
    simp only [bind, Except.bind, hparse, Filter.joined, Filter.compile?, Filter.compile, hall,
      hjoin]
  · have hoperator : Filter.matchOperator (.text "any") = .ok .or := by rfl
    rw [Filter.condition, hoperator]
    simp only [bind, Except.bind, hparse, Filter.joined, Filter.compile?, Filter.compile, hall,
      hjoin]

lemma isNull_of_isScalar {v : Value} (h : Filter.isScalar v = true) :
    v.isNull = false ∧ v.isStructured = false := by
  cases v <;> first | exact ⟨rfl, rfl⟩ | simp [Filter.isScalar] at h

lemma checkedValue_of_isScalar (k : FieldKey) {v : Value}
    (h : Filter.isScalar v.normalize = true) : Filter.checkedValue k v = .ok v.normalize := by
  simp [Filter.checkedValue, h]

lemma breaks_equals : Breaks " = $".toList := by decide

lemma breaks_jsonb : Breaks ")::jsonb = $::jsonb".toList := by decide

/-- A list or mapping is compared as JSON. -/
lemma compareJson_eq {expr json : String} {v : Value} (hclosed : Closed expr.toList)
    (hdollar : '$' ∉ expr.toList) (hjson : Json.write v = .ok json) :
    Filter.compareJson expr v = .ok ⟨"(" ++ expr ++ ")::jsonb = $1::jsonb", [.text json], []⟩ := by
  have hopened : Closed ("(" ++ expr).toList :=
    closed_append (by decide) hclosed
  have hplain : '$' ∉ ("(" ++ expr).toList := by simp [hdollar]
  rw [Filter.compareJson, Filter.jsonText, hjson]
  exact Predicate.ofText_append hopened hplain breaks_jsonb rfl

namespace NamesField

variable {s : Scope} {name expr : String} {k : FieldKey} {kind : CastKind}

/-- A property with a declared type is compared under the cast of that type. -/
lemma condition_property (r : FunctionRegistry) (h : NamesField s name k expr kind)
    {path : List String} (hk : k = .path path) (hdeclared : Schema.declaredType? s.schema k ≠ none)
    {v m : Value} (hv : Filter.isScalar v.normalize = true)
    (hm : m = .text "all" ∨ m = .text "any") :
    Filter.condition r s m (.dict [(.text name, v)]) =
      .ok ⟨(Cast.kind kind).applyTo expr ++ " = $1",
        [Filter.castParam kind v.normalize], []⟩ := by
  obtain ⟨origin, hresolve⟩ := h.resolve false (.list [])
  obtain ⟨hnull, hstructured⟩ := isNull_of_isScalar hv
  have hkind : Filter.comparisonKind s k v.normalize = .ok kind := by
    rw [Filter.comparisonKind]
    split
    · exact h.cast
    · next hnone => exact absurd hnone hdeclared
  have hcomparison : Filter.comparison (.text name) v = .ok (.property k v.normalize) := by
    rw [Filter.comparison, h.parse]
    subst hk
    simp [bind, Except.bind, checkedValue_of_isScalar _ hv]
  have hcompile : Filter.compile s (.property k v.normalize) =
      .ok ⟨(Cast.kind kind).applyTo expr ++ " = $1",
        [Filter.castParam kind v.normalize], []⟩ := by
    rw [Filter.compile, Filter.compileProperty, hresolve]
    simp only [bind, Except.bind, hnull, hstructured, hkind]
    exact Predicate.ofText_append h.closed h.no_dollar breaks_equals rfl
  exact condition_eq hm hcomparison hcompile (by simp [Predicate.isEmpty])

/-- A column is compared as it is. -/
lemma condition_column (r : FunctionRegistry) {c : String}
    (h : NamesField s name (.column c) c .direct) {v m : Value}
    (hm : m = .text "all" ∨ m = .text "any") :
    (Filter.isScalar v.normalize = true →
      Filter.condition r s m (.dict [(.text name, v)]) =
        .ok ⟨c ++ " = $1", [v.normalize], []⟩) ∧
    (v.normalize.isNull = true →
      Filter.condition r s m (.dict [(.text name, v)]) = .ok ⟨c ++ " IS NULL", [], []⟩) ∧
    ∀ json, v.normalize.isStructured = true → Json.write v.normalize = .ok json →
      Filter.condition r s m (.dict [(.text name, v)]) =
        .ok ⟨"(" ++ c ++ ")::jsonb = $1::jsonb", [.text json], []⟩ := by
  obtain ⟨origin, hresolve⟩ := h.resolve false (.list [])
  have hcomparison : Filter.checkedValue (.column c) v = .ok v.normalize →
      Filter.comparison (.text name) v = .ok (.column (.column c) v.normalize) := by
    intro hchecked
    rw [Filter.comparison, h.parse]
    simp [bind, Except.bind, hchecked]
  refine ⟨fun hscalar => ?_, fun hnull => ?_, fun json hstructured hjson => ?_⟩
  · obtain ⟨hnull, hstructured⟩ := isNull_of_isScalar hscalar
    refine condition_eq hm (hcomparison (checkedValue_of_isScalar _ hscalar)) ?_
      (by simp [Predicate.isEmpty])
    rw [Filter.compile, Filter.compileColumn, hresolve]
    simp only [bind, Except.bind, hnull, hstructured]
    exact Predicate.ofText_append h.closed h.no_dollar breaks_equals rfl
  · refine condition_eq hm (hcomparison (by simp [Filter.checkedValue, hnull])) ?_
      (by simp [Predicate.isEmpty])
    rw [Filter.compile, Filter.compileColumn, hresolve]
    simp only [bind, Except.bind, hnull, if_true]
    have hdollar : '$' ∉ c.toList := h.no_dollar
    exact Predicate.make_of_count (countPlaceholders_of_no_dollar (by simp [hdollar])) []
  · have hnull : v.normalize.isNull = false := by
      cases hv : v.normalize <;> simp [hv, Value.isStructured, Value.isNull] at hstructured ⊢
    have hscalar : Filter.isScalar v.normalize = false := by
      cases hv : v.normalize <;> simp [hv, Value.isStructured, Filter.isScalar] at hstructured ⊢
    refine condition_eq hm (hcomparison ?_) ?_ (by simp [Predicate.isEmpty])
    · simp [Filter.checkedValue, hnull, hscalar, hstructured, hjson]
    · rw [Filter.compile, Filter.compileColumn, hresolve]
      simp only [bind, Except.bind, hnull, hstructured, if_true]
      exact compareJson_eq h.closed h.no_dollar hjson

end NamesField

/-! ### Fields of plain entities -/

/-- The text is the dotted path of a property: its components have letters and digits of ASCII,
underscores and hyphens, at least one. -/
def IsPropertyName (s : String) : Prop :=
  (Text.splitAll '.' s.toList).all FieldKey.isComponent = true

instance (s : String) : Decidable (IsPropertyName s) := inferInstanceAs (Decidable (_ = true))

lemma isPathChar_of_isPropertyName {name : String} (h : IsPropertyName name) :
    ∀ c ∈ name.toList, c = '.' ∨ FieldKey.isPathChar c = true := by
  intro c hc
  rcases Text.mem_splitAll_or_eq '.' hc with hdot | ⟨part, hpart, hmem⟩
  · exact Or.inl hdot
  · have hcomponent := List.all_eq_true.1 h part hpart
    simp only [FieldKey.isComponent, Bool.and_eq_true, List.all_eq_true] at hcomponent
    exact Or.inr (hcomponent.2 c hmem)

lemma ofText?_of_isPropertyName {name : String} (h : IsPropertyName name) :
    FieldKey.ofText? name = some (.path (Text.split '.' name)) := by
  have hne : ∀ d, d ≠ '.' → FieldKey.isPathChar d = false → d ∉ name.toList := by
    intro d hdot hd hmem
    rcases isPathChar_of_isPropertyName h d hmem with heq | hpath
    · exact hdot heq
    · simp [hpath] at hd
  have hdrop : FieldKey.dropLineEnd name.toList = name.toList :=
    FieldKey.dropLineEnd_of_not_mem (hne '\n' (by decide) (by decide))
  unfold FieldKey.ofText?
  split
  · next rest heq => exact absurd (by simp [heq]) (hne '$' (by decide) (by decide))
  · rw [FieldKey.isPath, hdrop]
    exact if_pos h

lemma isSolid_of_mem_split {name : String} (h : IsPropertyName name) :
    ∀ part ∈ Text.split '.' name, IsSolid part := by
  intro part hpart
  obtain ⟨cs, hcs, rfl⟩ := List.mem_map.1 hpart
  have hcomponent := List.all_eq_true.1 h cs hcs
  simp only [FieldKey.isComponent, Bool.and_eq_true, List.all_eq_true] at hcomponent
  constructor <;> intro hmem <;> have hc := hcomponent.2 _ (by simpa using hmem) <;>
    revert hc <;> decide

lemma no_dollar_applyTo {container : String} (hcontainer : IsPlainName container)
    {path : List String} (hpath : ∀ part ∈ path, Inert part)
    (hblank : ∀ part ∈ path, ' ' ∉ part.toList) (kind : CastKind) :
    '$' ∉ ((Cast.kind kind).applyTo (navigate container .json path)).toList := by
  have hdollar : ∀ access, '$' ∉ (navigate container access path).toList := fun access =>
    FieldKey.no_dollar_navigate hcontainer.inert.no_dollar access hpath
  cases kind with
  | direct => exact hdollar .json
  | text =>
    rw [Cast.applyTo, Cast.asText_navigate hcontainer.isSolid.no_blank hblank]
    exact hdollar .text
  | boolean => simp [Cast.applyTo, hdollar .json]
  | numeric => simp [Cast.applyTo, hdollar .json]

/-- The path of a property names a field. -/
lemma namesField_path {s : Scope} (he : s.entity.IsPlain) {name : String}
    (hname : IsPropertyName name) (hword : name ∉ operatorWords) :
    NamesField s name (.path (Text.split '.' name))
      (navigate s.entity.container .json (Text.split '.' name))
      (CastKind.ofDeclared (Schema.declaredType? s.schema (.path (Text.split '.' name)))) := by
  have hread := ofText?_of_isPropertyName hname
  have hinert := FieldKey.inert_of_isRead ⟨name, hread⟩
  have hsolid := isSolid_of_mem_split hname
  have hblank : ∀ part ∈ Text.split '.' name, ' ' ∉ part.toList := fun part hpart =>
    (hsolid part hpart).no_blank
  have hcontainer := he.container.inert
  have hdollar := FieldKey.no_dollar_navigate hcontainer.no_dollar .json hinert
  have hclosed := FieldKey.closed_navigate .json hcontainer hinert
  refine ⟨?_, ?_, hword, by simp, ?_, rfl, Cast.closed_applyTo (by intro n hn; cases hn) hclosed,
    ?_, ?_⟩
  · simp [FieldKey.parse, Value.asText?, hread]
  · intro hmem
    rcases isPathChar_of_isPropertyName hname _ hmem with heq | hpath
    · exact absurd heq (by decide)
    · exact absurd hpath (by decide)
  · intro epoch documents
    exact ⟨_, Predicate.make_of_count (countPlaceholders_of_no_dollar hdollar) _⟩
  · exact no_dollar_applyTo he.container hinert hblank _
  · have hne : ∀ access, navigate s.entity.container access (Text.split '.' name) ≠ "" := by
      intro access hempty
      obtain ⟨inner, heq, -⟩ := Cast.enclosed_navigate he.container.isSolid hsolid access
      simp [hempty] at heq
    generalize CastKind.ofDeclared _ = kind
    cases kind with
    | direct => exact hne .json
    | text =>
      rw [Cast.applyTo, Cast.asText_navigate he.container.isSolid.no_blank hblank]
      exact hne .text
    | boolean => simp [Cast.applyTo]
    | numeric => simp [Cast.applyTo]

lemma hasColumn_of_mem_keys {e : Entity} {c : String} (hkey : "$" ++ c ∈ e.keys)
    (hcomputed : "$" ++ c ≠ Entity.computedKey) : e.hasColumn c = true := by
  have hunmarked : Entity.unmarked ("$" ++ c) = c := by simp [Entity.unmarked]
  have hmem : Entity.unmarked ("$" ++ c) ∈ e.columns :=
    List.mem_map_of_mem (List.mem_filter.2 ⟨hkey, by simpa using hcomputed⟩)
  rw [hunmarked] at hmem
  simpa [Entity.hasColumn] using hmem

/-- The key of a column names a field. -/
lemma namesField_column {s : Scope} (he : s.entity.IsPlain) {c : String}
    (hkey : "$" ++ c ∈ s.entity.keys) (hcomputed : "$" ++ c ≠ Entity.computedKey)
    (htimestamp : c ∉ FieldKey.timestampColumns) :
    NamesField s ("$" ++ c) (.column c) c .direct := by
  have hcolumn := hasColumn_of_mem_keys hkey hcomputed
  have hplain := he.of_hasColumn hcolumn
  have hno : ∀ d, FieldKey.isNameChar d = false → d ∉ c.toList := fun d hd hmem => by
    simp [hplain.isNameChar d hmem] at hd
  have hread : FieldKey.ofText? ("$" ++ c) = some (.column c) := by
    have hstar : c ≠ "*" := by
      rintro rfl
      exact hno '*' (by decide) (by decide)
    have hrelations : c ≠ FieldKey.relationsColumn := by
      rintro rfl
      exact hcomputed (by decide)
    have hname : FieldKey.isColumnName c.toList = true := by
      rw [FieldKey.isColumnName, FieldKey.dropLineEnd_of_not_mem (hno '\n' (by decide))]
      exact hplain
    have htext : ("$" ++ c).toList = '$' :: c.toList := by simp
    rw [FieldKey.ofText?, htext]
    simp [hstar, hrelations, htimestamp, hname]
  refine ⟨?_, ?_, ?_, by simp, ?_, by simp [CastKind.ofKey, hcolumn], hplain.inert.closed,
    hplain.inert.no_dollar, ?_⟩
  · simp [FieldKey.parse, Value.asText?, hread]
  · simpa using hno ':' (by decide)
  · intro hmem
    have hall : ∀ word ∈ operatorWords, '$' ∉ word.toList := by decide
    exact hall _ hmem (by simp)
  · intro epoch documents
    refine ⟨[(.text "key", .text c)], ?_⟩
    rw [FieldKey.resolve, FieldKey.resolveColumn, hcolumn]
    · exact Predicate.make_of_count (countPlaceholders_of_no_dollar hplain.inert.no_dollar) _
    · simp
  · rintro rfl
    exact absurd hplain (by decide)

/-! ### What filters, orders, groups and indexes use -/

/-- Orders, groups and an index over a field use an expression: the order is the expression, with
its direction behind it if one is given, the group is the expression, and the index has it in the
form in which the catalog reports it. -/
structure UsesExpression (r : FunctionRegistry) (s : Scope) (name expr indexed : String) :
    Prop where
  /-- To order by the field without a direction. -/
  order : ∀ item ∈ [.text name, .list [.text name], .tuple [.text name]],
    ∃ origin, orderItem r s item = .ok ⟨expr, [], origin⟩
  /-- To order by the field with a direction. -/
  directed : ∀ words direction, words ≠ [] → directionOf words = .ok direction →
    orderItem r s (.list (.text name :: words)) = .ok ⟨expr ++ " " ++ direction, [], []⟩
  /-- To group by the field. -/
  group : ∃ origin, groupItem s (.text name) = .ok ⟨expr, [], origin⟩
  /-- To index the field. -/
  index : ∀ unique, (IndexSpec.mk s.entity (.text name) s.schema .null unique).expression
    s.procedures = .ok indexed

lemma NamesField.usesExpression (r : FunctionRegistry) {s : Scope} {name expr : String}
    {k : FieldKey} {kind : CastKind} (h : NamesField s name k expr kind) :
    UsesExpression r s name ((Cast.kind kind).applyTo expr)
      (Cast.indexExpression ((Cast.kind kind).applyTo expr)) where
  order item hitem := by
    have hparts : orderParts item = .ok (.text name, []) := by
      simp only [List.mem_cons, List.not_mem_nil, or_false] at hitem
      rcases hitem with rfl | rfl | rfl <;> rfl
    exact h.orderItem_eq r hparts
  directed words direction hne hdirection := by
    have hparts : orderParts (.list (.text name :: words)) = .ok (.text name, words) := rfl
    obtain ⟨origin, hitem⟩ := h.orderItem_eq r hparts
    rw [hitem, if_neg (by simpa using hne), hdirection]
    rfl
  group := h.groupItem_eq
  index := h.expression_eq

/-- Filters, orders, groups and indexes use the same expression of a field. For a property with a
declared type, the filter that a mapping of its path to a scalar describes compares that expression
with one parameter, and the index has it in parentheses. For a column other than the moments it is
the bare name of the column everywhere, whatever the filter compares it with. -/
theorem expression_shared (r : FunctionRegistry) (s : Scope) (he : s.entity.IsPlain) :
    (∀ name, IsPropertyName name → name ∉ operatorWords →
      Schema.declaredType? s.schema (.path (Text.split '.' name)) ≠ none →
      ∃ expr, UsesExpression r s name expr ("(" ++ expr ++ ")") ∧
        ∀ v m, Filter.isScalar v.normalize = true → m = .text "all" ∨ m = .text "any" →
          ∃ param, Filter.condition r s m (.dict [(.text name, v)]) =
            .ok ⟨expr ++ " = $1", [param], []⟩) ∧
    ∀ c, "$" ++ c ∈ s.entity.keys → "$" ++ c ≠ Entity.computedKey →
      c ∉ FieldKey.timestampColumns →
      UsesExpression r s ("$" ++ c) c c ∧
        ∀ v m, m = .text "all" ∨ m = .text "any" →
          (Filter.isScalar v.normalize = true →
            Filter.condition r s m (.dict [(.text ("$" ++ c), v)]) =
              .ok ⟨c ++ " = $1", [v.normalize], []⟩) ∧
          (v.normalize.isNull = true →
            Filter.condition r s m (.dict [(.text ("$" ++ c), v)]) =
              .ok ⟨c ++ " IS NULL", [], []⟩) ∧
          ∀ json, v.normalize.isStructured = true → Json.write v.normalize = .ok json →
            Filter.condition r s m (.dict [(.text ("$" ++ c), v)]) =
              .ok ⟨"(" ++ c ++ ")::jsonb = $1::jsonb", [.text json], []⟩ := by
  constructor
  · intro name hname hword hdeclared
    have hfield := namesField_path he hname hword
    refine ⟨_, ?_, fun v m hv hm => ⟨_, hfield.condition_property r rfl hdeclared hv hm⟩⟩
    have huses := hfield.usesExpression r
    rwa [Cast.indexExpression_navigate he.container.isSolid (isSolid_of_mem_split hname)] at huses
  · intro c hkey hcomputed htimestamp
    have hfield := namesField_column he hkey hcomputed htimestamp
    refine ⟨?_, fun v m hm => hfield.condition_column r hm⟩
    have huses := hfield.usesExpression r
    have hbare := Cast.indexExpression_name
      (he.of_hasColumn (hasColumn_of_mem_keys hkey hcomputed))
    rwa [Cast.applyTo, hbare] at huses

/-- A schema that declares a number one level down. -/
def sizeSchema : Value :=
  .dict [(.text "properties", .dict [(.text "body", .dict [(.text "properties",
    .dict [(.text "size-cm", .dict [(.text "type", .text "integer")])])])])]

/-- Documents under that schema. -/
def sizeScope : Scope := ⟨.standard, .document, sizeSchema, .null⟩

/-- A property one level down, and a column. -/
theorem sizeField_shared :
    sizeScope.entity.IsPlain ∧ IsPropertyName "body.size-cm" ∧ "body.size-cm" ∉ operatorWords ∧
      Schema.declaredType? sizeSchema (.path ["body", "size-cm"]) = some "integer" ∧
      (∃ expr, UsesExpression [] sizeScope "body.size-cm" expr ("(" ++ expr ++ ")") ∧
        expr = "(((content #> '\x7bbody,size-cm\x7d'))::text)::numeric" ∧
        ∃ param, Filter.condition [] sizeScope (.text "all")
          (.dict [(.text "body.size-cm", .text "12")]) = .ok ⟨expr ++ " = $1", [param], []⟩) ∧
      "$types_id" ∈ sizeScope.entity.keys ∧
      UsesExpression [] sizeScope "$types_id" "types_id" "types_id" := by
  have he : sizeScope.entity.IsPlain := Entity.isPlain_of_mem_builtIn _ (by decide)
  have hname : IsPropertyName "body.size-cm" := by decide
  have hword : "body.size-cm" ∉ operatorWords := by decide
  have hdeclared : Schema.declaredType? sizeSchema (.path ["body", "size-cm"]) =
      some "integer" := by decide +kernel
  obtain ⟨hproperty, hcolumn⟩ := expression_shared [] sizeScope he
  obtain ⟨expr, huses, hfilter⟩ := hproperty "body.size-cm" hname hword
    (ne_of_eq_of_ne hdeclared (by simp))
  refine ⟨he, hname, hword, hdeclared, ⟨expr, huses, ?_, hfilter _ _ rfl (Or.inl rfl)⟩,
    by decide, (hcolumn "types_id" (by decide) (by decide) (by decide)).1⟩
  obtain ⟨origin, hgroup⟩ := huses.group
  have hvalue : (groupItem sizeScope (.text "body.size-cm")).map (·.text) =
      .ok "(((content #> '\x7bbody,size-cm\x7d'))::text)::numeric" := by rfl
  rw [hgroup] at hvalue
  exact Except.ok.inj hvalue

end Search

end DocumentSql

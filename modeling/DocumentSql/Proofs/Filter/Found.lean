/-
What is stored is found by equality.

The document is written as JSON into the column of its container, and the condition of a key reads
it from there under a cast, while the value that it is compared with goes another way: it is
handed over as a parameter.  Both arrive at the same value for each of the casts that the key may
have, the one of the value itself and the one to text (`castOf_agrees`).  So the condition that a
key equals what the document holds at its path is true of the document
(`condition_holds_of_stored`).
-/
import DocumentSql.Proofs.Search.Expression
import DocumentSql.Proofs.Sql.Evaluation

namespace DocumentSql

open Sql

/-! ### Stored values -/

/-- The types that a schema may declare for a JSON value. -/
def Value.jsonTypes : Value → List String
  | .null => ["null"]
  | .bool _ => ["boolean"]
  | .int _ | .float _ => ["number", "integer"]
  | .text _ => ["string"]
  | .list _ => ["array"]
  | .dict _ => ["object"]
  | _ => []

/-- What a JSON value holds at a path is a JSON value. -/
lemma Row.isJson_of_heldAt {path : List String} {doc v : Value} (hdoc : doc.IsJson)
    (h : heldAt path doc = some v) : v.IsJson := by
  induction path generalizing doc with
  | nil =>
    obtain rfl : doc = v := Option.some.inj h
    exact hdoc
  | cons name path ih =>
    obtain ⟨w, hw, hv⟩ := Option.bind_eq_some_iff.1 h
    cases doc with
    | dict ms => exact ih (hdoc.getText? hw) hv
    | _ => simp [membersOf] at hw

/-- The kinds of JSON values that conditions tell apart. -/
lemma Value.IsJson.cases {v : Value} (h : v.IsJson) :
    v = .null ∨ v.isStructured = true ∨ Filter.isScalar v = true := by
  cases v <;> simp_all [Value.IsJson, Value.isStructured, Filter.isScalar]

namespace Filter

open FieldKey (not_mem_of_isRead no_blank_of_isRead)

/-! ### Numbers -/

lemma numericEq_self (negative : Bool) (c : ℕ) (e : ℤ) :
    (Decimal.finite negative c e).numericEq (.finite negative c e) = true := by
  simp [Decimal.numericEq, Decimal.ratio?]

/-- The token of a number is the numeral of the decimal that the number is handed over as. -/
lemma exists_decimal {v : Value} (hv : v.IsJson) (hkind : kindOfValue v = .numeric) :
    ∃ token negative c e, Json.write v = .ok token ∧
      Decimal.ofText? token = some (.finite negative c e) ∧
      Datum.ofValue? v = some (.numeric (.finite negative c e)) := by
  cases v with
  | int n =>
    have hread := DecimalText.ofText?_signed (decide (n < 0)) (DecimalText.isProper_ofNat n.natAbs)
    rw [← Json.toList_toString, String.ofList_toList] at hread
    exact ⟨toString n, _, _, _, rfl, hread, by simp [Datum.ofValue?]⟩
  | float x =>
    obtain ⟨t, ht, htext, -⟩ := Binary.exists_writeFloat hv
    have hread := DecimalText.ofText?_signed x.isNegative ht
    rw [← htext, String.ofList_toList] at hread
    refine ⟨Json.writeFloat x, _, _, _, rfl, hread, ?_⟩
    rw [Datum.ofValue?, Binary.text_eq_writeFloat (Binary.IsKept.isFinite hv), hread]
    rfl
  | _ => first | exact hv.elim | simp [kindOfValue, extended] at hkind

/-! ### Expressions under casts -/

/-- The expression of a path under a cast. -/
def castOf (container : String) (path : List String) : CastKind → Expr
  | .direct => .navigation container .json path
  | .text => .navigation container .text path
  | .numeric => .cast (.cast (.navigation container .json path) .text) .numeric
  | .boolean => .isTrue (.cast (.cast (.navigation container .json path) .text) .boolean)

section

variable {container : String} {path : List String} (hcontainer : IsPlainName container)
  (hpath : ∀ part ∈ path, Inert part)

include hcontainer hpath

/-- The text of a path as a text, compared with nothing. -/
lemma read?_isNull : Expr.read? (navigate container .text path ++ " IS NULL") =
    some (.isNull (.navigation container .text path)) :=
  (isGroup_navigate hcontainer .text hpath).read?_append rfl fun _ => rfl

/-- The text of a path as JSON, in parentheses. -/
lemma isGroup_parenthesized : IsGroup ("(" ++ navigate container .json path ++ ")")
    (.navigation container .json path) := by
  have hgroup := (isGroup_navigate hcontainer .json hpath).enclosed "" [] rfl
    fun _ _ => rfl
  rwa [String.append_empty] at hgroup

/-- The text of a path as JSON, compared with JSON. -/
lemma read?_jsonb :
    Expr.read? ("(" ++ navigate container .json path ++ ")::jsonb = $1::jsonb") =
      some (.equal (.cast (.navigation container .json path) .jsonb)
        (.cast (.param 1) .jsonb)) := by
  have htext : "(" ++ navigate container .json path ++ ")::jsonb = $1::jsonb" =
      "(" ++ navigate container .json path ++ ")" ++ "::jsonb = $1::jsonb" := by
    rw [← String.toList_inj]
    simp
  rw [htext]
  exact (isGroup_parenthesized hcontainer hpath).read?_append rfl fun _ => rfl

/-- The text of a path under a cast, compared with a parameter. -/
lemma read?_castOf (hblank : ∀ part ∈ path, ' ' ∉ part.toList) (kind : CastKind) :
    Expr.read? ((Cast.kind kind).applyTo (navigate container .json path) ++ " = $1") =
      some (.equal (castOf container path kind) (.param 1)) := by
  have htoken : IsGroup ("(" ++ ("(" ++ navigate container .json path ++ ")") ++ "::text" ++ ")")
      (.cast (.navigation container .json path) .text) :=
    (isGroup_parenthesized hcontainer hpath).enclosed "::text"
      [.operator [':', ':'], .word ['t', 'e', 'x', 't']] rfl fun _ _ => rfl
  cases kind with
  | direct => exact (isGroup_navigate hcontainer .json hpath).read?_append rfl fun _ => rfl
  | text =>
    rw [Cast.applyTo, Cast.asText_navigate hcontainer.isSolid.no_blank hblank]
    exact (isGroup_navigate hcontainer .text hpath).read?_append rfl fun _ => rfl
  | numeric =>
    have htext : (Cast.kind .numeric).applyTo (navigate container .json path) ++ " = $1" =
        "(" ++ ("(" ++ navigate container .json path ++ ")") ++ "::text" ++ ")" ++
          "::numeric = $1" := by
      rw [← String.toList_inj]
      simp [Cast.applyTo]
    rw [htext]
    exact htoken.read?_append rfl fun _ => rfl
  | boolean =>
    have htruth := htoken.enclosed (f := .isTrue (.cast (.cast (.navigation container .json path)
      .text) .boolean)) "::boolean IS TRUE" [.operator [':', ':'],
        .word ['b', 'o', 'o', 'l', 'e', 'a', 'n'], .word ['I', 'S'],
        .word ['T', 'R', 'U', 'E']] rfl fun _ _ => rfl
    have htext : (Cast.kind .boolean).applyTo (navigate container .json path) ++ " = $1" =
        "(" ++ ("(" ++ ("(" ++ navigate container .json path ++ ")") ++ "::text" ++ ")") ++
          "::boolean IS TRUE" ++ ")" ++ " = $1" := by
      rw [← String.toList_inj]
      simp [Cast.applyTo]
    rw [htext]
    exact htruth.read?_append rfl fun _ => rfl

end

/-! ### The stored side and the parameter -/

/-- As text, a plain value is stored as what it is handed over as. -/
lemma ofJson?_text {v : Value} (hv : v.IsJson) (hscalar : isScalar v = true) :
    ∃ s, Datum.ofJson? .text v = some (.text s) ∧
      Datum.ofValue? (castParam .text v) = some (.text s) := by
  cases v with
  | bool b => cases b <;> exact ⟨_, rfl, rfl⟩
  | int n => exact ⟨_, rfl, rfl⟩
  | float x => exact ⟨_, rfl, rfl⟩
  | text s => exact ⟨s, rfl, rfl⟩
  | _ => first | exact hv.elim | simp [isScalar] at hscalar

/-- Under the cast of the value itself and under the one to text, what is stored at a path is
equal to the value as a parameter. -/
theorem castOf_agrees {container stored : String} {path : List String} {doc v : Value} {env : Env}
    (hcolumn : env.column container = some (.json stored)) (hstored : Json.read? stored = some doc)
    (hcomma : ∀ part ∈ path, ',' ∉ part.toList) (hheld : Row.heldAt path doc = some v)
    (hv : v.IsJson) (hscalar : isScalar v = true) {kind : CastKind}
    (hkind : kind = .text ∨ kind = kindOfValue v) :
    ∃ d d', (castOf container path kind).eval? env = some d ∧
      Datum.ofValue? (castParam kind v) = some d' ∧ d.equal? d' = some (.bool true) := by
  have hreached := Expr.eval?_navigation hcolumn hstored hcomma hheld
  have htext : kind = .text → ∃ d d', (castOf container path kind).eval? env = some d ∧
      Datum.ofValue? (castParam kind v) = some d' ∧ d.equal? d' = some (.bool true) := by
    rintro rfl
    obtain ⟨s, hs, hparam⟩ := ofJson?_text hv hscalar
    exact ⟨.text s, .text s, by rw [castOf, hreached, hs], hparam, by simp [Datum.equal?]⟩
  rcases hkind with hkind | rfl
  · exact htext hkind
  · cases hvalue : kindOfValue v with
    | direct => cases v <;> simp_all [kindOfValue, extended, isScalar]
    | text => exact hvalue ▸ htext hvalue
    | numeric =>
      obtain ⟨token, negative, c, e, hwrite, hdecimal, hparam⟩ := exists_decimal hv hvalue
      have hjson : Datum.ofJson? .json v = some (.json token) := by
        simp [Datum.ofJson?, hwrite, Except.toOption]
      have hself : castParam .numeric v = v := by
        cases v <;> first | rfl | simp [kindOfValue, extended] at hvalue
      refine ⟨.numeric (.finite negative c e), .numeric (.finite negative c e), ?_, ?_, ?_⟩
      · simp [castOf, Expr.eval?, hreached, hjson, Datum.cast?, hdecimal]
      · rw [hself, hparam]
      · simp [Datum.equal?, numericEq_self]
    | boolean =>
      cases v with
      | bool b =>
        refine ⟨.bool b, .bool b, ?_, rfl, by simp [Datum.equal?]⟩
        rw [castOf, Expr.eval?, Expr.eval?, Expr.eval?, hreached]
        cases b <;> rfl
      | _ => first | exact hv.elim | simp [kindOfValue, extended] at hvalue

/-! ### Conditions of paths -/

section

variable {s : Scope} {path : List String} (hcontainer : IsPlainName s.entity.container)
  (hread : (FieldKey.path path).IsRead)

include hcontainer hread

lemma resolve_path : ∃ origin, (FieldKey.path path).resolve s.procedures s.entity false (.list []) =
    .ok ⟨navigate s.entity.container .json path, [], origin⟩ := by
  have hdollar := FieldKey.no_dollar_navigate hcontainer.inert.no_dollar .json
    (FieldKey.inert_of_isRead hread)
  exact ⟨_, Predicate.make_of_count (countPlaceholders_of_no_dollar hdollar) _⟩

/-- Nothing is looked for as text. -/
lemma compileProperty_null : compileProperty s (.path path) .null =
    .ok ⟨navigate s.entity.container .text path ++ " IS NULL", [], []⟩ := by
  have hdollar := FieldKey.no_dollar_navigate hcontainer.inert.no_dollar .text
    (FieldKey.inert_of_isRead hread)
  obtain ⟨origin, hresolve⟩ := resolve_path hcontainer hread
  rw [compileProperty, hresolve]
  simp only [bind, Except.bind, Value.isNull, if_true,
    Cast.asText_navigate hcontainer.isSolid.no_blank (no_blank_of_isRead hread)]
  exact Predicate.make_of_count (countPlaceholders_of_no_dollar (by simp [hdollar])) []

/-- Lists and mappings are looked for as JSON. -/
lemma compileProperty_structured {v : Value} (hv : v.isStructured = true) {json : String}
    (hjson : Json.write v = .ok json) : compileProperty s (.path path) v =
      .ok ⟨"(" ++ navigate s.entity.container .json path ++ ")::jsonb = $1::jsonb",
        [.text json], []⟩ := by
  have hpath := FieldKey.inert_of_isRead hread
  have hclosed := FieldKey.closed_navigate .json hcontainer.inert hpath
  have hnull : v.isNull = false := by
    cases v <;> first | rfl | simp [Value.isStructured] at hv
  obtain ⟨origin, hresolve⟩ := resolve_path hcontainer hread
  rw [compileProperty, hresolve]
  simp only [bind, Except.bind, hnull, hv, if_true]
  exact Search.compareJson_eq hclosed
    (FieldKey.no_dollar_navigate hcontainer.inert.no_dollar .json hpath) hjson

/-- Scalars are looked for under a cast. -/
lemma compileProperty_scalar {v : Value} (hv : isScalar v = true) {kind : CastKind}
    (hkind : comparisonKind s (.path path) v = .ok kind) : compileProperty s (.path path) v =
      .ok ⟨(Cast.kind kind).applyTo (navigate s.entity.container .json path) ++ " = $1",
        [castParam kind v], []⟩ := by
  have hpath := FieldKey.inert_of_isRead hread
  have hclosed := FieldKey.closed_navigate .json hcontainer.inert hpath
  obtain ⟨hnull, hstructured⟩ := Search.isNull_of_isScalar hv
  obtain ⟨origin, hresolve⟩ := resolve_path hcontainer hread
  rw [compileProperty, hresolve]
  simp only [bind, Except.bind, hnull, hstructured, hkind]
  exact Predicate.ofText_append (Cast.closed_applyTo (by rintro n ⟨⟩) hclosed)
    (Search.no_dollar_applyTo hcontainer hpath (no_blank_of_isRead hread) kind)
    Search.breaks_equals rfl

end

/-- A JSON value is compared as it is. -/
lemma checkedValue_of_isJson (k : FieldKey) {v : Value} (hv : v.IsJson) :
    checkedValue k v = .ok v := by
  obtain ⟨json, hjson, -⟩ := Json.exists_write hv
  rw [checkedValue, hv.normalize_eq]
  rcases hv.cases with rfl | hstructured | hscalar
  · rfl
  · simp [hstructured, hjson]
  · simp [hscalar]

/-- A mapping of one path to a JSON value is the comparison of the path with the value. -/
lemma condition_path (r : FunctionRegistry) {s : Scope} {name : Value} {path : List String}
    (hname : FieldKey.parse name = .ok (.path path)) {v m : Value} (hv : v.IsJson)
    (hm : m = .text "all" ∨ m = .text "any") {p : Predicate}
    (hp : compileProperty s (.path path) v = .ok p) (hne : p.isEmpty = false) :
    condition r s m (.dict [(name, v)]) = .ok p := by
  have hcomparison : comparison name v = .ok (.property (.path path) v) := by
    rw [comparison, hname]
    simp [bind, Except.bind, checkedValue_of_isJson _ hv]
  exact Search.condition_eq hm hcomparison (by rw [compile, hp]) hne

/-- A scalar is compared under the cast to text or under its own one, when the schema declares
nothing for the key, a text or the type of the scalar. -/
lemma exists_comparisonKind {s : Scope} {path : List String} {v : Value} (hv : v.IsJson)
    (hscalar : isScalar v = true)
    (hdeclared : ∀ t, Schema.declaredType? s.schema (.path path) = some t →
      t = "string" ∨ t ∈ v.jsonTypes) :
    ∃ kind, comparisonKind s (.path path) v = .ok kind ∧ (kind = .text ∨ kind = kindOfValue v) := by
  rw [comparisonKind]
  cases ht : Schema.declaredType? s.schema (.path path) with
  | none => exact ⟨_, rfl, Or.inr rfl⟩
  | some t =>
    refine ⟨CastKind.ofDeclared (some t), by simp [CastKind.ofKey, ht], ?_⟩
    rcases hdeclared t ht with rfl | hmem
    · exact Or.inl rfl
    · right
      cases v with
      | bool b =>
        obtain rfl : t = "boolean" := by simpa [Value.jsonTypes] using hmem
        rfl
      | int n =>
        have hnumber : t = "number" ∨ t = "integer" := by simpa [Value.jsonTypes] using hmem
        rcases hnumber with rfl | rfl <;> rfl
      | float x =>
        have hnumber : t = "number" ∨ t = "integer" := by simpa [Value.jsonTypes] using hmem
        rcases hnumber with rfl | rfl <;> rfl
      | text s =>
        obtain rfl : t = "string" := by simpa [Value.jsonTypes] using hmem
        rfl
      | _ => first | exact hv.elim | simp [isScalar] at hscalar

/-! ### Finding what is stored -/

/-- The condition that a key equals what a document holds at its path is true of the document, as
it is stored: in the column of the data container, as its JSON text. The schema may declare for
the key nothing, a text or the type of the value. -/
theorem condition_holds_of_stored (r : FunctionRegistry) {s : Scope}
    (hcontainer : IsPlainName s.entity.container) {name : Value} {path : List String}
    (hname : FieldKey.parse name = .ok (.path path)) (hread : (FieldKey.path path).IsRead)
    {doc v m : Value} (hdoc : doc.IsJson) (hheld : Row.heldAt path doc = some v)
    (hdeclared : ∀ t, Schema.declaredType? s.schema (.path path) = some t →
      t = "string" ∨ t ∈ v.jsonTypes) (hm : m = .text "all" ∨ m = .text "any") :
    ∃ stored p, Json.write doc = .ok stored ∧ condition r s m (.dict [(name, v)]) = .ok p ∧
      ∀ columns, columns s.entity.container = some (.json stored) →
        Holds p.text ⟨columns, p.params⟩ := by
  obtain ⟨stored, hstored, hback⟩ := Json.exists_write hdoc
  have hv := Row.isJson_of_heldAt hdoc hheld
  have hpath := FieldKey.inert_of_isRead hread
  have hcomma : ∀ part ∈ path, ',' ∉ part.toList :=
    not_mem_of_isRead hread (by unfold FieldKey.IsComponentChar; decide)
  have hcondition := fun {p} => condition_path r (s := s) hname hv hm (p := p)
  rcases hv.cases with rfl | hstructured | hscalar
  · refine ⟨stored, _, hstored, hcondition (compileProperty_null hcontainer hread)
      (by simp [Predicate.isEmpty]), fun columns hcolumn => ?_⟩
    have hreached : (Expr.navigation s.entity.container .text path).eval? ⟨columns, []⟩ =
        some .null := Expr.eval?_navigation hcolumn hback hcomma hheld .text
    rw [Holds, read?_isNull hcontainer hpath, Option.bind_some, Expr.eval?, hreached]
    rfl
  · obtain ⟨token, htoken, hvalue⟩ := Json.exists_write hv
    refine ⟨stored, _, hstored, hcondition
      (compileProperty_structured hcontainer hread hstructured htoken)
      (by simp [Predicate.isEmpty]), fun columns hcolumn => ?_⟩
    have hreached : (Expr.navigation s.entity.container .json path).eval?
        ⟨columns, [.text token]⟩ = some (.json token) := by
      rw [Expr.eval?_navigation hcolumn hback hcomma hheld .json, Datum.ofJson?, htoken]
      rfl
    rw [Holds, read?_jsonb hcontainer hpath, Option.bind_some]
    simp [Expr.eval?, hreached, Datum.ofValue?, Datum.cast?, hvalue, Datum.equal?,
      Value.jsonEq_refl hv]
  · obtain ⟨kind, hkind, hsuits⟩ := exists_comparisonKind hv hscalar hdeclared
    refine ⟨stored, _, hstored, hcondition
      (compileProperty_scalar hcontainer hread hscalar hkind)
      (by simp [Predicate.isEmpty]), fun columns hcolumn => ?_⟩
    have hagrees : ∃ d d', (castOf s.entity.container path kind).eval?
        ⟨columns, [castParam kind v]⟩ = some d ∧ Datum.ofValue? (castParam kind v) = some d' ∧
          d.equal? d' = some (.bool true) :=
      castOf_agrees hcolumn hback hcomma hheld hv hscalar hsuits
    obtain ⟨d, d', hd, hd', hequal⟩ := hagrees
    rw [Holds, read?_castOf hcontainer hpath (no_blank_of_isRead hread), Option.bind_some,
      Expr.eval?, hd]
    simp [Expr.eval?, hd', hequal]

/-- A document with a number one level down. -/
def sizedDocument : Value :=
  .dict [(.text "name", .text "cube"), (.text "body", .dict [(.text "size-cm", .int 12)])]

/-- The document is found by its size, which the schema declares as a number. -/
theorem sizedDocument_found :
    IsPlainName Search.sizeScope.entity.container ∧
      FieldKey.parse (.text "body.size-cm") = .ok (.path ["body", "size-cm"]) ∧
      sizedDocument.IsJson ∧ Row.heldAt ["body", "size-cm"] sizedDocument = some (.int 12) ∧
      ∃ stored p, Json.write sizedDocument = .ok stored ∧
        condition [] Search.sizeScope (.text "all")
          (.dict [(.text "body.size-cm", .int 12)]) = .ok p ∧
        ∀ columns, columns Search.sizeScope.entity.container = some (.json stored) →
          Holds p.text ⟨columns, p.params⟩ := by
  have hcontainer : IsPlainName Search.sizeScope.entity.container := by decide
  have hread : FieldKey.ofText? "body.size-cm" = some (.path ["body", "size-cm"]) := by decide
  have hname : FieldKey.parse (.text "body.size-cm") = .ok (.path ["body", "size-cm"]) := by
    simp [FieldKey.parse, Value.asText?, hread]
  have hdoc : sizedDocument.IsJson := by
    simp [sizedDocument, Value.IsJson, Value.MembersJson, Members.IsKeyed, Value.asText?]
  have hheld : Row.heldAt ["body", "size-cm"] sizedDocument = some (.int 12) := by rfl
  refine ⟨hcontainer, hname, hdoc, hheld,
    condition_holds_of_stored [] hcontainer hname ⟨_, hread⟩ hdoc hheld ?_ (Or.inl rfl)⟩
  intro t ht
  have hdeclared : Schema.declaredType? Search.sizeScope.schema (.path ["body", "size-cm"]) =
      some "integer" := by decide +kernel
  obtain rfl : "integer" = t := Option.some.inj (hdeclared.symm.trans ht)
  exact Or.inr (by decide)

end Filter

end DocumentSql

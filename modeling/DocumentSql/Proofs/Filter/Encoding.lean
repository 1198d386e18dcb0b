/-
What is handed over to the server as JSON.

A filter hands over the lists and mappings that it compares with and the arguments of its calls; a
row hands over the values of its columns that are lists or mappings.  All of these are written by
`Json.write`, and nothing but that is asked of them.  It writes numbers that are not finite by
names that JSON does not know, so the JSON parameters of a filter are texts of JSON if and only if
the numbers in these values are finite, and so is each parameter of an insert or an update
(`jsonParameters_areJson_iff`).

By induction over the filter: the JSON parameters of a compiled filter are those of its leaves, and
those of a call are the relations of its keys, its name and its arguments.  Names and relations have
no numbers in them.
-/
import DocumentSql.Proofs.Filter.Found
import DocumentSql.Proofs.Filter.Fragments
import DocumentSql.Proofs.Json.Grammar
import DocumentSql.Proofs.Key.Relation
import DocumentSql.Proofs.Row.Insert
import DocumentSql.Proofs.Sql.Binding

namespace DocumentSql

open Sql

/-- The value is a text of JSON. -/
def Value.IsJsonText (v : Value) : Prop := ∃ s, v = .text s ∧ Json.IsText s

lemma Value.isJsonText_write_iff {v : Value} {s : String} (h : Json.write v = .ok s) :
    (Value.text s).IsJsonText ↔ v.isFinite = true := by
  rw [← Json.isText_write_iff h]
  constructor
  · rintro ⟨t, ht, htext⟩
    obtain rfl : s = t := by simpa using ht
    exact htext
  · exact fun htext => ⟨s, rfl, htext⟩

lemma Value.isJsonText_writeText (s : String) : (Value.text (Json.writeText s)).IsJsonText :=
  ⟨_, rfl, Json.isText_of_value (Json.isWritten_text s)⟩

/-! ### Relations -/

lemma isFinite_text (s : String) : (Value.text s).isFinite = true := rfl

namespace FieldKey

/-- The fragment of a key tells the key and the data container by texts. -/
lemma isFinite_origin {e : Entity} {epoch : Bool} {k : FieldKey} {p : Predicate}
    (h : k.resolveColumn e epoch = .ok p) (name : String) :
    (Members.getD p.origin name).isFinite = true := by
  obtain ⟨text, origin, hdenotes, hmake⟩ := exists_denotes h
  obtain ⟨-, rfl⟩ := Predicate.make_eq_ok_iff.1 hmake
  have hfinite : ∀ m ∈ origin, m.2.isFinite = true := by
    cases hdenotes <;> simp [isFinite_text]
  rw [Members.getD]
  cases hv : Members.getText? origin name with
  | none => rfl
  | some v =>
    obtain ⟨k, hm, -⟩ := Members.exists_mem_of_getText? hv
    exact hfinite (k, v) hm

end FieldKey

namespace Relation

lemma isFinite_ofWord {e : Entity} {word : String} {f : RelationField}
    (h : RelationField.ofWord e word = .ok f) : f.toValue.isFinite = true := by
  rw [RelationField.ofWord] at h
  split at h
  · obtain rfl := Except.ok.inj h
    rfl
  · obtain ⟨k, -, h⟩ := Result.bind_eq_ok_iff.1 h
    split at h
    · simp at h
    · obtain ⟨p, hp, h⟩ := Result.bind_eq_ok_iff.1 h
      obtain rfl := Except.ok.inj h
      simp [RelationField.toValue, Value.isFinite, Value.membersFinite,
        FieldKey.isFinite_origin hp]

lemma isFinite_parse {e : Entity} {v : Value} {r : Relation} (h : parse e v = .ok r) :
    r.toValue.isFinite = true := by
  rw [parse] at h
  split at h
  · simp at h
  · split at h
    · simp at h
    · next x _ =>
      obtain ⟨fields, hfields, h⟩ := Result.bind_eq_ok_iff.1 h
      obtain rfl := Except.ok.inj h
      have hfinite : ∀ f ∈ fields, f.toValue.isFinite = true :=
        Result.forall_of_forall₂ (RelationField.forall₂_ofWords hfields) fun _ _ _ =>
          isFinite_ofWord
      cases x.typeName <;>
        simpa [toValue, Value.isFinite, Value.membersFinite] using hfinite

lemma isFinite_parseAll {e : Entity} {documents : Value} {rs : List Relation}
    (h : parseAll e documents = .ok rs) :
    (Value.list (rs.map toValue)).isFinite = true := by
  have hlist : ∀ {vs : List Value}, parseList e vs = .ok rs →
      (Value.list (rs.map toValue)).isFinite = true := by
    intro vs hvs
    rw [Value.isFinite, Value.allFinite_iff, List.forall_mem_map]
    exact Result.forall_of_forall₂
      (Result.forall₂_of_each (f := parse e) (g := parseList e) rfl (fun _ _ => rfl) hvs)
      fun _ _ _ => isFinite_parse
  rw [parseAll] at h
  split at h
  · exact hlist h
  · split at h
    · exact hlist h
    · simp at h

end Relation

namespace Filter

/-! ### The parameters of leaves -/

section

variable {s : Scope} {k : FieldKey} {v : Value} {p : Predicate} {expr : String}

lemma jsonText_eq_ok_iff {t : String} : jsonText v = .ok t ↔ Json.write v = .ok t := by
  unfold jsonText
  cases Json.write v <;> simp

/-- The only parameter of a text belongs to its end, when a placeholder stands there. -/
lemma castNames_eq_of_single {pre post : List Token} {name : Option (List Char)}
    (hpost : castNames post = [name])
    (happend : castNames (pre ++ post) = castNames pre ++ castNames post)
    (hlength : (castNames (pre ++ post)).length = 1) :
    castNames (pre ++ post) = [name] := by
  rw [happend, hpost, List.length_append] at hlength
  have hpre : castNames pre = [] := List.length_eq_zero_iff.1 (by simpa using hlength)
  rw [happend, hpre, hpost, List.nil_append]

/-- A comparison with a plain value has no JSON parameters. -/
lemma jsonParams_equal (hexpr : Closed expr.toList)
    (h : Predicate.ofText (expr ++ " = $") [v] = .ok p) : p.jsonParams = [] := by
  have hbreaks : Breaks " = $".toList := by decide
  have hshape : shape (expr ++ " = $") = shape expr ++ shape " = $" :=
    shape_append hexpr (Or.inr hbreaks)
  have hlength := Predicate.length_castNames_of_make h
  rw [hshape] at hlength
  have hend : castNames (shape " = $") = [none] := by decide
  rw [Predicate.jsonParams_of_make h, hshape, castNames_eq_of_single hend
    (castNames_append (Or.inr (by decide))) (by simpa using hlength)]
  rfl

/-- A comparison with a list or mapping has its text as the JSON parameter. -/
lemma jsonParams_compareJson (hexpr : Closed expr.toList) (h : compareJson expr v = .ok p) :
    ∃ t, Json.write v = .ok t ∧ p.jsonParams = [.text t] := by
  obtain ⟨t, ht, h⟩ := Result.bind_eq_ok_iff.1 h
  refine ⟨t, jsonText_eq_ok_iff.1 ht, ?_⟩
  have hopen : Settled "(".toList := by decide
  have hbreaks : Breaks ")::jsonb = $::jsonb".toList := by decide
  have hparen : Closed "(".toList := by decide
  have hshape : shape ("(" ++ expr ++ ")::jsonb = $::jsonb") =
      (shape "(" ++ shape expr) ++ shape ")::jsonb = $::jsonb" := by
    rw [shape_append (closed_append hparen hexpr) (Or.inr hbreaks),
      shape_append hparen (Or.inl hopen)]
  have hlength := Predicate.length_castNames_of_make h
  rw [hshape] at hlength
  have hend : castNames (shape ")::jsonb = $::jsonb") = [some "jsonb".toList] := by decide
  rw [Predicate.jsonParams_of_make h, hshape, castNames_eq_of_single hend
    (castNames_append (Or.inr (by decide))) (by simpa using hlength)]
  rfl

/-- A fragment without parameters. -/
lemma jsonParams_of_make_nil {text : String} {origin : Members}
    (h : Predicate.make text [] origin = .ok p) : p.jsonParams = [] := by
  rw [Predicate.jsonParams_of_make h, Predicate.readAsJson_nil]

/-- The values that a comparison hands over as JSON: a list or mapping. -/
def structuredValue (v : Value) : List Value := if v.isStructured then [v] else []

lemma structuredValue_of_isNull (h : v.isNull = true) : structuredValue v = [] := by
  cases v <;> simp_all [Value.isNull, structuredValue, Value.isStructured]

/-- What a comparison hands over as JSON is the text of its value, if that is structured. -/
lemma Equates.jsonParams {onNull : CastKind} {onPlain : Result CastKind}
    (h : Equates expr onNull onPlain v p) (hexpr : Closed expr.toList) :
    (∀ w ∈ p.jsonParams, w.IsJsonText) ↔ ∀ w ∈ structuredValue v, w.isFinite = true := by
  cases h with
  | null hnull h =>
    rw [jsonParams_of_make_nil h, structuredValue_of_isNull hnull]
    simp
  | json _ hstructured h =>
    obtain ⟨t, ht, hparams⟩ := jsonParams_compareJson hexpr h
    rw [hparams, structuredValue, if_pos hstructured, List.forall_mem_singleton,
      List.forall_mem_singleton, Value.isJsonText_write_iff ht]
  | @plain kind _ hplain _ h =>
    rw [jsonParams_equal (Cast.closed_applyTo (Cast.isInert_kind kind) hexpr) h, structuredValue,
      hplain]
    simp

lemma jsonParams_column (hs : s.IsPlain) (hk : k.IsRead) (h : compileColumn s k v = .ok p) :
    (∀ w ∈ p.jsonParams, w.IsJsonText) ↔ ∀ w ∈ structuredValue v, w.isFinite = true := by
  obtain ⟨q, hq, h⟩ := equates_of_compileColumn h
  exact h.jsonParams (FieldKey.resolve_sound hs.procedures hs.entity hk hq).1.closed

lemma jsonParams_property (hs : s.IsPlain) (hk : k.IsRead) (h : compileProperty s k v = .ok p) :
    (∀ w ∈ p.jsonParams, w.IsJsonText) ↔ ∀ w ∈ structuredValue v, w.isFinite = true := by
  obtain ⟨q, hq, h⟩ := equates_of_compileProperty h
  exact h.jsonParams (FieldKey.resolve_sound hs.procedures hs.entity hk hq).1.closed

/-! ### The parameters of calls -/

/-- The relations of a key are handed over as a text of JSON, and no other key has parameters. -/
lemma isJsonText_resolve (hs : s.IsPlain) (hk : k.IsRead)
    (h : k.resolve s.procedures s.entity true s.documents = .ok p) :
    ∀ w ∈ p.jsonParams, w.IsJsonText := by
  by_cases hrel : k = .relations
  · subst hrel
    rw [FieldKey.resolve] at h
    obtain ⟨rs, hrs, h⟩ := Result.bind_eq_ok_iff.1 h
    obtain ⟨text, htext, h⟩ := Result.bind_eq_ok_iff.1 h
    have hwrite : Json.write (.list (rs.map Relation.toValue)) = .ok text := by
      unfold Relation.listText at htext
      split at htext
      · next hok => rw [hok, Except.ok.inj htext]
      · simp at htext
    have hinert : Inert (s.procedures.relations ++ "(row_to_json(" ++ s.entity.table) :=
      (hs.procedures.relations.append (by decide)).append hs.entity.table.inert
    have hbreaks : Breaks ".*), $::json)".toList := by decide
    have hnames : castNames (shape (s.procedures.relations ++ "(row_to_json(" ++ s.entity.table ++
        ".*), $::json)")) = [some "json".toList] := by
      rw [shape_append hinert.closed (Or.inr hbreaks), castNames_append (Or.inr (by decide)),
        castNames_eq_nil hinert.not_isMark]
      decide
    have hparams : p.jsonParams = [.text text] := by
      rw [Predicate.jsonParams_of_make h, hnames]
      rfl
    rw [hparams, List.forall_mem_singleton]
    exact (Value.isJsonText_write_iff hwrite).2 (Relation.isFinite_parseAll hrs)
  · have hparams := (FieldKey.resolve_sound hs.procedures hs.entity hk h).2 hrel
    rw [Predicate.jsonParams, hparams, Predicate.readAsJson_nil]
    simp

lemma isJsonText_resolveAll {keys : List FieldKey} {ps : List Predicate} (hs : s.IsPlain)
    (hkeys : ∀ k ∈ keys, k.IsRead)
    (h : FieldKey.resolveAll s.procedures s.entity true s.documents keys = .ok ps) :
    ∀ w ∈ Predicate.allJsonParams ps, w.IsJsonText := by
  rw [Predicate.allJsonParams, List.forall_mem_flatMap]
  exact Result.forall_of_forall₂ (forall₂_resolveAll h) fun k hk _ hp =>
    isJsonText_resolve hs (hkeys k hk) hp

lemma jsonParams_asJson {ps qs : List Predicate} (hps : ∀ p ∈ ps, p.Sound)
    (h : asJson ps = .ok qs) : Predicate.allJsonParams qs = Predicate.allJsonParams ps := by
  refine Predicate.allJsonParams_congr
    (((List.forall₂_and_left ps qs).2 ⟨hps, forall₂_asJson h⟩).imp ?_)
  intro p q h
  exact Predicate.jsonParams_wrap h.1 (by decide) (by decide) (by decide) (by decide) (by decide)
    (Or.inr (by decide)) h.2

/-- The array of values has the casts of the values. -/
lemma castNames_valueArray {values : Predicate} (h : values.Sound) :
    castNames (shape (valueArray values)) = castNames (shape values.text) := by
  unfold valueArray
  split
  · next hempty =>
    rw [Predicate.shape_eq_nil_of_isEmpty hempty]
    decide
  · have hopen : Settled "array_to_json(ARRAY[".toList := by decide
    have hbreaks : Breaks "])".toList := by decide
    have hclosed : Closed "array_to_json(ARRAY[".toList := by decide
    rw [shape_append (closed_append hclosed h.closed) (Or.inr hbreaks),
      shape_append hclosed (Or.inl hopen),
      castNames_postpend (by decide) (Or.inr (by decide)),
      castNames_prepend (by decide) (by decide)]

/-- A cast of the result of a call leaves the JSON parameters as they are: the call ends with a
parenthesis, and no cast reaches over it. -/
lemma jsonParams_castCall {c : Cast} {q : Predicate} {text : String} (hp : p.Sound)
    (hend : ∀ t ∈ (shape p.text).getLast?, t.isNeutral = true) (hc : Cast.parse v = .ok c)
    (h : castCall c p.text = .ok text) (hq : p.withText text = .ok q) :
    q.jsonParams = p.jsonParams := by
  obtain ⟨pre, post, rfl, hpre, hpost, hbreaks⟩ := castCall_eq_ok hc h
  obtain ⟨hinert, hset⟩ := inert_of_mem_parentheses hpre
  have hlast : ∀ t ∈ (shape pre).getLast?, t.isNeutral = true := by
    simp only [List.mem_cons, List.not_mem_nil, or_false] at hpre
    rcases hpre with rfl | rfl | rfl | rfl <;> decide
  exact Predicate.jsonParams_wrap hp hinert hset hlast hpost hbreaks (Or.inl hend) hq

/-- The JSON parameters of a call: the relations of its keys, its name, and its arguments. -/
lemma jsonParams_call {keys : List FieldKey} {f : PredicateFunction} {arguments : List Value}
    (hs : s.IsPlain) (hkeys : ∀ k ∈ keys, k.IsRead)
    (h : compileCall s keys f arguments v = .ok p) :
    (∀ w ∈ p.jsonParams, w.IsJsonText) ↔ (Value.list arguments).isFinite = true := by
  obtain ⟨resolved, jsons, values, argumentText, q, c, text, h⟩ := exists_calls h
  have hsound := resolveAll_sound hs hkeys h.resolved_eq
  have hjsonSound := (asJson_assembles hsound h.jsons_eq).1
  have hvaluesSound := (Predicate.chain_assembles hjsonSound Predicate.glue_comma h.values_eq).1
  have hvaluesParams : values.jsonParams = Predicate.allJsonParams resolved := by
    rw [Predicate.jsonParams_chain hjsonSound Predicate.glue_comma Predicate.divides_comma
      (by decide) h.values_eq, jsonParams_asJson hsound h.jsons_eq]
  -- the parts of the call: its values, between its name and the parameters behind them
  obtain ⟨hclosed, hshape⟩ := shape_call hs.procedures.dispatch hvaluesSound
  have hdispatch : Inert (s.procedures.dispatch ++ "(") :=
    hs.procedures.dispatch.append (by decide)
  have hlast : ∀ t ∈ (shape (s.procedures.dispatch ++ "(")).getLast?, t.isNeutral = true := by
    have hend : Breaks "(".toList := by decide
    rw [shape_append hs.procedures.dispatch.closed (Or.inr hend),
      List.getLast?_append_of_ne_nil _ (by decide)]
    decide
  have hnames : castNames (shape (s.procedures.dispatch ++ "(" ++ valueArray values ++
      ", $::json, $::json)")) =
        castNames (shape values.text) ++ [some "json".toList, some "json".toList] := by
    rw [hshape, castNames_append (Or.inr (by decide)),
      castNames_prepend hdispatch.not_isMark hlast, castNames_valueArray hvaluesSound]
    exact congrArg (_ ++ ·) (by decide)
  have hcall : q.jsonParams = Predicate.allJsonParams resolved ++
      [.text (Json.writeText f.name), .text argumentText] := by
    rw [Predicate.jsonParams_of_make h.call_eq, hnames,
      Predicate.readAsJson_append hvaluesSound.length_castNames, ← hvaluesParams]
    rfl
  have hqSound : q.Sound := Predicate.sound_of_make h.call_eq hclosed
  have hend : ∀ t ∈ (shape q.text).getLast?, t.isNeutral = true := by
    rw [Predicate.shape_of_make h.call_eq, hshape, List.getLast?_append_of_ne_nil _ (by decide)]
    decide
  rw [jsonParams_castCall hqSound hend h.cast_eq h.text_eq h.result_eq, hcall,
    List.forall_mem_append, List.forall_mem_cons, List.forall_mem_singleton]
  have hargumentText := Value.isJsonText_write_iff (jsonText_eq_ok_iff.1 h.arguments_eq)
  constructor
  · exact fun hall => hargumentText.1 hall.2.2
  · exact fun hfinite => ⟨isJsonText_resolveAll hs hkeys h.resolved_eq,
      Value.isJsonText_writeText f.name, hargumentText.2 hfinite⟩

end

/-! ### Filters -/

mutual
/-- The values that a filter hands over as JSON: the lists and mappings that it compares with, and
the arguments of its calls. -/
def jsonValues : Filter → List Value
  | column _ v => structuredValue v
  | property _ v => structuredValue v
  | call _ _ arguments _ => [.list arguments]
  | all fs => jsonValuesAll fs
  | any fs => jsonValuesAll fs
  | _ => []
  termination_by structural f => f
/-- The values that filters hand over as JSON. -/
def jsonValuesAll : List Filter → List Value
  | [] => []
  | f :: fs => f.jsonValues ++ jsonValuesAll fs
  termination_by structural fs => fs
end

/-- Joined fragments hand over the JSON parameters of the operands. -/
lemma isJsonText_join {ps : List Predicate} {op : Predicate.Operator} {p : Predicate} {P : Prop}
    (h : (∀ p ∈ ps, p.Sound) ∧ ((∀ w ∈ Predicate.allJsonParams ps, w.IsJsonText) ↔ P))
    (hp : Predicate.join ps op = .ok p) : (∀ w ∈ p.jsonParams, w.IsJsonText) ↔ P := by
  rw [Predicate.jsonParams_join h.1 hp]
  exact h.2

mutual
/-- The JSON parameters of a compiled filter are texts of JSON if and only if the numbers in the
values that it hands over are finite. -/
theorem isJsonText_compile {s : Scope} (hs : s.IsPlain) :
    ∀ (f : Filter) (p : Predicate), f.Proper → compile s f = .ok p →
      ((∀ w ∈ p.jsonParams, w.IsJsonText) ↔ ∀ v ∈ f.jsonValues, v.isFinite = true)
  | raw text, p, _, h => by
    rw [jsonParams_of_make_nil h]
    simp [jsonValues]
  | column k v, p, hf, h => jsonParams_column hs (hf.keys k (by simp [keys])) h
  | property k v, p, hf, h => jsonParams_property hs (hf.keys k (by simp [keys])) h
  | call ks f arguments returnType, p, hf, h => by
    rw [jsonParams_call hs (fun k hk => hf.keys k (by simpa [keys] using hk)) h]
    simp [jsonValues]
  | other v, p, _, h => by
    rw [compile_other h]
    simp [Predicate.jsonParams_empty, jsonValues]
  | all fs, p, hf, h => by
    obtain ⟨ps, hps, hp⟩ := compile_all h
    exact isJsonText_join (isJsonText_compileAll hs fs ps (.of_joined .and hf) hps) hp
  | any fs, p, hf, h => by
    obtain ⟨ps, hps, hp⟩ := compile_any h
    exact isJsonText_join (isJsonText_compileAll hs fs ps (.of_joined .or hf) hps) hp
  termination_by structural f => f
/-- The same for filters one after the other. -/
theorem isJsonText_compileAll {s : Scope} (hs : s.IsPlain) :
    ∀ (fs : List Filter) (ps : List Predicate), (∀ f ∈ fs, f.Proper) → compileAll s fs = .ok ps →
      (∀ p ∈ ps, p.Sound) ∧ ((∀ w ∈ Predicate.allJsonParams ps, w.IsJsonText) ↔
        ∀ v ∈ jsonValuesAll fs, v.isFinite = true)
  | [], ps, _, h => by
    obtain rfl : [] = ps := by simpa [compileAll] using h
    simp [Predicate.allJsonParams, jsonValuesAll]
  | f :: fs, ps, hproper, h => by
    obtain ⟨p, ps, hp, hps, rfl⟩ := compileAll_cons h
    obtain ⟨hf, hfs⟩ := List.forall_mem_cons.1 hproper
    obtain ⟨-, -, -, hsound, -⟩ := compile_assembles hs f p hf hp
    obtain ⟨hsounds, hrest⟩ := isJsonText_compileAll hs fs ps hfs hps
    refine ⟨List.forall_mem_cons.2 ⟨hsound, hsounds⟩, ?_⟩
    rw [Predicate.allJsonParams, List.flatMap_cons, List.forall_mem_append, jsonValuesAll,
      List.forall_mem_append, isJsonText_compile hs f p hf hp]
    exact and_congr_right fun _ => hrest
  termination_by structural fs => fs
end

end Filter

/-! ### Rows -/

namespace Statement

/-- The parameter for a value: of a list or mapping a text, which is one of JSON if and only if the
numbers in the value are finite, and of any other value its plain form. -/
def IsEncoded (v p : Value) : Prop :=
  if v.normalize.isStructured then
    (∃ t, p = .text t) ∧ (p.IsJsonText ↔ v.normalize.isFinite = true)
  else p = v.normalize

lemma isEncoded_of_encode {v p : Value} (h : encode v = .ok p) : IsEncoded v p := by
  unfold encode at h
  unfold IsEncoded
  dsimp only at h
  split at h
  · next hstructured =>
    rw [if_pos hstructured]
    split at h
    · next t ht =>
      obtain rfl := Except.ok.inj h
      exact ⟨⟨t, rfl⟩, Value.isJsonText_write_iff ht⟩
    · simp at h
  · next hplain =>
    rw [if_neg hplain]
    exact (Except.ok.inj h).symm

lemma isEncoded_of_encodeAll {vs ps : List Value} (h : encodeAll vs = .ok ps) :
    List.Forall₂ IsEncoded vs ps :=
  (forall₂_encodeAll h).imp fun _ _ => isEncoded_of_encode

/-- The parameters of an insert are those of the row of the object. -/
lemma insert_isEncoded {e : Entity} {object : Value} {s : Statement}
    (h : insert e object = .ok s) :
    ∃ row, Row.ofObject e object = .ok row ∧
      List.Forall₂ IsEncoded (row.map Prod.snd) s.params := by
  obtain ⟨row, hrow, h⟩ := Result.bind_eq_ok_iff.1 h
  refine ⟨row, hrow, ?_⟩
  rw [insertRow] at h
  split at h
  · next hempty =>
    obtain rfl := Except.ok.inj h
    obtain rfl : row = [] := by simpa using hempty
    exact List.Forall₂.nil
  · obtain ⟨params, hparams, h⟩ := Result.bind_eq_ok_iff.1 h
    obtain ⟨p, hp, h⟩ := Result.bind_eq_ok_iff.1 h
    obtain rfl := Except.ok.inj h
    rw [Predicate.params_of_make hp]
    exact isEncoded_of_encodeAll hparams

/-- The parameters of an update are those of the changed columns, and the value that identifies
the row behind them. -/
lemma update_isEncoded {e : Entity} {stored patch : Value} {s : Statement}
    (h : update e stored patch = .ok (some s)) :
    ∃ changes ps v, Row.changedColumns e stored patch = .ok changes ∧ s.params = ps ++ [v] ∧
      List.Forall₂ IsEncoded (changes.map Prod.snd) ps := by
  obtain ⟨new, hnew, hrest⟩ := Result.bind_eq_ok_iff.1 h
  obtain ⟨old, hold, -⟩ := Result.bind_eq_ok_iff.1 hrest
  obtain rfl : patch = .dict new := by
    cases patch <;> simp_all [Row.mergeable]
  obtain rfl : stored = .dict old := by
    cases stored <;> simp_all [Row.mergeable]
  obtain ⟨changes, hchanges, hmakes⟩ := update_eq_ok h
  obtain ⟨_, v, -, hassigns⟩ := hmakes
  obtain ⟨ps, hps, hparams⟩ := hassigns.params
  exact ⟨changes, ps, v, hchanges, hparams, isEncoded_of_encodeAll hps⟩

end Statement

/-! ### Everything that is handed over as JSON -/

/-- What is handed over as JSON is JSON if and only if the numbers in it are finite: the JSON
parameters of a compiled filter, and the parameters of inserts and updates for lists and mappings.
The literals of raw fragments must be closed, so that no fragment reads what belongs to another. -/
theorem jsonParameters_areJson_iff (r : FunctionRegistry) :
    (∀ (s : Scope) (op : Predicate.Operator) (spec : Value) (f : Filter) (p : Predicate),
      s.IsPlain → spec.KeysRead → Filter.parse r op spec = .ok (some f) →
      (∀ t ∈ f.rawTexts, Closed t.toList) → Filter.compile s f = .ok p →
      ((∀ w ∈ p.jsonParams, w.IsJsonText) ↔ ∀ v ∈ f.jsonValues, v.isFinite = true)) ∧
    (∀ (e : Entity) (object : Value) (s : Statement), Statement.insert e object = .ok s →
      ∃ row, Row.ofObject e object = .ok row ∧
        List.Forall₂ Statement.IsEncoded (row.map Prod.snd) s.params) ∧
    ∀ (e : Entity) (stored patch : Value) (s : Statement),
      Statement.update e stored patch = .ok (some s) →
      ∃ changes ps v, Row.changedColumns e stored patch = .ok changes ∧ s.params = ps ++ [v] ∧
        List.Forall₂ Statement.IsEncoded (changes.map Prod.snd) ps := by
  refine ⟨fun s op spec f p hs hspec hf hraws hp => ?_,
    fun e object s => Statement.insert_isEncoded,
    fun e stored patch s => Statement.update_isEncoded⟩
  exact Filter.isJsonText_compile hs f p ⟨Filter.isRead_of_parse r op spec f hspec hf, hraws⟩ hp

/-- A list of one number under a key. -/
def ratioSpec (x : Binary) : Value := .dict [(.text "ratio", .list [.float x])]

/-- The filter for a list of one number. -/
def ratioFilter (x : Binary) : Filter := .all [.property (.path ["ratio"]) (.list [.float x])]

/-- Documents without a schema. -/
def documentScope : Scope := ⟨.standard, .document, .null, .null⟩

/-- One half. -/
def oneHalf : Binary := .finite false 4503599627370496 (-53)

lemma parse_ratioSpec (x : Binary) :
    Filter.parse [] .and (ratioSpec x) = .ok (some (ratioFilter x)) := rfl

lemma compile_ratioFilter {x : Binary} {t : String}
    (h : Json.write (.list [.float x]) = .ok t) : Filter.compile documentScope (ratioFilter x) =
      .ok ⟨"((content -> 'ratio'::text))::jsonb = $1::jsonb", [.text t], []⟩ := by
  have hread : (FieldKey.path ["ratio"]).IsRead := ⟨"ratio", rfl⟩
  have hleaf := Filter.compileProperty_structured (s := documentScope)
    (show IsPlainName Entity.document.container by decide) hread rfl h
  rw [ratioFilter, Filter.compile, Filter.compileAll, Filter.compile, hleaf]
  rfl

lemma jsonParams_ratio (t : String) : Predicate.jsonParams
    ⟨"((content -> 'ratio'::text))::jsonb = $1::jsonb", [.text t], []⟩ = [.text t] := by
  have hnames : castNames (shape "((content -> 'ratio'::text))::jsonb = $1::jsonb") =
      [some "jsonb".toList] := by decide
  rw [Predicate.jsonParams, hnames]
  rfl

lemma insert_nan : Statement.insert .document (ratioSpec .nan) =
    .ok ⟨"INSERT INTO documents (content) VALUES ($1) RETURNING *",
      [.text "\x7b\"ratio\": [NaN]\x7d"]⟩ := by
  rfl

lemma update_half : (Statement.update .document (.dict [(.text "$id", .int 1)])
    (ratioSpec oneHalf)).map (Option.map (·.text)) =
      .ok (some "UPDATE documents SET content = $1 WHERE id = $2 RETURNING *") :=
  Result.map_eq_ok_of_beq (by decide +kernel)

/-- A finite number in a list is handed over as JSON in a filter, an insert and an update. -/
theorem halfRatio_areJson :
    documentScope.IsPlain ∧ (ratioSpec oneHalf).KeysRead ∧
      Filter.parse [] .and (ratioSpec oneHalf) = .ok (some (ratioFilter oneHalf)) ∧
      (∀ t ∈ (ratioFilter oneHalf).rawTexts, Closed t.toList) ∧
      (∃ p, Filter.compile documentScope (ratioFilter oneHalf) = .ok p ∧
        p.jsonParams = [.text "[0.5]"] ∧ ∀ w ∈ p.jsonParams, w.IsJsonText) ∧
      (∃ s row, Statement.insert .document (ratioSpec oneHalf) = .ok s ∧
        Row.ofObject .document (ratioSpec oneHalf) = .ok row ∧
        List.Forall₂ Statement.IsEncoded (row.map Prod.snd) s.params) ∧
      ∃ s changes ps,
        Statement.update .document (.dict [(.text "$id", .int 1)]) (ratioSpec oneHalf) =
          .ok (some s) ∧
        Row.changedColumns .document (.dict [(.text "$id", .int 1)]) (ratioSpec oneHalf) =
          .ok changes ∧
        List.Forall₂ Statement.IsEncoded (changes.map Prod.snd) ps := by
  obtain ⟨hfilter, hinsert, hupdate⟩ := jsonParameters_areJson_iff []
  have hs : documentScope.IsPlain :=
    ⟨Entity.isPlain_of_mem_builtIn _ (by simp [documentScope, Entity.builtIn]),
      Procedures.isInert_standard⟩
  have hspec : (ratioSpec oneHalf).KeysRead := by
    simp [Value.KeysRead, ratioSpec, Value.heldKeys, Value.key?]
  have hraws : ∀ t ∈ (ratioFilter oneHalf).rawTexts, Closed t.toList := by
    simp [ratioFilter, Filter.rawTexts, Filter.rawTextsAll]
  have hcompile := compile_ratioFilter (x := oneHalf) (t := "[0.5]") rfl
  refine ⟨hs, hspec, parse_ratioSpec oneHalf, hraws, ⟨_, hcompile, jsonParams_ratio _, ?_⟩, ?_, ?_⟩
  · refine (hfilter _ _ _ _ _ hs hspec (parse_ratioSpec oneHalf) hraws hcompile).2 ?_
    simp [ratioFilter, Filter.jsonValues, Filter.jsonValuesAll, Filter.structuredValue,
      Value.isStructured, Value.isFinite, Value.allFinite, oneHalf, Binary.isFinite]
  · obtain ⟨s, hs⟩ : ∃ s, Statement.insert .document (ratioSpec oneHalf) = .ok s := ⟨_, rfl⟩
    obtain ⟨row, hrow, hparams⟩ := hinsert _ _ _ hs
    exact ⟨s, row, hs, hrow, hparams⟩
  · obtain ⟨outcome, hs, htext⟩ := Result.map_eq_ok_iff.1 update_half
    obtain ⟨s, rfl, -⟩ := Option.map_eq_some_iff.1 htext
    obtain ⟨changes, ps, v, hchanges, -, hparams⟩ := hupdate _ _ _ _ hs
    exact ⟨s, changes, ps, hs, hchanges, hparams⟩

/-- A number that is no number is accepted in a list, and then the parameter is no JSON: in a filter
and in an insert. -/
theorem nanRatio_notJson :
    Filter.parse [] .and (ratioSpec .nan) = .ok (some (ratioFilter .nan)) ∧
      (∃ p, Filter.compile documentScope (ratioFilter .nan) = .ok p ∧
        p.jsonParams = [.text "[NaN]"] ∧ ¬ Json.IsText "[NaN]") ∧
      ∃ s, Statement.insert .document (ratioSpec .nan) = .ok s ∧
        s.params = [.text "\x7b\"ratio\": [NaN]\x7d"] ∧
        ¬ Json.IsText "\x7b\"ratio\": [NaN]\x7d" := by
  have hlist : Json.write (.list [.float .nan]) = .ok "[NaN]" := rfl
  have hmapping : Json.write (ratioSpec .nan) = .ok "\x7b\"ratio\": [NaN]\x7d" := rfl
  refine ⟨parse_ratioSpec .nan, ⟨_, compile_ratioFilter hlist, jsonParams_ratio _, ?_⟩,
    _, insert_nan, rfl, ?_⟩
  · rw [Json.isText_write_iff hlist]
    decide
  · rw [Json.isText_write_iff hmapping]
    decide

end DocumentSql

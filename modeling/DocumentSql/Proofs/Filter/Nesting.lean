/-
Parentheses and quotes in the leaves of a filter.

The expression of a key navigates along names that open and close nothing, and casts put it in
parentheses or put the name of a type behind it, whose size stands in parentheses of its own.  So
what a comparison or a call compiles to is well nested (`wellNested_compile`), and only raw
fragments may be anything else.
-/
import DocumentSql.Proofs.Filter.Fragments
import DocumentSql.Proofs.Sql.Bare

namespace DocumentSql

open Sql

/-! ### Names -/

lemma isNeutral_of_isNameChar {c : Char} (h : FieldKey.isNameChar c = true) :
    isNeutral c = true := by
  simp only [isNeutral, Bool.and_eq_true, bne_iff_ne, and_assoc]
  refine ⟨?_, ?_, ?_, ?_⟩ <;> rintro rfl <;> revert h <;> decide

lemma IsPlainName.wellNested {s : String} (h : IsPlainName s) : WellNested s.toList :=
  wellNested_of_neutral fun c hc => isNeutral_of_isNameChar (h.isNameChar c hc)

namespace FieldKey

lemma IsComponentChar.isNeutral {c : Char} (h : IsComponentChar c) : isNeutral c = true := by
  simp only [Sql.isNeutral, Bool.and_eq_true, bne_iff_ne, and_assoc]
  refine ⟨?_, ?_, ?_, ?_⟩ <;> rintro rfl <;> revert h <;>
    simp only [IsComponentChar, imp_false] <;> decide

end FieldKey

/-- The names of the entity are well nested. They may be quoted. -/
structure Entity.IsWellNested (e : Entity) : Prop where
  table : WellNested e.table.toList
  columns : ∀ c ∈ e.columns, WellNested c.toList
  container : WellNested e.container.toList
  discriminator : ∀ c ∈ e.discriminator, WellNested c.toList

lemma Entity.IsWellNested.of_hasColumn {e : Entity} (he : e.IsWellNested) {c : String}
    (h : e.hasColumn c = true) : WellNested c.toList :=
  he.columns c (List.elem_iff.1 h)

lemma Entity.IsPlain.isWellNested {e : Entity} (he : e.IsPlain) : e.IsWellNested where
  table := he.table.wellNested
  columns c hc := (he.columns c hc).wellNested
  container := he.container.wellNested
  discriminator c hc := (he.discriminator c hc).wellNested

/-- The names of the procedures are well nested. -/
structure Procedures.IsWellNested (p : Procedures) : Prop where
  dispatch : WellNested p.dispatch.toList
  relations : WellNested p.relations.toList

lemma Procedures.isWellNested_standard : standard.IsWellNested :=
  ⟨by decide, by decide⟩

/-- The names that are brought in by what a filter is compiled for are well nested. -/
structure Scope.IsWellNested (s : Scope) : Prop where
  entity : s.entity.IsWellNested
  procedures : s.procedures.IsWellNested

/-! ### Texts in parentheses -/

lemma wellNested_wrap {pre post s : String} (cs ds : List Char) (hpre : WellNested cs)
    (hs : WellNested s.toList) (hpost : WellNested ds) (hopen : pre.toList = cs ++ ['('])
    (hclose : post.toList = ')' :: ds) : WellNested (pre ++ s ++ post).toList := by
  have htext : (pre ++ s ++ post).toList = cs ++ parenthesized s.toList ++ ds := by
    simp [hopen, hclose, parenthesized]
  rw [htext]
  exact (hpre.append hs.parenthesized).append hpost

lemma wellNested_intercalate {sep : String} (hsep : WellNested sep.toList) {ss : List String}
    (hss : ∀ s ∈ ss, WellNested s.toList) : WellNested (String.intercalate sep ss).toList := by
  induction ss with
  | nil => exact (by decide : WellNested [])
  | cons s ss ih =>
    have hs := hss s List.mem_cons_self
    cases ss with
    | nil => simpa using hs
    | cons t ss =>
      rw [String.intercalate_cons_cons, String.toList_append, String.toList_append]
      exact (hs.append hsep).append (ih fun u hu => hss u (List.mem_cons_of_mem s hu))

lemma isNeutral_intercalate {sep : String} (hsep : ∀ c ∈ sep.toList, isNeutral c = true)
    {ss : List String} (hss : ∀ s ∈ ss, ∀ c ∈ s.toList, isNeutral c = true) :
    ∀ c ∈ (String.intercalate sep ss).toList, isNeutral c = true := by
  intro c hc
  rcases mem_or_exists_of_mem_intercalate hc with hc | ⟨s, hs, hc⟩
  · exact hsep c hc
  · exact hss s hs c hc

/-! ### Expressions of keys -/

namespace FieldKey

lemma wellNested_navigate {container : String} (access : Access) {path : List String}
    (hcontainer : WellNested container.toList)
    (hpath : ∀ part ∈ path, ∀ c ∈ part.toList, IsComponentChar c) :
    WellNested (navigate container access path).toList := by
  have hquoted : ∀ (operator : String) (names post : List Char), WellNested operator.toList →
      (∀ c ∈ names, isNeutral c = true) → WellNested post →
      WellNested (parenthesized (container.toList ++ operator.toList ++
        ('\'' :: (names ++ ['\''])) ++ post)) := fun operator names post hoperator hnames hpost =>
    (((hcontainer.append hoperator).append (wellNested_quoted hnames)).append hpost).parenthesized
  unfold navigate
  split
  · next name =>
    have hname : ∀ c ∈ name.toList, isNeutral c = true :=
      fun c hc => (hpath name (by simp) c hc).isNeutral
    have htext : ("(" ++ container ++ " " ++ access.member ++ " '" ++ name ++ "'::text)").toList =
        parenthesized (container.toList ++ (" " ++ access.member ++ " ").toList ++
          ('\'' :: (name.toList ++ ['\''])) ++ "::text".toList) := by
      simp [parenthesized]
    rw [htext]
    exact hquoted _ _ _ (by cases access <;> decide) hname (by decide)
  · have hnames : ∀ c ∈ "\x7b".toList ++ (String.intercalate "," path).toList ++ "\x7d".toList,
        isNeutral c = true := by
      intro c hc
      simp only [List.mem_append] at hc
      rcases hc with (hc | hc) | hc
      · exact List.all_eq_true.1 (by decide) c hc
      · exact isNeutral_intercalate (List.all_eq_true.1 (by decide))
          (fun part hpart c hc => (hpath part hpart c hc).isNeutral) c hc
      · exact List.all_eq_true.1 (by decide) c hc
    have htext : ("(" ++ container ++ " " ++ access.path ++ " '\x7b" ++
        String.intercalate "," path ++ "\x7d')").toList =
        parenthesized (container.toList ++ (" " ++ access.path ++ " ").toList ++
          ('\'' :: (("\x7b".toList ++ (String.intercalate "," path).toList ++ "\x7d".toList) ++
            ['\''])) ++ []) := by
      simp [parenthesized, -String.toList_intercalate]
    rw [htext]
    exact hquoted _ _ _ (by cases access <;> decide) hnames (by decide)

/-- The expression of a key that needs no parameters is well nested. -/
lemma wellNested_resolveColumn {e : Entity} {epoch : Bool} {k : FieldKey} {p : Predicate}
    (he : e.IsWellNested) (hk : k.IsRead) (h : k.resolveColumn e epoch = .ok p) :
    WellNested p.text.toList := by
  obtain ⟨text, origin, hdenotes, hmake⟩ := exists_denotes h
  refine Predicate.wellNested_of_make hmake ?_
  cases hdenotes with
  | path => exact wellNested_navigate .json he.container (isComponentChar_of_isRead hk)
  | all | relations => decide
  | column hc => exact he.of_hasColumn hc
  | timestamp hc => exact he.of_hasColumn hc
  | @milliseconds c hc =>
    have htext : ("extract(epoch from " ++ c ++ ")*1000").toList = "extract".toList ++
        parenthesized ("epoch from ".toList ++ c.toList) ++ "*1000".toList := by
      simp [parenthesized]
    rw [htext]
    exact (WellNested.append (by decide)
      (WellNested.append (by decide) (he.of_hasColumn hc)).parenthesized).append (by decide)

/-- The expression of a key is well nested. -/
theorem wellNested_resolve {procedures : Procedures} {e : Entity} {epoch : Bool}
    {documents : Value} {k : FieldKey} {p : Predicate} (hprocedures : procedures.IsWellNested)
    (he : e.IsWellNested) (hk : k.IsRead) (h : k.resolve procedures e epoch documents = .ok p) :
    WellNested p.text.toList := by
  by_cases hrel : k = .relations
  · subst hrel
    obtain ⟨text, hmake⟩ := exists_text_of_resolve_relations h
    refine Predicate.wellNested_of_make hmake ?_
    have htext : (procedures.relations ++ "(row_to_json(" ++ e.table ++ ".*), $::json)").toList =
        procedures.relations.toList ++ parenthesized ("row_to_json".toList ++
          parenthesized (e.table.toList ++ ".*".toList) ++ ", $::json".toList) := by
      simp [parenthesized]
    rw [htext]
    have hrow := (he.table.append (by decide : WellNested ".*".toList)).parenthesized
    exact hprocedures.relations.append
      ((WellNested.append (by decide) hrow).append (by decide)).parenthesized
  · exact wellNested_resolveColumn he hk (resolve_of_ne hrel ▸ h)

end FieldKey

/-! ### Names of types -/

namespace TypeName

lemma isNeutral_of_isWordChar {c : Char} (h : isWordChar c = true) : isNeutral c = true := by
  simp only [isNeutral, Bool.and_eq_true, bne_iff_ne, and_assoc]
  refine ⟨?_, ?_, ?_, ?_⟩ <;> rintro rfl <;> revert h <;> decide

lemma after_of_afterDigits? {cs rest : List Char} (h : afterDigits? cs = some rest) (l : Level) :
    l.after cs = l.after rest := by
  unfold afterDigits? at h
  split at h
  · simp at h
  · obtain rfl : cs.dropWhile Text.isDigit = rest := by simpa using h
    have hdigits : ∀ c ∈ cs.takeWhile Text.isDigit, isNeutral c = true :=
      fun c hc => isNeutral_of_isDigit (List.mem_takeWhile_imp hc)
    conv_lhs => rw [← List.takeWhile_append_dropWhile (p := Text.isDigit) (l := cs)]
    rw [Level.after_append, Level.after_neutral hdigits, Option.bind_some]

lemma after_cons_neutral {c : Char} (hc : isNeutral c = true) (cs : List Char) (l : Level) :
    l.after (c :: cs) = l.after cs := by
  rw [Level.after, Level.next_neutral hc, Option.bind_some]

lemma after_dropBlank (cs : List Char) (l : Level) : l.after cs = l.after (dropBlank cs) := by
  unfold dropBlank
  split
  · exact after_cons_neutral (by decide) _ l
  · rfl

/-- A size stands in parentheses. -/
lemma after_of_afterSize? {cs rest : List Char} (h : afterSize? cs = some rest) :
    Level.top.after cs = Level.top.after rest := by
  simp only [afterSize?, Option.bind_eq_bind] at h
  obtain ⟨as, has, h⟩ := Option.bind_eq_some_iff.1 h
  obtain ⟨bs, hbs, h⟩ := Option.bind_eq_some_iff.1 h
  have hopen : Level.top.after cs = Level.top.deeper.after bs := by
    rw [Text.after?_eq_some has]
    exact after_of_afterDigits? hbs Level.top.deeper
  have hclose : ∀ ds, Text.after? [')'] ds = some rest →
      Level.top.deeper.after ds = Level.top.after rest := fun ds hds => by
    rw [Text.after?_eq_some hds]
    rfl
  rw [hopen]
  split at h
  · next more hmore =>
    obtain ⟨ds, hds, h⟩ := Option.bind_eq_some_iff.1 h
    rw [Text.after?_eq_some hmore, List.singleton_append, after_cons_neutral (by decide),
      after_dropBlank, after_of_afterDigits? hds, hclose ds h]
  · exact hclose bs (by simpa using h)

/-- The name of a type is well nested. -/
lemma wellNested_of_isValid {cs : List Char} (h : isValid cs = true) : WellNested cs := by
  simp only [isValid, Bool.and_eq_true, Bool.or_eq_true, List.isEmpty_iff, beq_iff_eq] at h
  obtain ⟨-, htail⟩ := h
  have hwords : ∀ c ∈ cs.takeWhile fun c => isWordChar c || c == ' ', isNeutral c = true := by
    intro c hc
    have hword := List.mem_takeWhile_imp hc
    simp only [Bool.or_eq_true, beq_iff_eq] at hword
    rcases hword with hword | rfl
    · exact isNeutral_of_isWordChar hword
    · decide
  have hend : ∀ tail : List Char, tail = [] ∨ tail = ['[', ']'] → WellNested tail := by
    rintro tail (rfl | rfl) <;> decide
  rw [← List.takeWhile_append_dropWhile (p := fun c => isWordChar c || c == ' ') (l := cs)]
  refine (wellNested_of_neutral hwords).append ?_
  cases hsize : afterSize? (cs.dropWhile fun c => isWordChar c || c == ' ') with
  | none =>
    rw [hsize] at htail
    exact hend _ htail
  | some tail =>
    rw [hsize] at htail
    rw [WellNested, after_of_afterSize? hsize]
    exact hend _ htail

end TypeName

namespace Text

lemma isNeutral_of_isAlpha {c : Char} (h : c.isAlpha = true) : isNeutral c = true := by
  simp only [isNeutral, Bool.and_eq_true, bne_iff_ne, and_assoc]
  refine ⟨?_, ?_, ?_, ?_⟩ <;> rintro rfl <;> revert h <;> decide

lemma next_toLower (c : Char) (l : Level) : l.next c.toLower = l.next c := by
  by_cases hc : c.isUpper = true
  · have hlower : c.toLower.isAlpha = true := by
      rw [Char.isAlpha, Char.isLower_toLower_eq_isAlpha]
      simp [Char.isAlpha, hc]
    rw [Level.next_neutral (isNeutral_of_isAlpha hlower),
      Level.next_neutral (isNeutral_of_isAlpha (by simp [Char.isAlpha, hc]))]
  · rw [Char.toLower_eq_of_not_isUpper hc]

/-- Letter case does not matter. -/
lemma after_lowerLatin (cs : List Char) (l : Level) : l.after (lowerLatin cs) = l.after cs := by
  induction cs generalizing l with
  | nil => rfl
  | cons c cs ih =>
    have hchar : l.after (lowerLatinChar c) = l.after [c] := by
      unfold lowerLatinChar
      split
      · next hc =>
        obtain rfl := beq_iff_eq.1 hc
        rw [Level.after_neutral (List.all_eq_true.1 (by decide)),
          Level.after_neutral (List.all_eq_true.1 (by decide))]
      · split
        · next hc =>
          obtain rfl := beq_iff_eq.1 hc
          rw [Level.after_neutral (List.all_eq_true.1 (by decide)),
          Level.after_neutral (List.all_eq_true.1 (by decide))]
        · rw [Level.after, Level.after, next_toLower]
    have hsplit : l.after (c :: cs) = (l.after [c]).bind fun l' => l'.after cs :=
      Level.after_append l [c] cs
    rw [lowerLatin, List.flatMap_cons, Level.after_append, hchar, hsplit]
    exact congrArg _ (funext ih)

end Text

/-! ### Casts -/

namespace Cast

/-- The name of a cast to a type is well nested. -/
def IsWellNested (c : Cast) : Prop := ∀ n, c = .type n → WellNested n.toList

lemma isWellNested_kind (k : CastKind) : (kind k).IsWellNested := fun n hn => by simp at hn

lemma isWellNested_of_parse {v : Value} {c : Cast} (h : parse v = .ok c) : c.IsWellNested := by
  rintro n rfl
  obtain ⟨cs, hvalid, hn⟩ := exists_name_of_parse h
  rw [hn, WellNested, Text.after_lowerLatin]
  exact TypeName.wellNested_of_isValid hvalid

lemma wellNested_operand {expr : String} (h : WellNested expr.toList) :
    WellNested (operand expr).toList := by
  rcases operand_cases expr with heq | heq
  · rwa [heq]
  · rw [heq]
    exact wellNested_wrap [] [] (by decide) h (by decide) rfl rfl

lemma wellNested_replaceLast? {part replacement cs ds : List Char} (hcs : WellNested cs)
    (hpart : ∀ c ∈ part, isNeutral c = true)
    (hreplacement : ∀ c ∈ replacement, isNeutral c = true)
    (h : Text.replaceLast? part replacement cs = some ds) : WellNested ds := by
  obtain ⟨⟨before, after⟩, hcut, rfl⟩ := Option.map_eq_some_iff.1 h
  rw [cutLast_eq_some hcut, WellNested, Level.after_append_neutral hpart] at hcs
  rw [WellNested, Level.after_append_neutral hreplacement]
  exact hcs

lemma wellNested_asText {expr : String} (h : WellNested expr.toList) :
    WellNested (asText expr).toList := by
  rcases asText_cases expr with ⟨arrow, harrow, cs, hcs, heq⟩ | heq | heq
  · have hneutral : ∀ arrow ∈ arrows,
        arrow.1.all isNeutral = true ∧ arrow.2.all isNeutral = true := by decide
    rw [heq, String.toList_ofList]
    exact wellNested_replaceLast? h (List.all_eq_true.1 (hneutral arrow harrow).1)
      (List.all_eq_true.1 (hneutral arrow harrow).2) hcs
  · rwa [heq]
  · rw [heq, String.toList_append]
    exact (wellNested_operand h).append (by decide)

/-- A cast keeps an expression well nested. -/
theorem wellNested_applyTo {c : Cast} {expr : String} (hc : c.IsWellNested)
    (h : WellNested expr.toList) : WellNested (c.applyTo expr).toList := by
  have hinner : WellNested ("(" ++ expr ++ ")::text").toList :=
    wellNested_wrap [] "::text".toList (by decide) h (by decide) rfl rfl
  cases c with
  | kind k =>
    cases k with
    | direct => exact h
    | text => exact wellNested_asText h
    | numeric =>
      have htext : applyTo (.kind .numeric) expr =
          "(" ++ ("(" ++ expr ++ ")::text") ++ ")::numeric" := by
        simp [applyTo, ← String.toList_inj]
      rw [htext]
      exact wellNested_wrap [] "::numeric".toList (by decide) hinner (by decide)
        rfl rfl
    | boolean =>
      have htext : applyTo (.kind .boolean) expr =
          "(" ++ ("(" ++ ("(" ++ expr ++ ")::text") ++ ")::boolean IS TRUE") ++ ")" := by
        simp [applyTo, ← String.toList_inj]
      rw [htext]
      exact wellNested_wrap [] [] (by decide)
        (wellNested_wrap [] "::boolean IS TRUE".toList (by decide) hinner
          (by decide) rfl rfl) (by decide) rfl rfl
  | type n =>
    rw [applyTo, String.toList_append, String.toList_append]
    exact ((wellNested_operand h).append (by decide)).append (hc n rfl)

lemma wellNested_apply {v : Value} {expr s : String} (h : WellNested expr.toList)
    (hs : apply v expr = .ok s) : WellNested s.toList := by
  obtain ⟨c, hc, rfl⟩ := Result.map_eq_ok_iff.1 hs
  exact wellNested_applyTo (isWellNested_of_parse hc) h

end Cast

/-! ### Leaves -/

namespace Filter

variable {s : Scope} {p : Predicate}

lemma wellNested_compareJson {expr : String} {v : Value} (hexpr : WellNested expr.toList)
    (h : compareJson expr v = .ok p) : WellNested p.text.toList := by
  obtain ⟨text, -, h⟩ := Result.bind_eq_ok_iff.1 h
  exact Predicate.wellNested_of_make h
    (wellNested_wrap [] "::jsonb = $::jsonb".toList (by decide) hexpr (by decide)
      rfl rfl)

lemma wellNested_append {a b : String} (ha : WellNested a.toList) (hb : WellNested b.toList) :
    WellNested (a ++ b).toList := by
  rw [String.toList_append]
  exact ha.append hb

lemma Equates.wellNested {expr : String} {onNull : CastKind} {onPlain : Result CastKind} {v : Value}
    (h : Equates expr onNull onPlain v p) (hexpr : WellNested expr.toList) :
    WellNested p.text.toList := by
  have hcast : ∀ kind : CastKind, WellNested ((Cast.kind kind).applyTo expr).toList := fun kind =>
    Cast.wellNested_applyTo (Cast.isWellNested_kind kind) hexpr
  cases h with
  | null _ h => exact Predicate.wellNested_of_make h (wellNested_append (hcast onNull) (by decide))
  | json _ _ h => exact wellNested_compareJson hexpr h
  | plain _ _ _ h => exact Predicate.wellNested_of_make h (wellNested_append (hcast _) (by decide))

lemma wellNested_compileColumn {k : FieldKey} {v : Value} (hs : s.IsWellNested) (hk : k.IsRead)
    (h : compileColumn s k v = .ok p) : WellNested p.text.toList := by
  obtain ⟨q, hq, h⟩ := equates_of_compileColumn h
  exact h.wellNested (FieldKey.wellNested_resolve hs.procedures hs.entity hk hq)

lemma wellNested_compileProperty {k : FieldKey} {v : Value} (hs : s.IsWellNested) (hk : k.IsRead)
    (h : compileProperty s k v = .ok p) : WellNested p.text.toList := by
  obtain ⟨q, hq, h⟩ := equates_of_compileProperty h
  exact h.wellNested (FieldKey.wellNested_resolve hs.procedures hs.entity hk hq)

lemma wellNested_resolveAll {keys : List FieldKey} {ps : List Predicate} (hs : s.IsWellNested)
    (hkeys : ∀ k ∈ keys, k.IsRead)
    (h : FieldKey.resolveAll s.procedures s.entity true s.documents keys = .ok ps) :
    ∀ p ∈ ps, WellNested p.text.toList :=
  Result.forall_of_forall₂ (forall₂_resolveAll h) fun k hk _ hp =>
    FieldKey.wellNested_resolve hs.procedures hs.entity (hkeys k hk) hp

lemma wellNested_asJson {ps qs : List Predicate} (hps : ∀ p ∈ ps, WellNested p.text.toList)
    (h : asJson ps = .ok qs) : ∀ q ∈ qs, WellNested q.text.toList :=
  Result.forall_of_forall₂ (forall₂_asJson h) fun p hp _ hq =>
    Predicate.wellNested_of_make hq (wellNested_wrap "to_json".toList []
      (by decide) (hps p hp) (by decide) rfl rfl)

lemma wellNested_chain {ps : List Predicate} {sep : String} (hsep : WellNested sep.toList)
    (hps : ∀ p ∈ ps, WellNested p.text.toList) (h : Predicate.chain ps sep = .ok p) :
    WellNested p.text.toList := by
  refine Predicate.wellNested_of_make h (wellNested_intercalate hsep ?_)
  have hshifted : ∀ (qs : List Predicate) (n : ℕ), (∀ q ∈ qs, WellNested q.text.toList) →
      ∀ t ∈ Predicate.shiftedTexts n qs, WellNested t.toList := by
    intro qs
    induction qs with
    | nil => simp [Predicate.shiftedTexts]
    | cons q qs ih =>
      intro n hqs t ht
      rw [Predicate.shiftedTexts, List.mem_cons] at ht
      rcases ht with rfl | ht
      · rw [← wellNested_bare_iff, Predicate.bare_shifted, wellNested_bare_iff]
        exact hqs q List.mem_cons_self
      · exact ih _ (fun r hr => hqs r (List.mem_cons_of_mem q hr)) t ht
  exact hshifted _ 0 fun q hq => hps q (List.mem_of_mem_filter hq)

lemma wellNested_valueArray {values : Predicate} (h : WellNested values.text.toList) :
    WellNested (valueArray values).toList := by
  unfold valueArray
  split
  · decide
  · have htext : "array_to_json(ARRAY[" ++ values.text ++ "])" =
        "array_to_json(" ++ ("ARRAY[" ++ values.text ++ "]") ++ ")" := by
      simp [← String.toList_inj]
    rw [htext]
    exact wellNested_wrap "array_to_json".toList [] (by decide)
      (wellNested_append (wellNested_append (by decide) h) (by decide)) (by decide) rfl rfl

lemma wellNested_castCall {c : Cast} {text text' : String} (h : WellNested text.toList)
    (htext : castCall c text = .ok text') : WellNested text'.toList := by
  unfold castCall at htext
  split at htext
  · obtain rfl := Except.ok.inj htext
    exact wellNested_wrap [] "::text".toList (by decide) h (by decide) rfl rfl
  · exact Cast.wellNested_apply h htext

lemma wellNested_compileCall {keys : List FieldKey} {f : PredicateFunction}
    {arguments : List Value} {returnType : Value} (hs : s.IsWellNested)
    (hkeys : ∀ k ∈ keys, k.IsRead) (h : compileCall s keys f arguments returnType = .ok p) :
    WellNested p.text.toList := by
  obtain ⟨resolved, jsons, values, argumentText, call, c, text, h⟩ := exists_calls h
  have hvalueNested := wellNested_chain (by decide)
    (wellNested_asJson (wellNested_resolveAll hs hkeys h.resolved_eq) h.jsons_eq) h.values_eq
  have hcall := h.call_eq
  have hcallText : s.procedures.dispatch ++ "(" ++ valueArray values ++ ", $::json, $::json)" =
      s.procedures.dispatch ++ "(" ++ (valueArray values ++ ", $::json, $::json") ++ ")" := by
    simp [← String.toList_inj]
  rw [hcallText] at hcall
  have hcallNested := Predicate.wellNested_of_make hcall
    (wellNested_wrap s.procedures.dispatch.toList [] hs.procedures.dispatch
      (wellNested_append (wellNested_valueArray hvalueNested) (by decide)) (by decide)
      (by simp) rfl)
  exact Predicate.wellNested_of_make h.result_eq (wellNested_castCall hcallNested h.text_eq)

/-- The keys of a filter were read from texts, and its raw fragments are well nested. -/
structure Enclosable (f : Filter) : Prop where
  keys : ∀ k ∈ f.keys, k.IsRead
  rawTexts : ∀ t ∈ f.rawTexts, WellNested t.toList

lemma Enclosable.of_joined (op : Predicate.Operator) {fs : List Filter}
    (h : (joined op fs).Enclosable) : ∀ f ∈ fs, f.Enclosable := fun _ hf =>
  ⟨fun k hk => h.keys k (keys_subset_joined op hf hk),
    fun t ht => h.rawTexts t (rawTexts_subset_joined op hf ht)⟩

/-- The filter is no conjunction and no disjunction. -/
def IsLeaf : Filter → Prop
  | all _ => False
  | any _ => False
  | _ => True

/-- A leaf compiles to a text that is well nested. -/
theorem wellNested_compile {f : Filter} (hs : s.IsWellNested) (hf : f.Enclosable)
    (hleaf : f.IsLeaf) (h : compile s f = .ok p) : WellNested p.text.toList := by
  cases f with
  | raw text => exact Predicate.wellNested_of_make h (hf.rawTexts text (by simp [rawTexts]))
  | column k v => exact wellNested_compileColumn hs (hf.keys k (by simp [keys])) h
  | property k v => exact wellNested_compileProperty hs (hf.keys k (by simp [keys])) h
  | call ks f arguments returnType =>
    exact wellNested_compileCall hs (fun k hk => hf.keys k (by simpa [keys] using hk)) h
  | other v =>
    rw [compile_other h]
    exact (by decide : WellNested [])
  | all fs => exact hleaf.elim
  | any fs => exact hleaf.elim

end Filter

end DocumentSql

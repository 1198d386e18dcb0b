/-
The schema in groups and orders.

The schema of a search decides the casts of the keys that it groups or orders by, where they have
none of their own.  An item that needs no schema is ordered by in the same way under every schema
(`orderItems_congr`).  Groups are the same under schemas that give the keys without a cast the same
casts (`groupItems_congr`): among the items that need no schema these are columns, and a property
with the name of the operator of calls (`eq_callName_of_groupKey`).
-/
import DocumentSql.Proofs.Search.Item
import DocumentSql.Proofs.Search.Meaning

namespace DocumentSql

namespace Search

variable {s : Scope} {schema schema' : Value}

/-! ### Casts of keys -/

/-- Two schemas give the keys of the items that have no cast of their own the same casts. -/
def SameGroupCasts (e : Entity) (schema schema' : Value) (items : List Value) : Prop :=
  ∀ item ∈ items, ∀ k, groupKey item = .ok (k, .null) →
    CastKind.ofKey e schema k = CastKind.ofKey e schema' k

lemma ofKey_congr_of_isReserved {k : FieldKey} (h : k.isReserved = true) (e : Entity)
    (schema schema' : Value) : CastKind.ofKey e schema k = CastKind.ofKey e schema' k := by
  cases k with
  | path path => simp [FieldKey.isReserved] at h
  | _ => rfl

lemma castKey_congr (k : FieldKey) (cast : Value) (p : Predicate)
    (h : cast = .null → CastKind.ofKey s.entity schema k = CastKind.ofKey s.entity schema' k) :
    castKey { s with schema := schema } k cast p =
      castKey { s with schema := schema' } k cast p := by
  have hcast : Cast.ofKey s.entity schema k cast = Cast.ofKey s.entity schema' k cast := by
    unfold Cast.ofKey
    split
    · rw [h rfl]
    · rfl
  simp only [castKey, Cast.applyToKey, hcast]

/-! ### Groups -/

lemma groupItem_congr {item : Value} (h : ∀ k, groupKey item = .ok (k, .null) →
    CastKind.ofKey s.entity schema k = CastKind.ofKey s.entity schema' k) :
    groupItem { s with schema := schema } item = groupItem { s with schema := schema' } item := by
  unfold groupItem
  cases hkey : groupKey item with
  | error e => rfl
  | ok key =>
    obtain ⟨k, cast⟩ := key
    have hcast := fun p => castKey_congr (s := s) k cast p
      fun hnull => h k (by rw [hkey, hnull])
    simp only [bind, Except.bind]
    split
    · rfl
    · rfl
    · simp only [hcast]

/-- Groups are the same under schemas that give their keys the same casts. -/
theorem groupItems_congr {items : List Value}
    (h : SameGroupCasts s.entity schema schema' items) :
    groupItems { s with schema := schema } items =
      groupItems { s with schema := schema' } items := by
  induction items with
  | nil => rfl
  | cons item items ih =>
    have hitem := groupItem_congr (s := s) (h item (by simp))
    have hitems := ih fun i hi => h i (by simp [hi])
    rw [groupItems, groupItems, hitem, hitems]

/-! ### Items that need no schema -/

lemma itemNeedsSchema_of_needsSchema {items : List Value} (h : needsSchema items = .ok false) :
    ∀ item ∈ items, itemNeedsSchema item = .ok false := by
  induction items with
  | nil => simp
  | cons item items ih =>
    obtain ⟨need, hneed, h⟩ := Result.bind_eq_ok_iff.1 h
    cases need with
    | true => simp at h
    | false => simpa [hneed] using ih h

/-- A key without a cast that needs no schema is none of a property, unless it is the operator of
calls. -/
lemma isReserved_of_itemNeedsSchema {item : Value} {name : String} {k : FieldKey}
    (h : itemNeedsSchema item = .ok false) (hname : splitCast (itemHead item) = .ok (name, .null))
    (hk : FieldKey.parse (.text name) = .ok k) :
    k.isReserved = true ∨ name = OperatorToken.callName := by
  unfold itemNeedsSchema at h
  cases htext : (itemHead item).asText? with
  | none => simp [splitCast, htext] at hname
  | some t =>
    have hsplit : splitCast (.text t) = .ok (name, .null) := by
      rw [← hname, splitCast, splitCast, htext]
      rfl
    rw [htext] at h
    obtain ⟨parts, hparts, h⟩ := Result.bind_eq_ok_iff.1 h
    obtain rfl := Except.ok.inj (hparts.symm.trans hsplit)
    by_cases hcall : name = OperatorToken.callName
    · exact Or.inr hcall
    · left
      simpa [hcall, hk, bind, Except.bind, Value.isNull] using h

/-- Of the groups that need no schema, the only property without a cast is the one with the name
of the operator of calls: it is taken for a call, which it is not. -/
theorem eq_callName_of_groupKey {item : Value} {k : FieldKey}
    (h : itemNeedsSchema item = .ok false) (hk : groupKey item = .ok (k, .null)) :
    k.isReserved = true ∨ k = .path [OperatorToken.callName] := by
  obtain ⟨⟨name, cast⟩, hname, hk⟩ := Result.bind_eq_ok_iff.1 hk
  obtain ⟨l, hl, hk⟩ := Result.bind_eq_ok_iff.1 hk
  obtain ⟨rfl, rfl⟩ : l = k ∧ cast = .null := by simpa using hk
  have hhead : itemHead item = item := by
    cases item with
    | list vs => simp [splitCast, Value.asText?] at hname
    | tuple vs => simp [splitCast, Value.asText?] at hname
    | _ => rfl
  rcases isReserved_of_itemNeedsSchema h (hhead.symm ▸ hname) hl with hreserved | rfl
  · exact Or.inl hreserved
  · have hparse : FieldKey.parse (.text OperatorToken.callName) =
        .ok (.path [OperatorToken.callName]) := by rfl
    exact Or.inr (Except.ok.inj (hl.symm.trans hparse))

/-! ### Orders -/

/-- Calls do not depend on a schema. -/
lemma orderCall_congr (r : FunctionRegistry) (returnType : Option String) (rest : List Value) :
    orderCall r { s with schema := schema } returnType rest =
      orderCall r { s with schema := schema' } returnType rest := by
  obtain ⟨t, ht⟩ := ofValue_call (returnType.getD "text")
  rw [orderCall, orderCall, Filter.parseItems, ht]
  dsimp only
  split
  · rfl
  · cases hcall : Filter.ofCall r t rest with
    | error e => rfl
    | ok f =>
      cases hsplit : Filter.splitCall rest with
      | none => simp [Filter.ofCall, hsplit] at hcall
      | some parts =>
        obtain ⟨names, reference, arguments⟩ := parts
        obtain ⟨_, _, -, -, rfl⟩ := Filter.ofCall_eq_ok hsplit hcall
        rfl

lemma orderKey_congr {first : Value} (rest : List Value)
    (h : ∀ name k, splitCast first = .ok (name, .null) → FieldKey.parse (.text name) = .ok k →
      k.isReserved = true) :
    orderKey { s with schema := schema } first rest =
      orderKey { s with schema := schema' } first rest := by
  unfold orderKey
  cases hname : splitCast first with
  | error e => rfl
  | ok parts =>
    obtain ⟨name, cast⟩ := parts
    cases hk : FieldKey.parse (.text name) with
    | error e => simp only [bind, Except.bind, hk]
    | ok k =>
      have hcast := fun p => castKey_congr (s := s) k cast p fun hnull =>
        ofKey_congr_of_isReserved (h name k (by rw [hname, hnull]) hk) s.entity schema schema'
      simp only [bind, Except.bind, hk]
      split
      · rfl
      · rfl
      · simp only [hcast]

/-- What stands under the operator of calls is taken for a call, whatever stands behind a colon. -/
lemma ofValue_of_splitCast {v cast : Value}
    (h : splitCast v = .ok (OperatorToken.callName, cast)) :
    ∃ t, OperatorToken.ofValue v = .ok (some (.call t)) := by
  unfold splitCast at h
  split at h
  · simp at h
  · next text htext =>
    obtain ⟨hname, -⟩ := Prod.mk.inj (Except.ok.inj h)
    refine ⟨OperatorToken.suffix? (Text.cutAt ':' text.toList).2, ?_⟩
    have hnone : Predicate.Operator.ofName? OperatorToken.callName = none := by decide
    rw [OperatorToken.ofValue, htext]
    simp only [hname, hnone, beq_self_eq_true, if_true]

lemma orderItem_congr (r : FunctionRegistry) (schema schema' : Value) {item : Value}
    (h : itemNeedsSchema item = .ok false) :
    orderItem r { s with schema := schema } item =
      orderItem r { s with schema := schema' } item := by
  unfold orderItem
  cases hparts : orderParts item with
  | error e => simp only [bind, Except.bind]
  | ok parts =>
    obtain ⟨first, rest⟩ := parts
    have hhead : itemHead item = first := by
      unfold orderParts at hparts
      split at hparts <;> simp_all [itemHead]
    simp only [bind, Except.bind]
    cases htoken : OperatorToken.ofValue first with
    | error e => rfl
    | ok token =>
      cases token with
      | none =>
        refine orderKey_congr rest fun name k hname hk => ?_
        refine (isReserved_of_itemNeedsSchema h (hhead ▸ hname) hk).resolve_right ?_
        rintro rfl
        obtain ⟨t, ht⟩ := ofValue_of_splitCast hname
        simp [ht] at htoken
      | some token =>
        cases token with
        | call t => exact orderCall_congr r t rest
        | junction op => rfl

/-- Orders that need no schema are the same under every schema. -/
theorem orderItems_congr (r : FunctionRegistry) (schema schema' : Value) {items : List Value}
    (h : ∀ item ∈ items, itemNeedsSchema item = .ok false) :
    orderItems r { s with schema := schema } items =
      orderItems r { s with schema := schema' } items := by
  induction items with
  | nil => rfl
  | cons item items ih =>
    have hitem := orderItem_congr (s := s) r schema schema' (h item (by simp))
    have hitems := ih fun i hi => h i (by simp [hi])
    rw [orderItems, orderItems, hitem, hitems]

end Search

end DocumentSql

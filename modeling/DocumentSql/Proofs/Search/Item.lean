/-
What the items of a search come to.

An item that a search groups by names a key, and its fragment is the expression of the key under
the cast that the item gives, or that the schema decides.  The fragment has no parameters.
-/
import DocumentSql.Proofs.Search.Parameters

namespace DocumentSql

namespace Cast

/-- A cast of a key that is parsed again stays what it is. -/
lemma eq_of_ofKey {e : Entity} {schema explicit : Value} {k : FieldKey} {c d : Cast}
    (hc : ofKey e schema k explicit = .ok c) (hd : parse c.toValue = .ok d) : d = c := by
  unfold ofKey at hc
  split at hc
  · obtain ⟨kind, -, rfl⟩ := Result.map_eq_ok_iff.1 hc
    simpa [toValue, parse, eq_comm] using hd
  · exact parse_toValue hc hd

end Cast

namespace Search

lemma isRead_of_groupKey {item cast : Value} {k : FieldKey} (h : groupKey item = .ok (k, cast)) :
    k.IsRead := by
  obtain ⟨⟨name, cast'⟩, -, h⟩ := Result.bind_eq_ok_iff.1 h
  obtain ⟨l, hl, h⟩ := Result.bind_eq_ok_iff.1 h
  obtain ⟨rfl, -⟩ : l = k ∧ cast' = cast := by simpa using h
  exact Filter.namesRead_text name l hl

/-- What grouping by an item comes to: the expression of a key under a cast. -/
lemma groupItem_eq_ok {s : Scope} {item : Value} {p : Predicate} (h : groupItem s item = .ok p) :
    ∃ k cast q c, groupKey item = .ok (k, cast) ∧ k.IsRead ∧ k ≠ .all ∧ k ≠ .relations ∧
      k.resolveColumn s.entity true = .ok q ∧ Cast.ofKey s.entity s.schema k cast = .ok c ∧
      p.text = c.applyTo q.text ∧ p.params = [] := by
  obtain ⟨⟨k, cast⟩, hkey, h⟩ := Result.bind_eq_ok_iff.1 h
  dsimp only at h
  split at h
  · simp at h
  · simp at h
  · next hall hrelations =>
    obtain ⟨q, hq, h⟩ := Result.bind_eq_ok_iff.1 h
    obtain ⟨text, htext, h⟩ := Result.bind_eq_ok_iff.1 h
    obtain ⟨c, hc, htext⟩ := Result.bind_eq_ok_iff.1 htext
    obtain ⟨d, hd, rfl⟩ := Result.map_eq_ok_iff.1 htext
    have hcolumn : k.resolveColumn s.entity true = .ok q := FieldKey.resolve_of_ne hrelations ▸ hq
    have hparams : q.params = [] := FieldKey.params_of_resolveColumn hcolumn
    rw [Predicate.withText, hparams] at h
    obtain rfl : d = c := Cast.eq_of_ofKey hc hd
    exact ⟨k, cast, q, d, hkey, isRead_of_groupKey hkey, hall, hrelations, hcolumn, hc,
      Predicate.text_of_make_nil h, Predicate.params_of_make h⟩

/-- The groups are those of the items. -/
lemma mem_groupItems {s : Scope} {items : List Value} {ps : List Predicate}
    (h : groupItems s items = .ok ps) :
    (∀ p ∈ ps, ∃ item ∈ items, groupItem s item = .ok p) ∧
      ∀ item ∈ items, ∃ p ∈ ps, groupItem s item = .ok p := by
  have heach := forall₂_groupItems h
  exact ⟨fun _ => Result.exists_of_forall₂ heach.flip, fun _ => Result.exists_of_forall₂ heach⟩

end Search

end DocumentSql

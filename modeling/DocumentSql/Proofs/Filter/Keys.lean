/-
The keys of a filter.

A specification names its keys by texts, or hands them over in parsed form.  Parsing it gives a
filter whose keys were read from texts, as long as the keys that came in parsed form were
(`Filter.isRead_of_parse`).
-/
import DocumentSql.Proofs.Filter.Inversion
import DocumentSql.Proofs.Key.Plain

namespace DocumentSql

namespace Filter

mutual
/-- The keys of a filter. -/
def keys : Filter → List FieldKey
  | column k _ => [k]
  | property k _ => [k]
  | call ks _ _ _ => ks
  | all fs => keysAll fs
  | any fs => keysAll fs
  | _ => []
  termination_by structural f => f
/-- The keys of filters. -/
def keysAll : List Filter → List FieldKey
  | [] => []
  | f :: fs => f.keys ++ keysAll fs
  termination_by structural fs => fs
end

lemma keysAll_eq_flatMap (fs : List Filter) : keysAll fs = fs.flatMap keys := by
  induction fs with
  | nil => rfl
  | cons f fs ih => rw [keysAll, ih, List.flatMap_cons]

lemma keysAll_append (fs gs : List Filter) : keysAll (fs ++ gs) = keysAll fs ++ keysAll gs := by
  simp [keysAll_eq_flatMap]

lemma keys_joined (op : Predicate.Operator) (fs : List Filter) :
    (joined op fs).keys = keysAll fs := by
  cases op <;> simp [joined, keys]

lemma keysAll_joined? (op : Predicate.Operator) (fs : List Filter) :
    keysAll (joined? op fs).toList = keysAll fs := by
  cases fs with
  | nil => rfl
  | cons f fs => simp [keysAll, keys_joined]

end Filter

/-! ### Keys that are handed over in parsed form -/

namespace Value

/-- The parsed key that a value is. -/
def key? : Value → Option FieldKey
  | key k => some k
  | _ => none

mutual
/-- The parsed keys in a value, its lists and the keys of its mappings. -/
def heldKeys : Value → List FieldKey
  | key k => [k]
  | list vs => heldKeysAll vs
  | tuple vs => heldKeysAll vs
  | dict ms => ms.filterMap fun m => key? m.1
  | _ => []
  termination_by structural v => v
/-- The parsed keys in values. -/
def heldKeysAll : List Value → List FieldKey
  | [] => []
  | v :: vs => v.heldKeys ++ heldKeysAll vs
  termination_by structural vs => vs
end

/-- Every parsed key in the value was read from a text. -/
def KeysRead (v : Value) : Prop := ∀ k ∈ v.heldKeys, k.IsRead

lemma heldKeys_subset_heldKeysAll {v : Value} {vs : List Value} (h : v ∈ vs) :
    ∀ k ∈ v.heldKeys, k ∈ heldKeysAll vs := by
  induction vs with
  | nil => simp at h
  | cons w ws ih =>
    intro k hk
    rw [heldKeysAll, List.mem_append]
    rcases List.mem_cons.1 h with rfl | h
    · exact Or.inl hk
    · exact Or.inr (ih h k hk)

lemma KeysRead.of_mem {v : Value} {vs : List Value} (hvs : ∀ k ∈ heldKeysAll vs, k.IsRead)
    (h : v ∈ vs) : v.KeysRead :=
  fun k hk => hvs k (heldKeys_subset_heldKeysAll h k hk)

lemma KeysRead.parse {v : Value} {k : FieldKey} (hv : v.KeysRead)
    (h : FieldKey.parse v = .ok k) : k.IsRead := by
  refine FieldKey.isRead_of_parse (fun l hl => hv l ?_) h
  subst hl
  simp [heldKeys]

end Value

namespace Filter

/-- What parsing the value gives was read from a text. -/
def NamesRead (v : Value) : Prop := ∀ k, FieldKey.parse v = .ok k → k.IsRead

lemma namesRead_text (s : String) : NamesRead (.text s) :=
  fun _ h => FieldKey.isRead_of_parse (fun l hl => by simp at hl) h

lemma keys_of_comparison {name value : Value} {f : Filter} (hname : NamesRead name)
    (h : comparison name value = .ok f) : ∀ k ∈ f.keys, k.IsRead := by
  obtain ⟨k, v, hk, -, ⟨-, rfl⟩ | ⟨-, rfl⟩⟩ := comparison_eq_ok h
  · simpa [keys] using hname k hk
  · simpa [keys] using hname k hk

lemma keys_of_comparisons {ms : Members} {fs : List Filter} (hms : ∀ m ∈ ms, NamesRead m.1)
    (h : comparisons ms = .ok fs) : ∀ k ∈ keysAll fs, k.IsRead := by
  rw [keysAll_eq_flatMap, List.forall_mem_flatMap]
  exact Result.forall_of_forall₂ (forall₂_comparisons h) fun m hm f hf =>
    keys_of_comparison (hms m hm) hf

lemma keys_of_ofMembers {op : Predicate.Operator} {ms : Members} {f : Option Filter}
    (hms : ∀ m ∈ ms, NamesRead m.1) (h : ofMembers op ms = .ok f) :
    ∀ k ∈ keysAll f.toList, k.IsRead := by
  obtain ⟨fs, hfs, rfl⟩ := Result.map_eq_ok_iff.1 h
  rw [keysAll_joined?]
  exact keys_of_comparisons hms hfs

lemma keys_of_ofRows {columns : List String} {rows : List (List Value)} {fs : List Filter}
    (h : ofRows columns rows = .ok fs) : ∀ k ∈ keysAll fs, k.IsRead := by
  obtain ⟨gs, hgs, rfl⟩ := forall₂_ofRows h
  clear h
  induction hgs with
  | nil => simp [keysAll]
  | @cons row f rows gs hf _ ih =>
    have hnames : ∀ m ∈ rowMembers columns row, NamesRead m.1 := by
      intro m hm
      obtain ⟨c, -, hc⟩ := List.mem_map.1 (List.of_mem_zip hm).1
      rw [← hc]
      exact namesRead_text c
    rw [List.flatMap_cons, keysAll_append, List.forall_mem_append]
    exact ⟨keys_of_ofMembers hnames hf, ih⟩

lemma keys_of_callKeys {vs : List Value} {ks : List FieldKey} (hvs : ∀ v ∈ vs, v.KeysRead)
    (h : callKeys vs = .ok ks) : ∀ k ∈ ks, k.IsRead := by
  have heach := forall₂_of_callKeys h
  clear h
  induction heach with
  | nil => simp
  | cons hk _ ih =>
    obtain ⟨hv, hvs⟩ := List.forall_mem_cons.1 hvs
    exact List.forall_mem_cons.2 ⟨hv.parse hk, ih hvs⟩

lemma keys_of_ofCall {r : FunctionRegistry} {returnType : Option String} {items : List Value}
    {f : Filter} (hitems : ∀ v ∈ items, v.KeysRead) (h : ofCall r returnType items = .ok f) :
    ∀ k ∈ f.keys, k.IsRead := by
  obtain ⟨names, reference, arguments, hsplit⟩ := exists_splitCall h
  obtain ⟨_, keys, -, hkeys, rfl⟩ := ofCall_eq_ok hsplit h
  obtain ⟨rfl, -, -⟩ := eq_of_splitCall hsplit
  exact keys_of_callKeys (fun v hv => hitems v (by simp [hv])) hkeys

lemma keys_of_ofScalar {v : Value} {f : Filter} (h : ofScalar v = .ok f) : f.keys = [] := by
  unfold ofScalar at h
  split at h
  all_goals first
    | (obtain rfl : raw _ = f := Except.ok.inj h; simp [keys])
    | simp at h

lemma namesRead_of_dict {ms : Members} (h : (Value.dict ms).KeysRead) :
    ∀ m ∈ ms, NamesRead m.1 := by
  intro m hm k hk
  refine FieldKey.isRead_of_parse (fun l hl => h l ?_) hk
  rw [Value.heldKeys, List.mem_filterMap]
  exact ⟨m, hm, by simp [hl, Value.key?]⟩

lemma heldKeys_of_items {v : Value} {vs : List Value} (h : items? v = some vs) :
    v.heldKeys = Value.heldKeysAll vs := by
  cases v <;> simp [items?] at h <;> subst h <;> rfl

variable {r : FunctionRegistry} {op : Predicate.Operator}

mutual
/-- The keys of a parsed filter were read from texts, if those in its specification were. -/
theorem keys_of_parses : ∀ {v : Value} {f : Option Filter}, Parses r op v f → v.KeysRead →
    ∀ k ∈ keysAll f.toList, k.IsRead
  | _, _, .nothing, _ => by simp [keysAll]
  | _, _, .table h, _ => by
    rw [keysAll_joined?]
    exact keys_of_ofRows h
  | _, _, .mapping h, hv => keys_of_ofMembers (namesRead_of_dict hv) h
  | _, _, .scalar _ h, _ => by simp [keysAll, keys_of_ofScalar h]
  | _, _, .call hitems _ h, hv => by
    rw [Value.KeysRead, heldKeys_of_items hitems] at hv
    have hkeys := keys_of_ofCall (fun v hmem => .of_mem hv (List.mem_cons_of_mem _ hmem)) h
    simpa [keysAll] using hkeys
  | _, _, .joined hitems _ h, hv => by
    rw [Value.KeysRead, heldKeys_of_items hitems, Value.heldKeysAll, List.forall_mem_append] at hv
    rw [keysAll_joined?]
    exact keys_of_allParse h hv.2
  | _, _, .unmarked hitems _ h, hv => by
    rw [Value.KeysRead, heldKeys_of_items hitems] at hv
    rw [keysAll_joined?]
    exact keys_of_allParse h hv
/-- The same for specifications one after the other. -/
theorem keys_of_allParse : ∀ {vs : List Value} {fs : List Filter}, AllParse r op vs fs →
    (∀ k ∈ Value.heldKeysAll vs, k.IsRead) → ∀ k ∈ keysAll fs, k.IsRead
  | _, _, .nil, _ => by simp [keysAll]
  | _, _, .cons h hrest, hvs => by
    rw [Value.heldKeysAll, List.forall_mem_append] at hvs
    rw [keysAll_append, List.forall_mem_append]
    exact ⟨keys_of_parses h hvs.1, keys_of_allParse hrest hvs.2⟩
end

theorem isRead_of_parse (r : FunctionRegistry) (op : Predicate.Operator) (v : Value) (f : Filter)
    (hv : v.KeysRead) (h : parse r op v = .ok (some f)) : ∀ k ∈ f.keys, k.IsRead := by
  simpa [keysAll] using keys_of_parses (parses_of_eq_ok h) hv

end Filter

end DocumentSql

/-
Runs of operations on the registry of predicate functions.

Functions are registered, unregistered and looked up in any order, and an operation that fails
leaves the registry as it is.  What one operation does to the entry under a name is said once
(`register_eq_ok`, `unregister_eq_ok`); by induction over the run, the registry stays well formed
(`isFormed_run`) and a name keeps its implementation until it is unregistered (`get?_run`).  In a
well-formed registry every way to refer to an entry finds it (`IsFormed.findsEntries`), and nothing
else is found (`IsFormed.isRegistered_of_find`).
-/
import DocumentSql.Function
import DocumentSql.Proofs.Result
import DocumentSql.Proofs.Value.Named
import Mathlib

namespace DocumentSql

namespace FunctionRegistry

variable {r : FunctionRegistry} {n m label : String} {f : PredicateFunction}

/-! ### The entries -/

lemma sets_put : Named.Sets put where
  nil _ _ := rfl
  cons name f e r := by simp [put]

lemma get?_put (n : String) (f : PredicateFunction) (r : FunctionRegistry) (m : String) :
    get? (put n f r) m = if m = n then some f else get? r m :=
  sets_put.lookup n f r m

lemma get?_erase (r : FunctionRegistry) (n m : String) :
    get? (erase r n) m = if m = n then none else get? r m :=
  Named.lookup_filter_ne r n m

/-! ### The operations -/

/-- Registering takes a name that is an identifier, and that no other implementation has. -/
lemma register_eq_ok {r' : FunctionRegistry} {name returnType : Value}
    (h : register r name label returnType = .ok (r', f)) :
    ∃ n, (nameFor name label).asText? = some n ∧ Text.isIdentifier n = true ∧
      (∀ g, get? r n = some g → g.implementation = some label) ∧
      f = ⟨n, some label, returnType⟩ ∧ r' = put n f r := by
  rw [register] at h
  dsimp only at h
  split at h
  · simp at h
  · next n hn =>
    split at h
    · simp at h
    · next hid =>
      have hid : Text.isIdentifier n = true := by simpa using hid
      split at h
      · next g hg =>
        split at h
        · next himpl =>
          obtain ⟨rfl, rfl⟩ := Prod.mk.inj (Except.ok.inj h)
          refine ⟨n, hn, hid, fun g' hg' => ?_, rfl, rfl⟩
          obtain rfl := Option.some.inj (hg.symm.trans hg')
          exact beq_iff_eq.1 himpl
        · simp at h
      · next hg =>
        obtain ⟨rfl, rfl⟩ := Prod.mk.inj (Except.ok.inj h)
        exact ⟨n, hn, hid, by simp [hg], rfl, rfl⟩

/-- Unregistering takes a name that has an entry. -/
lemma unregister_eq_ok {r' : FunctionRegistry} {name : Value} (h : unregister r name = .ok r') :
    ∃ n, name.asText? = some n ∧ r' = erase r n := by
  rw [unregister] at h
  split at h
  · simp at h
  · split at h
    · next n hn =>
      split at h
      · exact ⟨n, hn, (Except.ok.inj h).symm⟩
      · simp at h
    · simp at h

/-! ### Runs -/

/-- An operation on the registry. A plain function is given by its label, which stands for its
identity. -/
inductive Step where
  /-- Registers a plain function under a name, its label if none is given. For a function whose own
  name is not its label, that name is the one to give. -/
  | register (name : Value) (label : String) (returnType : Value)
  /-- Removes the function of a name. -/
  | unregister (name : Value)
  /-- Looks up what a value refers to. -/
  | lookUp (reference : Value)

/-- The registry after an operation, and the entry that the operation returns, if any. -/
def perform (r : FunctionRegistry) :
    Step → Result (FunctionRegistry × Option PredicateFunction)
  | .register name label returnType =>
    (register r name label returnType).map fun (r', f) => (r', some f)
  | .unregister name => (unregister r name).map fun r' => (r', none)
  | .lookUp reference => (find r reference).map fun f => (r, some f)

/-- The registry after an operation and its answer. An operation that fails leaves the registry
as it is. -/
def step (r : FunctionRegistry) (s : Step) :
    FunctionRegistry × Result (Option PredicateFunction) :=
  match perform r s with
  | .ok (r', f) => (r', .ok f)
  | .error e => (r, .error e)

/-- The registry after operations. -/
def run (r : FunctionRegistry) (steps : List Step) : FunctionRegistry :=
  steps.foldl (fun r s => (r.step s).1) r

@[simp] lemma run_nil (r : FunctionRegistry) : run r [] = r := rfl

@[simp] lemma run_cons (r : FunctionRegistry) (s : Step) (steps : List Step) :
    run r (s :: steps) = run (r.step s).1 steps := rfl

lemma run_append (r : FunctionRegistry) (before after : List Step) :
    run r (before ++ after) = run (run r before) after :=
  List.foldl_append

/-- What one operation does: it stores a new entry, removes one, or changes nothing. -/
lemma step_cases (r : FunctionRegistry) (s : Step) :
    (∃ name label returnType n, s = .register name label returnType ∧
      Text.isIdentifier n = true ∧ (∀ g, get? r n = some g → g.implementation = some label) ∧
      (r.step s).1 = put n ⟨n, some label, returnType⟩ r) ∨
    (∃ name n, s = .unregister name ∧ name.asText? = some n ∧ (r.step s).2 = .ok none ∧
      (r.step s).1 = erase r n) ∨
    (r.step s).1 = r := by
  cases s with
  | register name label returnType =>
    cases h : register r name label returnType with
    | error e => exact .inr (.inr (by simp [step, perform, h, Except.map]))
    | ok p =>
      obtain ⟨r', f⟩ := p
      obtain ⟨n, -, hid, htaken, rfl, rfl⟩ := register_eq_ok h
      exact .inl ⟨name, label, returnType, n, rfl, hid, htaken,
        by simp [step, perform, h, Except.map]⟩
  | unregister name =>
    cases h : unregister r name with
    | error e => exact .inr (.inr (by simp [step, perform, h, Except.map]))
    | ok r' =>
      obtain ⟨n, hn, rfl⟩ := unregister_eq_ok h
      exact .inr (.inl ⟨name, n, rfl, hn, by simp [step, perform, h, Except.map],
        by simp [step, perform, h, Except.map]⟩)
  | lookUp reference =>
    refine .inr (.inr ?_)
    cases h : find r reference with
    | error e => simp [step, perform, h, Except.map]
    | ok f => simp [step, perform, h, Except.map]

lemma step_of_error {s : Step} {e : Error} (h : (r.step s).2 = .error e) :
    (r.step s).1 = r := by
  rw [step] at h ⊢
  split at h
  · simp at h
  · rfl

/-! ### Well-formed registries -/

/-- An entry as it is registered. -/
structure IsEntry (name : String) (f : PredicateFunction) : Prop where
  /-- It is stored under its own name. -/
  own : f.name = name
  /-- The name is an identifier. -/
  isIdentifier : Text.isIdentifier name = true
  /-- There is a local implementation. -/
  implemented : ∃ label, f.implementation = some label

/-- The registry holds one entry a name, stored under its own name. -/
structure IsFormed (r : FunctionRegistry) : Prop where
  /-- No name is taken twice. -/
  nodup : (r.map Prod.fst).Nodup
  /-- What is stored under a name was registered under it. -/
  isEntry : ∀ e ∈ r, IsEntry e.1 e.2

lemma isFormed_nil : IsFormed [] := ⟨by simp, by simp⟩

namespace IsFormed

lemma of_get? (hr : r.IsFormed) (h : get? r n = some f) : IsEntry n f :=
  hr.isEntry _ (Named.mem_of_lookup h)

lemma put (hr : r.IsFormed) (hf : IsEntry n f) : (put n f r).IsFormed where
  nodup := sets_put.nodup hr.nodup n f
  isEntry e he := by
    rcases sets_put.eq_or_mem he with rfl | he
    · exact hf
    · exact hr.isEntry e he

lemma erase (hr : r.IsFormed) (n : String) : (erase r n).IsFormed where
  nodup := hr.nodup.sublist (List.filter_sublist.map Prod.fst)
  isEntry e he := hr.isEntry e (List.mem_of_mem_filter he)

/-- An operation keeps the registry well formed. -/
lemma step (hr : r.IsFormed) (s : Step) : (r.step s).1.IsFormed := by
  obtain ⟨name, label, returnType, n, -, hid, -, heq⟩ | ⟨name, n, -, -, -, heq⟩ | heq :=
    step_cases r s
  · rw [heq]
    exact hr.put ⟨rfl, hid, label, rfl⟩
  · rw [heq]
    exact hr.erase n
  · rwa [heq]

end IsFormed

theorem isFormed_run (hr : r.IsFormed) (steps : List Step) : (run r steps).IsFormed := by
  induction steps generalizing r with
  | nil => exact hr
  | cons s steps ih => exact ih (hr.step s)

/-! ### The implementation behind a name -/

/-- The operation removes the entry of a name. -/
def Removes (r : FunctionRegistry) (n : String) (s : Step) : Prop :=
  ∃ name, s = .unregister name ∧ name.asText? = some n ∧ (r.step s).2 = .ok none

/-- An operation removes the entry of a name or leaves the name its implementation. -/
lemma get?_step (h : get? r n = some f) (s : Step) :
    Removes r n s ∨
      ∃ g, get? (r.step s).1 n = some g ∧ g.implementation = f.implementation := by
  obtain ⟨name, label, returnType, m, -, -, htaken, heq⟩ | ⟨name, m, hs, hm, hok, heq⟩ | heq :=
    step_cases r s
  · rw [heq, get?_put]
    split
    · next hnm => exact .inr ⟨_, rfl, (htaken f (hnm ▸ h)).symm⟩
    · exact .inr ⟨f, h, rfl⟩
  · rw [heq, get?_erase]
    split
    · next hnm => exact .inl ⟨name, hs, hnm ▸ hm, hok⟩
    · exact .inr ⟨f, h, rfl⟩
  · rw [heq]
    exact .inr ⟨f, h, rfl⟩

/-- In a run, a name keeps its implementation until its entry is removed. -/
theorem get?_run (h : get? r n = some f) (steps : List Step) :
    (∃ before s after, steps = before ++ s :: after ∧ Removes (run r before) n s) ∨
      ∃ g, get? (run r steps) n = some g ∧ g.implementation = f.implementation := by
  induction steps generalizing r f with
  | nil => exact .inr ⟨f, h, rfl⟩
  | cons s steps ih =>
    rcases get?_step h s with hs | ⟨g, hg, himpl⟩
    · exact .inl ⟨[], s, steps, rfl, hs⟩
    · rcases ih hg with ⟨before, s', after, rfl, hs'⟩ | ⟨g', hg', himpl'⟩
      · exact .inl ⟨s :: before, s', after, rfl, hs'⟩
      · exact .inr ⟨g', hg', himpl'.trans himpl⟩

/-! ### Lookups -/

/-- The function counts as an entry: it is the one under its name, or equal to it. -/
def IsRegistered (r : FunctionRegistry) (f : PredicateFunction) : Prop :=
  ∃ g, get? r f.name = some g ∧ (g = f ∨ g.same f = true)

/-- Every entry is found by its name and as it is; its plain function finds an entry with the same
implementation. -/
structure FindsEntries (r : FunctionRegistry) : Prop where
  byName : ∀ n f v, get? r n = some f → v.asText? = some n → find r v = .ok f
  byEntry : ∀ n f, get? r n = some f → find r f.toValue = .ok f
  byFunction : ∀ n f, get? r n = some f → ∃ label g, f.implementation = some label ∧
    find r (.callable label) = .ok g ∧ get? r g.name = some g ∧ g.implementation = some label

lemma find_of_asText? {v : Value} (h : v.asText? = some n) : find r v = ofName r v n := by
  unfold Value.asText? at h
  split at h
  · obtain rfl := Option.some.inj h
    rfl
  · obtain rfl := Option.some.inj h
    rfl
  · obtain rfl := Option.some.inj h
    rfl
  · simp at h

namespace IsFormed

/-- A plain function is looked up among the entries. -/
lemma of_ofLabel (hr : r.IsFormed) (h : ofLabel r label = .ok f) :
    get? r f.name = some f ∧ f.implementation = some label := by
  rw [ofLabel] at h
  split at h
  · next e he =>
    obtain rfl := Except.ok.inj h
    have hmem := List.mem_of_find?_eq_some he
    have himpl : e.2.implementation = some label := by simpa using List.find?_some he
    rw [(hr.isEntry e hmem).own]
    exact ⟨Named.lookup_of_mem hr.nodup hmem, himpl⟩
  · simp at h

theorem findsEntries (hr : r.IsFormed) : r.FindsEntries where
  byName n f v h hv := by
    rw [find_of_asText? hv, ofName, h]
  byEntry n f h := by
    have hget : get? r f.name = some f := by rwa [(hr.of_get? h).own]
    simp [PredicateFunction.toValue, find, hget]
  byFunction n f h := by
    obtain ⟨label, himpl⟩ := (hr.of_get? h).implemented
    cases hfind : ofLabel r label with
    | ok g =>
      obtain ⟨hg, hgimpl⟩ := hr.of_ofLabel hfind
      exact ⟨label, g, himpl, hfind, hg, hgimpl⟩
    | error e =>
      rw [ofLabel] at hfind
      split at hfind
      · simp at hfind
      · next hnone =>
        have hne := List.find?_eq_none.1 hnone _ (Named.mem_of_lookup h)
        simp [himpl] at hne

/-- What is found is registered. -/
theorem isRegistered_of_find (hr : r.IsFormed) {reference : Value}
    (h : find r reference = .ok f) : r.IsRegistered f := by
  cases hv : reference.asText? with
  | some n =>
    rw [find_of_asText? hv, ofName] at h
    split at h
    · next g hg =>
      obtain rfl := Except.ok.inj h
      exact ⟨g, by rwa [(hr.of_get? hg).own], .inl rfl⟩
    · simp at h
  | none =>
    unfold find at h
    split at h
    · dsimp only at h
      split at h
      · next g hg =>
        split at h
        · next hsame =>
          obtain rfl := Except.ok.inj h
          exact ⟨g, hg, hsame⟩
        · simp at h
      · simp at h
    · exact ⟨f, (hr.of_ofLabel h).1, .inl rfl⟩
    · simp at h
    · simp [hv] at h

end IsFormed

end FunctionRegistry

end DocumentSql

/-
When two values are one and the same.

Equality compares numbers by value, so `1` equals `True` and a NaN does not even equal itself. Two
values are identical when they are of one kind and have identical parts, in the same order.
-/
import DocumentSql.Value.Basic

namespace DocumentSql

namespace Value

mutual
/-- The two values are of one kind, with identical parts. -/
def identical : Value → Value → Bool
  | null, null => true
  | bool a, bool b => a == b
  | int n, int m => n == m
  | float x, float y => x == y
  | text s, text t => s == t
  | list vs, list ws => identicalAll vs ws
  | tuple vs, tuple ws => identicalAll vs ws
  | set vs, set ws => identicalAll vs ws
  | dict ms, dict ns => identicalMembers ms ns
  | complex re im, complex re' im' => re == re' && im == im'
  | decimal d, decimal e => d == e
  | date d, date e => d == e
  | moment m, moment n => m == n
  | time s, time t => s == t
  | uuid s, uuid t => s == t
  | bytes bs, bytes cs => bs == cs
  | scalar k v, scalar l w => k == l && v.identical w
  | array k v, array l w => k == l && v.identical w
  | frame cs rs, frame ds ss => cs == ds && identicalRows rs ss
  | function n i r, function m j s => n == m && i == j && r.identical s
  | callable s, callable t => s == t
  | class_ s, class_ t => s == t
  | key k, key l => k == l
  | cast k, cast l => k == l
  | documentType n i s m, documentType n' i' s' m' =>
      n.identical n' && i.identical i' && s.identical s' && m.identical m'
  | _, _ => false
  termination_by structural v => v
/-- The lists have identical elements. -/
def identicalAll : List Value → List Value → Bool
  | [], [] => true
  | v :: vs, w :: ws => v.identical w && identicalAll vs ws
  | _, _ => false
  termination_by structural vs => vs
/-- The tables have identical rows. -/
def identicalRows : List (List Value) → List (List Value) → Bool
  | [], [] => true
  | r :: rs, s :: ss => identicalAll r s && identicalRows rs ss
  | _, _ => false
  termination_by structural rs => rs
/-- The mappings have identical members. -/
def identicalMembers : List (Value × Value) → List (Value × Value) → Bool
  | [], [] => true
  | (k, v) :: ms, (l, w) :: ns => k.identical l && v.identical w && identicalMembers ms ns
  | _, _ => false
  termination_by structural ms => ms
end

mutual
/-- Identical values are equal as terms. -/
theorem identical_iff (v w : Value) : v.identical w = true ↔ v = w := by
  cases v with
  | list vs => cases w <;> simp [identical, identicalAll_iff vs]
  | tuple vs => cases w <;> simp [identical, identicalAll_iff vs]
  | set vs => cases w <;> simp [identical, identicalAll_iff vs]
  | dict ms => cases w <;> simp [identical, identicalMembers_iff ms]
  | scalar k v => cases w <;> simp [identical, identical_iff v]
  | array k v => cases w <;> simp [identical, identical_iff v]
  | frame cs rs => cases w <;> simp [identical, identicalRows_iff rs]
  | function n i r => cases w <;> simp [identical, identical_iff r, and_assoc]
  | documentType n i s m =>
    cases w <;> simp [identical, identical_iff n, identical_iff i, identical_iff s,
      identical_iff m, and_assoc]
  | _ => cases w <;> simp [identical]
  termination_by structural v
/-- Lists with identical elements are equal. -/
theorem identicalAll_iff (vs ws : List Value) : identicalAll vs ws = true ↔ vs = ws := by
  cases vs with
  | nil => cases ws <;> simp [identicalAll]
  | cons v vs => cases ws <;> simp [identicalAll, identical_iff v, identicalAll_iff vs]
  termination_by structural vs
/-- Tables with identical rows have equal rows. -/
theorem identicalRows_iff (rs ss : List (List Value)) :
    identicalRows rs ss = true ↔ rs = ss := by
  cases rs with
  | nil => cases ss <;> simp [identicalRows]
  | cons r rs => cases ss <;> simp [identicalRows, identicalAll_iff r, identicalRows_iff rs]
  termination_by structural rs
/-- Mappings with identical members are equal. -/
theorem identicalMembers_iff (ms ns : List (Value × Value)) :
    identicalMembers ms ns = true ↔ ms = ns := by
  cases ms with
  | nil => cases ns <;> simp [identicalMembers]
  | cons m ms =>
    obtain ⟨k, v⟩ := m
    cases ns with
    | nil => simp [identicalMembers]
    | cons n ns =>
      obtain ⟨l, w⟩ := n
      simp [identicalMembers, identical_iff k, identical_iff v, identicalMembers_iff ms]
  termination_by structural ms
end

instance : DecidableEq Value := fun v w => decidable_of_iff _ (identical_iff v w)

end Value

end DocumentSql

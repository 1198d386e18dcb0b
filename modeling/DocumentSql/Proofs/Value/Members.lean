/-
Members of mappings under text keys.

A value counts as the key `s` when its text is `s`, whatever class of texts it belongs to.  So
looking up, setting and merging members under text keys obey the laws of finite maps.
-/
import DocumentSql.Value.Equal
import Mathlib

namespace DocumentSql

namespace Value

lemma number?_eq_none_of_asText? {v : Value} {s : String} (h : v.asText? = some s) :
    v.number? = none := by
  unfold asText? at h
  split at h
  · simp [number?]
  · simp [number?]
  · simp [number?]
  · simp at h

/-- How values are compared that are not compared part by part. -/
def sameWhole (v w : Value) : Bool :=
  match v.number?, w.number? with
  | some a, some b => sameNumber a b
  | _, _ => match v.asText?, w.asText? with
    | some s, some t => s == t
    | _, _ => sameAtom v w

/-- A text equals what has the same text. -/
lemma same_of_asText? {v : Value} {s : String} (h : v.asText? = some s) (w : Value) :
    v.same w = (w.asText? == some s) := by
  have hnum := number?_eq_none_of_asText? h
  have hatom : sameAtom v w = false := by
    unfold asText? at h
    split at h <;> simp_all [sameAtom]
  have hsame : v.same w = v.sameWhole w := by
    unfold asText? at h
    split at h
    · cases w <;> rfl
    · cases w <;> rfl
    · cases w <;> rfl
    · simp at h
  rw [hsame, sameWhole, hnum, h, hatom]
  cases w.asText? with
  | none => simp
  | some t => simp [eq_comm]

/-- What has the same text equals a text. -/
lemma same_of_asText?_right {w : Value} {s : String} (h : w.asText? = some s) (v : Value) :
    v.same w = (v.asText? == some s) := by
  cases hv : v.asText? with
  | some t =>
    rw [same_of_asText? hv, h]
    simp [eq_comm]
  | none =>
    have hnum := number?_eq_none_of_asText? h
    have hatom : sameAtom v w = false := by
      unfold asText? at h
      split at h
      · cases v <;> rfl
      · cases v <;> rfl
      · cases v <;> rfl
      · simp at h
    have hsame : v.same w = v.sameWhole w := by
      unfold asText? at h
      split at h
      · cases v <;> rfl
      · cases v <;> rfl
      · cases v <;> rfl
      · simp at h
    rw [hsame, sameWhole, hnum, hv, hatom]
    cases v.number? <;> simp

@[simp] lemma same_text (v : Value) (s : String) : v.same (text s) = (v.asText? == some s) :=
  same_of_asText?_right rfl v

end Value

namespace Members

variable {ms : Members}

@[simp] lemma getText?_nil (s : String) : getText? [] s = none := rfl

lemma getText?_cons (m : Value × Value) (ms : Members) (s : String) :
    getText? (m :: ms) s = if m.1.asText? = some s then some m.2 else getText? ms s := by
  unfold getText? get?
  by_cases h : m.1.asText? = some s <;> simp [h]

/-- Setting a member changes what stands under its key only. -/
lemma getText?_insert (k v : Value) (ms : Members) (s : String) :
    getText? (insert k v ms) s = if k.asText? = some s then some v else getText? ms s := by
  induction ms with
  | nil => simp [insert, getText?_cons]
  | cons m ms ih =>
    rw [insert]
    split
    · next hm =>
      have htext : m.1.asText? = k.asText? := by
        cases hk : k.asText? with
        | some t => simpa [Value.same_of_asText?_right hk] using hm
        | none =>
          cases hmt : m.1.asText? with
          | none => rfl
          | some t => simp [Value.same_of_asText? hmt, hk] at hm
      rw [getText?_cons, getText?_cons, htext]
      split <;> rfl
    · next hm =>
      rw [getText?_cons, ih, getText?_cons]
      by_cases hk : k.asText? = some s
      · have hne : m.1.asText? ≠ some s := by
          intro heq
          rw [Value.same_of_asText?_right hk, heq] at hm
          simp at hm
        simp [hk, hne]
      · simp [hk]

/-- Of two sequences of members, merged in order, the later one counts. -/
lemma getText?_merge (ms extra : Members) (s : String) :
    getText? (merge ms extra) s =
      extra.foldl (fun found m => if m.1.asText? = some s then some m.2 else found)
        (getText? ms s) := by
  induction extra generalizing ms with
  | nil => rfl
  | cons m extra ih =>
    rw [show merge ms (m :: extra) = merge (insert m.1 m.2 ms) extra from rfl, ih,
      getText?_insert, List.foldl_cons]

lemma mem_insert {k v : Value} {ms : Members} {m : Value × Value} (h : m ∈ insert k v ms) :
    m ∈ ms ∨ m.2 = v := by
  induction ms with
  | nil =>
    obtain rfl : m = (k, v) := by simpa [insert] using h
    exact Or.inr rfl
  | cons n ms ih =>
    rw [insert] at h
    split at h
    · rcases List.mem_cons.1 h with rfl | h
      · exact Or.inr rfl
      · exact Or.inl (List.mem_cons_of_mem n h)
    · rcases List.mem_cons.1 h with rfl | h
      · exact Or.inl (by simp)
      · exact (ih h).imp_left (List.mem_cons_of_mem n)

lemma mem_merge {ms extra : Members} {m : Value × Value} (h : m ∈ merge ms extra) :
    m ∈ ms ∨ ∃ n ∈ extra, n.2 = m.2 := by
  induction extra generalizing ms with
  | nil => exact Or.inl h
  | cons n extra ih =>
    rcases ih h with hm | ⟨o, ho, heq⟩
    · rcases mem_insert hm with hm | heq
      · exact Or.inl hm
      · exact Or.inr ⟨n, by simp, heq.symm⟩
    · exact Or.inr ⟨o, List.mem_cons_of_mem n ho, heq⟩

lemma mem_of_getText? {s : String} {v : Value} (h : getText? ms s = some v) :
    ∃ m ∈ ms, m.2 = v := by
  obtain ⟨m, hm, rfl⟩ := Option.map_eq_some_iff.1 h
  exact ⟨m, List.mem_of_find?_eq_some hm, rfl⟩

end Members

end DocumentSql

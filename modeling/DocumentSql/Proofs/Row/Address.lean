/-
Where a row holds what a plain key gives.

A row keeps the plain keys of an object as they are: each one names a member of the data container
(`Row.inContainer?_of_mem`).  A parsed key is a path, and a path is followed through nested mappings
component by component.  The two agree for keys of one component.  A key of several components
names one member with dots in its name, and its path leads elsewhere: into what the object gives
under the first component (`Row.ofMembers_addressed`).
-/
import DocumentSql.Proofs.Key.Plain
import DocumentSql.Proofs.Row.Change
import DocumentSql.Proofs.Text.Cut

namespace DocumentSql

/-! ### Paths of keys -/

namespace FieldKey

/-- What parsing makes of a key that is a path. -/
lemma parse_eq_path {k : Value} {s : String} {path : List String} (hs : k.asText? = some s)
    (h : parse k = .ok (.path path)) : path = Text.split '.' s ∧ s.toList.head? ≠ some '$' := by
  unfold parse at h
  split at h
  · next l => simp [Value.asText?] at hs
  · rw [hs] at h
    dsimp only at h
    split at h
    · next l hl =>
      obtain rfl := Except.ok.inj h
      cases names_of_ofText? hl with
      | path hdollar => exact ⟨rfl, hdollar⟩
    · simp at h

lemma split_ne_nil (s : String) : Text.split '.' s ≠ [] := by
  simpa [Text.split] using Text.splitAll_ne_nil '.' s.toList

/-- A path of one component is the key itself. -/
lemma eq_of_split_eq_singleton {s c : String} (h : Text.split '.' s = [c]) : s = c := by
  have hjoined := Text.joined_split '.' s
  rw [h] at hjoined
  simpa using hjoined.symm

end FieldKey

namespace Row

open Members (getText? IsKeyed)

/-! ### Values at paths -/

/-- What a value holds at a path, followed through nested mappings. -/
def heldAt : List String → Value → Option Value
  | [], v => some v
  | name :: path, v => (getText? (membersOf (some v)) name).bind (heldAt path)

/-- What the data container of a row holds at a path. -/
def containerAt (e : Entity) (r : Row) (path : List String) : Option Value :=
  (get? r e.container).bind (heldAt path)

/-- What an object gives for a member of the data container: under the plain key, else in an
explicit data container. -/
def given? (e : Entity) (ms : Members) (name : String) : Option Value :=
  (plain? ms name).or (getText? (membersOf (explicit? e ms)) name)

lemma containerAt_cons (e : Entity) (r : Row) (name : String) (path : List String) :
    containerAt e r (name :: path) = (inContainer? e r name).bind (heldAt path) := by
  unfold containerAt inContainer?
  cases get? r e.container with
  | none => rfl
  | some v => rfl

variable {e : Entity} {ms : Members} {row : Row}

/-- A path leads into what the object gives for its first component. -/
lemma containerAt_ofMembers (hms : ms.IsKeyed) (h : ofMembers e ms = .ok row) (name : String)
    (path : List String) :
    containerAt e row (name :: path) = (given? e ms name).bind (heldAt path) := by
  rw [containerAt_cons, inContainer?_ofMembers hms h, given?]

lemma plain?_of_mem (hms : ms.IsKeyed) {k v : Value} {s : String} (hm : (k, v) ∈ ms)
    (hs : k.asText? = some s) (hplain : isPropertyKey k = true) :
    plain? ms s = some v.normalize := by
  rw [plain?_eq, if_pos (isPropertyKey_eq hs ▸ hplain), hms.getText?_of_mem hm hs]
  rfl

/-- The data container has a member for every plain key, under the key as it is written. -/
lemma inContainer?_of_mem (hms : ms.IsKeyed) (h : ofMembers e ms = .ok row) {k v : Value}
    {s : String} (hm : (k, v) ∈ ms) (hs : k.asText? = some s) (hplain : isPropertyKey k = true) :
    inContainer? e row s = some v.normalize := by
  rw [inContainer?_ofMembers hms h, plain?_of_mem hms hm hs hplain]
  rfl

/-! ### Objects that have a row -/

/-- The values that an object gives make a row of the entity: it names columns of the entity that
are not computed, and an explicit data container beside plain keys is a mapping or counts as
false. -/
structure IsStorable (e : Entity) (ms : Members) : Prop where
  columns : ∀ m ∈ ms, isPropertyKey m.1 = false → HasPlace e m.1
  container : givesPlain ms = true →
    ∃ given, containerMembers ((explicit? e ms).getD .null) = .ok given

/-- Plain keys that name paths have a place in every entity. -/
lemma hasPlace_of_path {k : Value} {path : List String} (hplain : isPropertyKey k = true)
    (h : FieldKey.parse k = .ok (.path path)) : HasPlace e k := by
  cases hs : k.asText? with
  | none => simp [isPropertyKey, hs] at hplain
  | some s =>
    refine (accepts_iff hs).1 (Or.inl ⟨isPropertyKey_eq hs ▸ hplain, ?_⟩)
    rintro rfl
    unfold FieldKey.parse at h
    split at h
    · simp [Value.asText?] at hs
    · rw [hs] at h
      simp [FieldKey.ofText?, FieldKey.isPath, FieldKey.dropLineEnd, Text.splitAll,
        FieldKey.isComponent] at h

lemma ofMembers_isOk_iff
    (hpaths : ∀ m ∈ ms, isPropertyKey m.1 = true → ∃ path, FieldKey.parse m.1 = .ok (.path path)) :
    (∃ row, ofMembers e ms = .ok row) ↔ IsStorable e ms := by
  constructor
  · rintro ⟨row, h⟩
    obtain ⟨columns, data, hpartition, hcases⟩ := ofMembers_eq_ok h
    refine ⟨fun m hm _ => partition_eq_ok_iff.1 ⟨_, hpartition⟩ m hm, fun hplain => ?_⟩
    rcases hcases with ⟨hno, -⟩ | ⟨-, given, hgiven, -⟩
    · simp [hplain] at hno
    · exact ⟨given, hgiven⟩
  · intro h
    have hplaces : ∀ m ∈ ms, HasPlace e m.1 := by
      intro m hm
      cases hplain : isPropertyKey m.1 with
      | true =>
        obtain ⟨path, hpath⟩ := hpaths m hm hplain
        exact hasPlace_of_path hplain hpath
      | false => exact h.columns m hm hplain
    obtain ⟨p, hp⟩ := partition_eq_ok_iff.2 hplaces
    rcases ofMembers_eq_of_partition hp with ⟨hrow, -⟩ | ⟨-, hplain, herror⟩
    · exact hrow
    · obtain ⟨given, hgiven⟩ := h.container hplain
      simp [herror] at hgiven

/-! ### Keys and their paths -/

/-- An object whose plain keys are paths has a row just when its other values make one.  The data
container of the row holds what a plain key gives under the key as it is written.  So it holds it
at the path of the key, if that has one component; a longer path leads into what the object gives
for its first component. -/
theorem ofMembers_addressed (hms : ms.IsKeyed)
    (hpaths : ∀ m ∈ ms, isPropertyKey m.1 = true → ∃ path, FieldKey.parse m.1 = .ok (.path path)) :
    ((∃ row, ofMembers e ms = .ok row) ↔ IsStorable e ms) ∧
    ∀ row, ofMembers e ms = .ok row → ∀ k v, (k, v) ∈ ms → isPropertyKey k = true →
      ∃ s name path, k.asText? = some s ∧ FieldKey.parse k = .ok (.path (name :: path)) ∧
        inContainer? e row s = some v.normalize ∧
        (path = [] → s = name ∧ containerAt e row [name] = some v.normalize) ∧
        (path ≠ [] →
          containerAt e row (name :: path) = (given? e ms name).bind (heldAt path)) := by
  refine ⟨ofMembers_isOk_iff hpaths, fun row h k v hm hplain => ?_⟩
  obtain ⟨path, hpath⟩ := hpaths _ hm hplain
  obtain ⟨s, hs⟩ := Option.isSome_iff_exists.1 (hms.1 _ hm)
  obtain ⟨hsplit, -⟩ := FieldKey.parse_eq_path hs hpath
  have hmember := inContainer?_of_mem hms h hm hs hplain
  cases path with
  | nil => exact absurd hsplit.symm (FieldKey.split_ne_nil s)
  | cons name path =>
    refine ⟨s, name, path, hs, hpath, hmember, ?_, fun _ => containerAt_ofMembers hms h name path⟩
    rintro rfl
    obtain rfl := FieldKey.eq_of_split_eq_singleton hsplit.symm
    refine ⟨rfl, ?_⟩
    rw [containerAt_cons, hmember]
    rfl

/-- A person with a nested address, and a longer key into it. -/
def addressedPerson : Members :=
  [(.text "name", .text "Ann"), (.text "address", .dict [(.text "city", .text "Rome")]),
    (.text "address.city", .text "Oslo")]

/-- The longer key makes a member of its own, and its path leads to the nested value. -/
theorem addressedPerson_addressed :
    addressedPerson.IsKeyed ∧
    (∀ m ∈ addressedPerson, isPropertyKey m.1 = true →
      ∃ path, FieldKey.parse m.1 = .ok (.path path)) ∧
    ∃ row, ofMembers .document addressedPerson = .ok row ∧
      containerAt .document row ["name"] = some (.text "Ann") ∧
      inContainer? .document row "address.city" = some (.text "Oslo") ∧
      containerAt .document row ["address", "city"] = some (.text "Rome") := by
  have hkeyed : addressedPerson.IsKeyed := by
    constructor <;> simp [addressedPerson, Value.asText?]
  have hpaths : ∀ m ∈ addressedPerson, isPropertyKey m.1 = true →
      ∃ path, FieldKey.parse m.1 = .ok (.path path) := by
    intro m hm _
    simp only [addressedPerson, List.mem_cons, List.not_mem_nil, or_false] at hm
    rcases hm with rfl | rfl | rfl
    · exact ⟨["name"], rfl⟩
    · exact ⟨["address"], rfl⟩
    · exact ⟨["address", "city"], rfl⟩
  obtain ⟨-, hplain⟩ := ofMembers_addressed (e := .document) hkeyed hpaths
  have hrow : ofMembers .document addressedPerson = .ok [("content", .dict addressedPerson)] := rfl
  refine ⟨hkeyed, hpaths, _, hrow, ?_⟩
  obtain ⟨_, name, path, -, hname, -, hheld, -⟩ :=
    hplain _ hrow (.text "name") (.text "Ann") (by simp [addressedPerson]) rfl
  obtain ⟨rfl, rfl⟩ : "name" = name ∧ [] = path :=
    List.cons.inj (FieldKey.path.inj (Except.ok.inj hname))
  obtain ⟨s, first, rest, hs, hcity, hmember, -, hlonger⟩ :=
    hplain _ hrow (.text "address.city") (.text "Oslo") (by simp [addressedPerson]) rfl
  obtain rfl : "address.city" = s := Option.some.inj hs
  obtain ⟨rfl, rfl⟩ : "address" = first ∧ ["city"] = rest :=
    List.cons.inj (FieldKey.path.inj (Except.ok.inj hcity))
  exact ⟨(hheld rfl).2, hmember, hlonger (by simp)⟩

/-- A key of two components is stored under its name, and nothing stands at its path. -/
theorem dottedKey_misplaced :
    FieldKey.parse (.text "a.b") = .ok (.path ["a", "b"]) ∧
    ofMembers .document [(.text "a.b", .int 1)] =
      .ok [("content", .dict [(.text "a.b", .int 1)])] ∧
    containerAt .document [("content", .dict [(.text "a.b", .int 1)])] ["a", "b"] = none := by
  exact ⟨rfl, rfl, rfl⟩

end Row

end DocumentSql

/-
Which row an update changes.

A row is identified by the first identifying column for which an object gives a value.  An update
looks for it in the stored object laid over the patch, so each key of the patch counts where the
stored object has none (`Row.identifier?_merge`).  The row is therefore the one that the stored
object identifies, unless the patch alone gives the column that comes first
(`Statement.update_identified`).
-/
import DocumentSql.Proofs.Row.Update

namespace DocumentSql

namespace Members

lemma IsUnique.hasTextsOnce {ms : Members} (h : ms.IsUnique) : ms.HasTextsOnce :=
  h.imp fun hsame s hm hn => by simp [Value.same_of_asText? hm, hn] at hsame

lemma getText?_merge_of_isUnique (ms : Members) {extra : Members} (h : extra.IsUnique)
    (s : String) : getText? (merge ms extra) s = (getText? extra s).or (getText? ms s) :=
  getText?_merge_of_hasTextsOnce ms h.hasTextsOnce s

end Members

namespace Row

open Members (getText? merge)

variable {e : Entity} {ms stored patch : Members} {c : String} {found own other : String × Value}

/-! ### Identifiers -/

/-- What an object gives to identify a row by a column: a value other than nothing, if the entity
has the column. -/
def identifier? (e : Entity) (ms : Members) (c : String) : Option Value :=
  (getText? ms ("$" ++ c)).filter fun v => !v.isNull && e.hasColumn c

lemma identifyMembers_eq (e : Entity) (ms : Members) : identifyMembers e ms =
    match identifier? e ms "id", identifier? e ms "name" with
    | some v, _ => .ok ("id", v.normalize)
    | none, some v => .ok ("name", v.normalize)
    | none, none => .error (.unidentified e.name) := by
  simp only [identifyMembers, identifyingColumns, List.findSome?_cons, List.findSome?_nil,
    identifier?]
  generalize getText? ms ("$" ++ "id") = id?
  generalize getText? ms ("$" ++ "name") = name?
  cases id? with
  | none => cases name? with
    | none => rfl
    | some w => cases hw : !w.isNull && e.hasColumn "name" <;> simp [Option.filter, hw]
  | some v =>
    cases hv : !v.isNull && e.hasColumn "id" with
    | true => simp [Option.filter, hv]
    | false => cases name? with
      | none => simp [Option.filter, hv]
      | some w => cases hw : !w.isNull && e.hasColumn "name" <;> simp [Option.filter, hv, hw]

lemma identifyMembers_eq_error_iff {err : Error} : identifyMembers e ms = .error err ↔
    err = .unidentified e.name ∧ ∀ c ∈ identifyingColumns, identifier? e ms c = none := by
  have hboth : (∀ c ∈ identifyingColumns, identifier? e ms c = none) ↔
      identifier? e ms "id" = none ∧ identifier? e ms "name" = none := by
    simp [identifyingColumns]
  rw [identifyMembers_eq, hboth]
  cases identifier? e ms "id" <;> cases identifier? e ms "name" <;> simp [eq_comm]

/-- A stored object laid over a patch gives for a column what the stored object gives, and what
the patch gives if the stored object does not have the key. -/
lemma identifier?_merge (e : Entity) (patch : Members) (h : stored.IsUnique) (c : String) :
    identifier? e (merge patch stored) c =
      if gives stored (.text ("$" ++ c)) then identifier? e stored c
      else identifier? e patch c := by
  have hgives : gives stored (.text ("$" ++ c)) = (getText? stored ("$" ++ c)).isSome := rfl
  rw [identifier?, Members.getText?_merge_of_isUnique patch h, hgives, identifier?, identifier?]
  cases getText? stored ("$" ++ c) <;> rfl

lemma identifier?_eq_none_of_not_gives (h : gives ms (.text ("$" ++ c)) = false) :
    identifier? e ms c = none := by
  have hnone : getText? ms ("$" ++ c) = none := by simpa [gives, getText?] using h
  rw [identifier?, hnone]
  rfl

/-- The row is the one that the stored object identifies, unless the patch alone gives the number
and the stored object a name. -/
lemma identified_eq_own_iff (h : stored.IsUnique) (hown : identifyMembers e stored = .ok own)
    (hfound : identifyMembers e (merge patch stored) = .ok found) :
    found = own ↔ own.1 = "id" ∨ gives stored (.text "$id") = true ∨
      identifier? e patch "id" = none := by
  have hid := identifier?_merge e patch h "id"
  have hname := identifier?_merge e patch h "name"
  rw [identifyMembers_eq] at hown hfound
  rw [hid, hname] at hfound
  have hgives : gives stored (.text ("$" ++ "id")) = false → identifier? e stored "id" = none :=
    identifier?_eq_none_of_not_gives
  have hgivesName :
      gives stored (.text ("$" ++ "name")) = false → identifier? e stored "name" = none :=
    identifier?_eq_none_of_not_gives
  change _ ↔ own.1 = "id" ∨ gives stored (.text ("$" ++ "id")) = true ∨ _
  -- a number counts before a name, so the cases are those of who gives a number
  cases hstored : identifier? e stored "id" with
  | some v =>
    cases hg : gives stored (.text ("$" ++ "id")) with
    | false => simp [hgives hg] at hstored
    | true =>
      simp only [hstored, hg, if_true] at hown hfound
      simp [← Except.ok.inj hown, ← Except.ok.inj hfound]
  | none =>
    cases hstoredName : identifier? e stored "name" with
    | none => simp [hstored, hstoredName] at hown
    | some w =>
      have hgn : gives stored (.text ("$" ++ "name")) = true := by
        by_contra hnot
        simp [hgivesName (by simpa using hnot)] at hstoredName
      simp only [hstored, hstoredName, hgn, if_true] at hown hfound
      obtain rfl := Except.ok.inj hown
      cases hg : gives stored (.text ("$" ++ "id")) with
      | true => simp_all
      | false =>
        cases hpatch : identifier? e patch "id" with
        | none => simp_all
        | some u =>
          simp only [hg, hpatch, Bool.false_eq_true, if_false] at hfound
          simp [← Except.ok.inj hfound]

/-- If the stored object identifies no row, the patch does, and it is the row of the patch unless
the stored object has the key that the patch gives. -/
lemma identified_eq_other_iff (h : stored.IsUnique) {err : Error}
    (hnone : identifyMembers e stored = .error err)
    (hfound : identifyMembers e (merge patch stored) = .ok found) :
    ∃ other, identifyMembers e patch = .ok other ∧
      (found = other ↔ gives stored (.text ("$" ++ other.1)) = false) := by
  have hstored := (identifyMembers_eq_error_iff.1 hnone).2
  have hid := identifier?_merge e patch h "id"
  have hname := identifier?_merge e patch h "name"
  rw [hstored "id" (by simp [identifyingColumns])] at hid
  rw [hstored "name" (by simp [identifyingColumns])] at hname
  rw [identifyMembers_eq, hid, hname] at hfound
  rw [identifyMembers_eq]
  -- whatever is found is given by the patch, under a key that the stored object does not hide
  cases hpatch : identifier? e patch "id" with
  | some v =>
    refine ⟨("id", v.normalize), rfl, ?_⟩
    cases hg : gives stored (.text ("$" ++ "id")) with
    | false => simp_all
    | true =>
      -- what is found is a name, if anything
      rw [hpatch, hg] at hfound
      split at hfound
      · simp_all
      · obtain rfl := Except.ok.inj hfound
        simp
      · simp at hfound
  | none =>
    rw [hpatch, ite_self] at hfound
    cases hg : gives stored (.text ("$" ++ "name")) with
    | true =>
      rw [hg] at hfound
      simp at hfound
    | false =>
      cases hpatchName : identifier? e patch "name" with
      | none =>
        rw [hg, hpatchName] at hfound
        simp at hfound
      | some w =>
        rw [hg, hpatchName] at hfound
        obtain rfl := Except.ok.inj hfound
        exact ⟨("name", w.normalize), rfl, iff_of_true rfl hg⟩

lemma identify_merge_eq_error_iff (h : stored.IsUnique) :
    identifyMembers e (merge patch stored) = .error (.unidentified e.name) ↔
      ∀ c ∈ identifyingColumns, identifier? e stored c = none ∧
        (identifier? e patch c = none ∨ gives stored (.text ("$" ++ c)) = true) := by
  rw [identifyMembers_eq_error_iff, and_iff_right rfl]
  refine forall₂_congr fun c _ => ?_
  rw [identifier?_merge e patch h]
  cases hg : gives stored (.text ("$" ++ c)) with
  | true => simp
  | false => simp [identifier?_eq_none_of_not_gives hg]

/-! ### Other reasons to fail -/

lemma placeOf_ne_unidentified (k : Value) (name : String) :
    placeOf e k ≠ .error (.unidentified name) := by
  unfold placeOf
  split
  · simp
  · split
    · simp
    · split
      · simp
      · split <;> simp
    · simp

lemma partition_ne_unidentified (ms : Members) (name : String) :
    partition e ms ≠ .error (.unidentified name) := by
  induction ms with
  | nil => simp [partition]
  | cons m ms ih =>
    refine Result.bind_ne_error (placeOf_ne_unidentified m.1 name) fun place _ => ?_
    cases place <;> exact Result.bind_ne_error ih fun _ _ => by simp

lemma ofMembers_ne_unidentified (ms : Members) (name : String) :
    ofMembers e ms ≠ .error (.unidentified name) := by
  refine Result.bind_ne_error (partition_ne_unidentified ms name) fun parts _ => ?_
  change withData e parts.1 parts.2 ≠ _
  unfold withData
  split
  · simp
  · refine Result.bind_ne_error (fun h => ?_) fun _ _ => by simp
    simpa using containerMembers_eq_error h

end Row

namespace Statement

open Members (merge)
open Row (identifyMembers identifier? gives identifyingColumns)

variable {e : Entity} {stored patch : Members}

lemma make_ne_unidentified (text : String) (params : List Value) (origin : Members)
    (name : String) : Predicate.make text params origin ≠ .error (.unidentified name) := by
  unfold Predicate.make
  dsimp only
  split <;> simp

lemma assignments_ne_unidentified (changes : Row) (name : String) :
    assignments changes ≠ .error (.unidentified name) := by
  induction changes with
  | nil => simp [assignments]
  | cons c changes ih =>
    have hencode : encode c.2 ≠ .error (.unidentified name) := by
      unfold encode
      dsimp only
      split
      · split <;> simp
      · simp
    refine Result.bind_ne_error hencode fun v _ => ?_
    refine Result.bind_ne_error (make_ne_unidentified _ _ _ name) fun p _ => ?_
    exact Result.bind_ne_error ih fun _ _ => by simp

lemma updateRow_ne_unidentified (changes : Row) (column : String) (v : Value) (name : String) :
    updateRow e changes column v ≠ .error (.unidentified name) := by
  refine Result.bind_ne_error (assignments_ne_unidentified changes name) fun ps _ => ?_
  refine Result.bind_ne_error (make_ne_unidentified _ _ _ name) fun assigned _ => ?_
  refine Result.bind_ne_error (make_ne_unidentified _ _ _ name) fun target _ => ?_
  refine Result.bind_ne_error ?_ fun _ _ => by simp
  refine Result.bind_ne_error ?_ fun qs _ => make_ne_unidentified _ _ _ name
  exact Result.bind_ne_error (make_ne_unidentified _ _ _ name) fun q _ => by
    simp [Predicate.ofParts, Predicate.Part.toPredicate, bind, Except.bind]

lemma changedColumns_ne_unidentified (stored patch : Members) (name : String) :
    Row.changedColumns e (.dict stored) (.dict patch) ≠ .error (.unidentified name) := by
  rw [Row.changedColumns_dict]
  refine Result.bind_ne_error (Row.ofMembers_ne_unidentified stored name) fun before _ => ?_
  exact Result.bind_ne_error (Row.ofMembers_ne_unidentified _ name) fun after _ => by simp

/-- An update fails for want of an identifier only if the objects have none. -/
lemma update_eq_unidentified_iff : update e (.dict stored) (.dict patch) =
      .error (.unidentified e.name) ↔
    identifyMembers e (merge patch stored) = .error (.unidentified e.name) := by
  rw [update_dict]
  cases hfound : identifyMembers e (merge patch stored) with
  | error err => simp [bind, Except.bind]
  | ok found =>
    refine iff_of_false (Result.bind_ne_error (by simp) fun found _ => ?_) (by simp)
    refine Result.bind_ne_error (changedColumns_ne_unidentified stored patch _) fun changes _ => ?_
    split
    · simp
    · have hrow := updateRow_ne_unidentified (e := e) changes found.1 found.2 e.name
      cases hs : updateRow e changes found.1 found.2 with
      | ok s => simp [Except.map]
      | error err => simpa [Except.map, hs] using hrow

/-- The row that an update changes is the one that the stored object identifies, unless it does so
by its name and the patch gives a number under a key that the stored object does not have.  If the
stored object identifies no row, it is the one that the patch identifies, unless the stored object
has the key that the patch gives.  The update fails for want of an identifier just when for no
column the stored object gives a value, or the patch does and the stored object does not have the
key. -/
theorem update_identified (hstored : stored.IsUnique) :
    (∀ s, update e (.dict stored) (.dict patch) = .ok (some s) → ∃ changes found,
      identifyMembers e (merge patch stored) = .ok found ∧
      Assigns e changes found.1 found.2 s ∧
      (∀ own, identifyMembers e stored = .ok own →
        (found = own ↔ own.1 = "id" ∨ gives stored (.text "$id") = true ∨
          identifier? e patch "id" = none)) ∧
      ∀ err, identifyMembers e stored = .error err → ∃ other,
        identifyMembers e patch = .ok other ∧
        (found = other ↔ gives stored (.text ("$" ++ other.1)) = false)) ∧
    (update e (.dict stored) (.dict patch) = .error (.unidentified e.name) ↔
      ∀ c ∈ identifyingColumns, identifier? e stored c = none ∧
        (identifier? e patch c = none ∨ gives stored (.text ("$" ++ c)) = true)) := by
  refine ⟨fun s hs => ?_, ?_⟩
  · obtain ⟨changes, -, column, v, hfound, hassigns⟩ := update_eq_ok hs
    exact ⟨changes, (column, v), hfound, hassigns,
      fun own hown => Row.identified_eq_own_iff hstored hown hfound,
      fun err hnone => Row.identified_eq_other_iff hstored hnone hfound⟩
  · rw [update_eq_unidentified_iff, Row.identify_merge_eq_error_iff hstored]

/-! ### Samples -/

/-- A type of a number, with a note. -/
def notedType : Members := [(.text "$id", .int 1), (.text "note", .text "a")]

/-- A type of a name, with a note. -/
def notedName : Members := [(.text "$name", .text "Person"), (.text "note", .text "a")]

/-- Another note, with a number. -/
def renumberedNote : Members := [(.text "$id", .int 5), (.text "note", .text "b")]

lemma update_notedType :
    (update .type (.dict notedType) (.dict renumberedNote)).map (·.map (·.text)) =
      .ok (some "UPDATE types SET meta = $1 WHERE id = $2 RETURNING *") :=
  Result.map_eq_ok_of_beq (by decide +kernel)

/-- The number of the stored object counts, whatever number the patch gives. -/
theorem notedType_identified :
    notedType.IsUnique ∧ ∃ s changes,
      update .type (.dict notedType) (.dict renumberedNote) = .ok (some s) ∧
      identifyMembers .type notedType = .ok ("id", .int 1) ∧
      Assigns .type changes "id" (.int 1) s := by
  have hunique : notedType.IsUnique := by simp [Members.IsUnique, notedType, Value.asText?]
  obtain ⟨outcome, hs, htext⟩ := Result.map_eq_ok_iff.1 update_notedType
  obtain ⟨s, rfl, -⟩ := Option.map_eq_some_iff.1 htext
  obtain ⟨changes, found, -, hassigns, hown, -⟩ := (update_identified hunique).1 s hs
  obtain rfl : found = ("id", .int 1) := (hown ("id", .int 1) rfl).2 (Or.inl rfl)
  exact ⟨hunique, s, changes, hs, rfl, hassigns⟩

/-- The number of the patch counts before the name of the stored object, so that the row of another
type is changed; and under a number that is nothing, the number of the patch is not found. -/
theorem notedName_misidentified :
    identifyMembers .type notedName = .ok ("name", .text "Person") ∧
      ((update .type (.dict notedName) (.dict renumberedNote)).map
        (·.map fun s => (s.text, s.params.length, (s.params.drop 1).all (·.same (.int 5))))) =
          .ok (some ("UPDATE types SET meta = $1 WHERE id = $2 RETURNING *", 2, true)) ∧
      identifyMembers .type renumberedNote = .ok ("id", .int 5) ∧
      update .type (.dict [(.text "$id", .null), (.text "note", .text "a")])
        (.dict renumberedNote) = .error (.unidentified "Type") :=
  ⟨rfl, Result.map_eq_ok_of_beq (by decide +kernel), rfl, rfl⟩

end Statement

end DocumentSql

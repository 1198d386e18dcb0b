/-
Settings as they can come about.

A group that is replaced is kept in its slot, and what is set in a group keeps the names that the
group has.  So a slot that once held a database group always holds one, and the two present groups
never share a slot.  Settings are made so from any environment (`Settings.isFormed_ofEnviron`), and
every step of a program leaves them so (`Settings.Reachable.isFormed`).
-/
import DocumentSql.Proofs.Result
import DocumentSql.Proofs.Text.Cut
import DocumentSql.Settings.Program

namespace DocumentSql

/-! ### Keys -/

namespace SettingKey

/-- The dotted key under which something is addressed. -/
def text : SettingKey → String
  | group g => g.name
  | field g name => g.name ++ "." ++ name
  | level => "loglevel"
  | typeAwareness => "type_awareness"
  | timeout => "timeout"
  | defaultOrder => "default_order"
  | other key => key

lemma name_of_ofName? {s : String} {g : SettingGroup} (h : SettingGroup.ofName? s = some g) :
    g.name = s := by
  simpa using List.find?_some h

lemma text_ofName (name : String) : (ofName name).text = name := by
  have hsingle : ∀ m ∈ single, m.2.text = m.1 := by decide
  unfold ofName
  split
  · next g hg => exact name_of_ofName? hg
  · cases hfound : single.lookup name with
    | none => rfl
    | some key =>
      obtain ⟨before, after, heq, -⟩ := List.lookup_eq_some_iff.1 hfound
      exact hsingle (name, key) (by simp [heq])

/-- A dotted key is told by what it addresses. -/
lemma text_ofText (key : String) : (ofText key).text = key := by
  have hjoined := Text.joined_split '.' key
  unfold ofText
  split
  · next name hsplit =>
    rw [hsplit] at hjoined
    rw [text_ofName]
    simpa using hjoined
  · next stem name hsplit =>
    rw [hsplit] at hjoined
    split
    · next g hg =>
      split
      · rw [text, name_of_ofName? hg]
        simpa using hjoined
      · rfl
    · rfl
  · rfl

lemma ofText_injective : Function.Injective ofText :=
  Function.LeftInverse.injective text_ofText

/-- What is addressed as a field is one. -/
lemma hasField_of_ofText {key name : String} {g : SettingGroup}
    (h : ofText key = .field g name) : g.hasField name = true := by
  have hname : ∀ name, ∀ g n, ofName name ≠ .field g n := by
    intro name g n
    unfold ofName
    split
    · simp
    · cases hfound : single.lookup name with
      | none => simp
      | some k =>
        obtain ⟨before, after, heq, -⟩ := List.lookup_eq_some_iff.1 hfound
        have hk : ∀ m ∈ single, ∀ g n, m.2 ≠ .field g n := by simp [single]
        exact hk (name, k) (by simp [heq]) g n
  unfold ofText at h
  split at h
  · exact absurd h (hname _ g name)
  · split at h
    · split at h
      · next hfield =>
        obtain ⟨rfl, rfl⟩ := SettingKey.field.inj h
        exact hfield
      · cases h
    · cases h
  · cases h

end SettingKey

/-! ### Groups -/

namespace GroupContents

/-- The contents are those of a group: its fields in their order, and other names behind them. -/
def IsOf (g : SettingGroup) (c : GroupContents) : Prop :=
  ∃ others, c.map Prod.fst = g.fields.map (·.name) ++ others ∧
    ∀ name ∈ others, g.hasField name = false

variable {g h : SettingGroup} {c d : GroupContents}

@[simp] lemma map_fst_set (name : String) (v : Value) (c : GroupContents) :
    (c.set name v).map Prod.fst = c.map Prod.fst := by
  unfold set
  rw [List.map_map]
  refine List.map_congr_left fun m _ => ?_
  by_cases hm : m.1 = name <;> simp [hm]

lemma IsOf.of_names (hc : IsOf g c) (heq : d.map Prod.fst = c.map Prod.fst) : IsOf g d := by
  obtain ⟨others, hnames, hothers⟩ := hc
  exact ⟨others, heq.trans hnames, hothers⟩

lemma IsOf.ne_nil (hc : IsOf g c) : c ≠ [] := by
  rintro rfl
  obtain ⟨others, hnames, -⟩ := hc
  cases g <;> simp [SettingGroup.fields] at hnames

/-- The first field tells the group. -/
lemma IsOf.unique (hg : IsOf g c) (hh : IsOf h c) : g = h := by
  obtain ⟨others, hnames, -⟩ := hg
  obtain ⟨others', hnames', -⟩ := hh
  have heq := hnames.symm.trans hnames'
  cases g <;> cases h <;> simp [SettingGroup.fields] at heq ⊢

/-- Values that are looked up for fields stand under the names of the fields. -/
lemma names_of_mapM {value : SettingField → Result Value} {fields : List SettingField}
    (hc : fields.mapM (fun f => do let v ← value f; pure (f.name, v)) = .ok c) :
    c.map Prod.fst = fields.map (·.name) := by
  induction fields generalizing c with
  | nil =>
    obtain rfl := Except.ok.inj hc
    rfl
  | cons f fields ih =>
    rw [List.mapM_cons] at hc
    obtain ⟨m, hm, hc⟩ := Result.bind_eq_ok_iff.1 hc
    obtain ⟨v, -, hm⟩ := Result.bind_eq_ok_iff.1 hm
    obtain ⟨ms, hms, hc⟩ := Result.bind_eq_ok_iff.1 hc
    obtain rfl := Except.ok.inj hm
    obtain rfl := Except.ok.inj hc
    rw [List.map_cons, List.map_cons, ih hms]

lemma isOf_make {e : Environ} {given : List (String × Value)} (hc : make e g given = .ok c) :
    IsOf g c := by
  obtain ⟨declared, hdeclared, hc⟩ := Result.bind_eq_ok_iff.1 hc
  obtain rfl := Except.ok.inj hc
  have hnames : declared.map Prod.fst = g.fields.map (·.name) := names_of_mapM hdeclared
  refine ⟨(given.filter fun m => !g.hasField m.1).map Prod.fst, by simp [hnames], ?_⟩
  intro name hname
  obtain ⟨m, hm, rfl⟩ := List.mem_map.1 hname
  simpa using (List.mem_filter.1 hm).2

lemma isOf_ofValue {e : Environ} {v : Value} (hc : ofValue e g v = .ok c) : IsOf g c := by
  unfold ofValue at hc
  split at hc
  · obtain ⟨given, -, hc⟩ := Result.bind_eq_ok_iff.1 hc
    exact isOf_make hc
  · cases hc

end GroupContents

namespace Settings

open GroupContents (IsOf)

/-! ### Settings that are well formed -/

/-- Every present group is in a slot with contents of its kind. -/
def IsFormed (s : Settings) : Prop := ∀ g, IsOf g (s.contents g)

/-- All groups of the first settings are in their slots of the second ones, with the same names. -/
def Extends (s t : Settings) : Prop :=
  ∀ i < s.groups.length,
    i < t.groups.length ∧ (t.contentsAt i).map Prod.fst = (s.contentsAt i).map Prod.fst

variable {s t u : Settings} {g h : SettingGroup}

lemma Extends.refl (s : Settings) : Extends s s := fun _ hi => ⟨hi, rfl⟩

lemma Extends.trans (hst : Extends s t) (htu : Extends t u) : Extends s u := by
  intro i hi
  obtain ⟨hlt, heq⟩ := hst i hi
  obtain ⟨hlt', heq'⟩ := htu i hlt
  exact ⟨hlt', heq'.trans heq⟩

lemma IsFormed.slot_lt (hs : s.IsFormed) (g : SettingGroup) : s.slot g < s.groups.length := by
  by_contra hge
  refine (hs g).ne_nil ?_
  rw [contents, contentsAt, List.getElem?_eq_none (by omega)]
  rfl

/-- The present groups do not share a slot. -/
lemma IsFormed.slot_inj (hs : s.IsFormed) (heq : s.slot g = s.slot h) : g = h := by
  have hg := hs g
  rw [contents, heq] at hg
  exact hg.unique (hs h)

/-- What was a present group is one of its kind for ever. -/
lemma Extends.isOf (hst : Extends s t) (hs : s.IsFormed) (g : SettingGroup) :
    IsOf g (t.contentsAt (s.slot g)) :=
  (hs g).of_names (hst _ (hs.slot_lt g)).2

/-! ### Steps -/

/-- The settings with another group behind the ones that there are. -/
def append (s : Settings) (c : GroupContents) : Settings := { s with groups := s.groups ++ [c] }

@[simp] lemma slot_point (s : Settings) (g h : SettingGroup) (i : Nat) :
    (s.point g i).slot h = if h = g then i else s.slot h := by
  cases g <;> cases h <;> rfl

@[simp] lemma groups_point (s : Settings) (g : SettingGroup) (i : Nat) :
    (s.point g i).groups = s.groups := by
  cases g <;> rfl

@[simp] lemma contentsAt_point (s : Settings) (g : SettingGroup) (i j : Nat) :
    (s.point g i).contentsAt j = s.contentsAt j := by
  rw [contentsAt, groups_point, contentsAt]

@[simp] lemma slot_append (s : Settings) (c : GroupContents) (g : SettingGroup) :
    (s.append c).slot g = s.slot g := by
  cases g <;> rfl

lemma contentsAt_append_of_lt {i : Nat} (hi : i < s.groups.length) (c : GroupContents) :
    (s.append c).contentsAt i = s.contentsAt i := by
  rw [contentsAt, append, List.getElem?_append_left hi, contentsAt]

lemma contentsAt_append_length (s : Settings) (c : GroupContents) :
    (s.append c).contentsAt s.groups.length = c := by
  simp [contentsAt, append]

/-- What a value does to settings when it is assigned: it makes a new group, or it is kept. -/
lemma assignTo_eq_ok {key : SettingKey} {v : Value} (h : s.assignTo key v = .ok t) :
    (∃ g c, key = .group g ∧ GroupContents.ofValue s.environ g v = .ok c ∧
        t = (s.append c).point g s.groups.length) ∨
      (∀ g, key ≠ .group g) ∧ ∃ c, accept key v = .ok c ∧ t = s.keep key c := by
  cases key with
  | group g =>
    obtain ⟨c, hc, h⟩ := Result.bind_eq_ok_iff.1 h
    exact Or.inl ⟨g, c, rfl, hc, (Except.ok.inj h).symm⟩
  | _ =>
    obtain ⟨c, hc, h⟩ := Result.bind_eq_ok_iff.1 h
    exact Or.inr ⟨by simp, c, hc, (Except.ok.inj h).symm⟩

lemma extends_append (s : Settings) (c : GroupContents) : Extends s (s.append c) := by
  intro i hi
  refine ⟨?_, by rw [contentsAt_append_of_lt hi]⟩
  simp [append]
  omega

lemma extends_point (s : Settings) (g : SettingGroup) (i : Nat) : Extends s (s.point g i) := by
  intro j hj
  rw [contentsAt_point, groups_point]
  exact ⟨hj, rfl⟩

/-- What is kept leaves the groups in their slots, with their names. -/
lemma extends_keep (s : Settings) (key : SettingKey) (c : SettingContent) :
    Extends s (s.keep key c) := by
  have hsame : ∀ t : Settings, t.groups = s.groups → Extends s t := by
    intro t ht i hi
    rw [contentsAt, ht, contentsAt]
    exact ⟨hi, rfl⟩
  unfold keep
  split
  · exact extends_point s _ _
  · intro i hi
    refine ⟨by simpa using hi, ?_⟩
    simp only [contentsAt, List.getElem?_modify]
    split
    · cases s.groups[i]? <;> simp
    · simp
  all_goals exact hsame _ rfl

lemma slot_keep {key : SettingKey} (hkey : ∀ g, key ≠ .group g) (c : SettingContent) :
    (s.keep key c).slot g = s.slot g := by
  unfold keep
  split
  · next h _ => exact absurd rfl (hkey h)
  all_goals cases g <;> rfl

lemma IsFormed.of_slots (hs : s.IsFormed) (hst : Extends s t) (hslot : ∀ g, t.slot g = s.slot g) :
    t.IsFormed := by
  intro g
  rw [contents, hslot]
  exact hst.isOf hs g

lemma isFormed_assignTo (hs : s.IsFormed) {key : SettingKey} {v : Value}
    (h : s.assignTo key v = .ok t) : t.IsFormed ∧ Extends s t := by
  rcases assignTo_eq_ok h with ⟨g, c, rfl, hc, rfl⟩ | ⟨hkey, c, -, rfl⟩
  · refine ⟨fun h => ?_, (extends_append s c).trans (extends_point _ g _)⟩
    rw [contents, slot_point, contentsAt_point]
    split
    · next heq =>
      rw [contentsAt_append_length, heq]
      exact GroupContents.isOf_ofValue hc
    · rw [slot_append, contentsAt_append_of_lt (hs.slot_lt h)]
      exact hs h
  · exact ⟨hs.of_slots (extends_keep s key c) fun g => slot_keep hkey c, extends_keep s key c⟩

lemma isFormed_assignAll (hs : s.IsFormed) (changes : List (String × Value)) :
    (assignAll changes s).2.IsFormed ∧ Extends s (assignAll changes s).2 := by
  induction changes generalizing s with
  | nil => exact ⟨hs, .refl s⟩
  | cons m changes ih =>
    rw [assignAll]
    split
    · next t ht =>
      obtain ⟨hformed, hext⟩ := isFormed_assignTo hs ht
      obtain ⟨hformed', hext'⟩ := ih hformed
      exact ⟨hformed', hext.trans hext'⟩
    · exact ⟨hs, .refl s⟩

lemma isFormed_drop (hs : s.IsFormed) (key : String) :
    (s.drop key).IsFormed ∧ Extends s (s.drop key) := by
  have hext : Extends s (s.drop key) := fun i hi => ⟨hi, rfl⟩
  exact ⟨hs.of_slots hext fun g => by cases g <;> rfl, hext⟩

/-- What settings held before may be kept again, in settings that have their groups. -/
lemma isFormed_restore (hs : s.IsFormed) (hst : Extends s t) (ht : t.IsFormed) (key : String) :
    (t.restore key (s.content? (.ofText key))).IsFormed ∧
      Extends t (t.restore key (s.content? (.ofText key))) := by
  cases hc : s.content? (.ofText key) with
  | none => exact isFormed_drop ht key
  | some c =>
    refine ⟨?_, extends_keep t _ c⟩
    by_cases hgroup : ∃ g, SettingKey.ofText key = .group g
    · obtain ⟨g, hg⟩ := hgroup
      rw [hg] at hc
      obtain rfl := Option.some.inj hc
      rw [restore, hg]
      intro h
      rw [keep, contents, slot_point, contentsAt_point]
      split
      · next heq =>
        rw [heq]
        exact hst.isOf hs g
      · exact ht h
    · exact ht.of_slots (extends_keep t _ c) fun g =>
        slot_keep (fun g hg => hgroup ⟨g, hg⟩) c

lemma isFormed_restoreAll (hs : s.IsFormed) (hst : Extends s t) (ht : t.IsFormed)
    (changes : List (String × Value)) :
    (restoreAll (changes.map fun m => (m.1, s.content? (.ofText m.1))) t).IsFormed ∧
      Extends t (restoreAll (changes.map fun m => (m.1, s.content? (.ofText m.1))) t) := by
  induction changes generalizing t with
  | nil => exact ⟨ht, .refl t⟩
  | cons m changes ih =>
    obtain ⟨hformed, hext⟩ := isFormed_restore hs hst ht m.1
    obtain ⟨hformed', hext'⟩ := ih (hst.trans hext) hformed
    exact ⟨hformed', hext.trans hext'⟩

/-- A body that keeps settings well formed keeps them so under overrides. -/
lemma isFormed_override {α : Type} (hs : s.IsFormed) (changes : List (String × Value))
    {body : Settings → Result α × Settings}
    (hbody : ∀ t : Settings, t.IsFormed → (body t).2.IsFormed ∧ Extends t (body t).2) :
    (override changes body s).2.IsFormed ∧ Extends s (override changes body s).2 := by
  obtain ⟨hformed, hext⟩ := isFormed_assignAll hs (dottedChanges changes)
  unfold override
  dsimp only
  split
  · next e t heq =>
    rw [heq] at hformed hext
    obtain ⟨hformed', hext'⟩ := isFormed_restoreAll hs hext hformed (dottedChanges changes)
    exact ⟨hformed', hext.trans hext'⟩
  · next t heq =>
    rw [heq] at hformed hext
    obtain ⟨hinner, hextInner⟩ := hbody t hformed
    obtain ⟨hformed', hext'⟩ :=
      isFormed_restoreAll hs (hext.trans hextInner) hinner (dottedChanges changes)
    exact ⟨hformed', (hext.trans hextInner).trans hext'⟩

/-! ### Settings from the environment -/

/-- The second settings are the first ones, or hold a text under a key besides. -/
def Takes (key : SettingKey) (s t : Settings) : Prop :=
  t = s ∨ ∃ text, s.assignTo key (.text text) = .ok t

/-- Settings as they are made: two groups of their kinds, nothing beside the declared keys, and what
the environment gives for the single ones. -/
lemma exists_of_ofEnviron {e : Environ} (h : ofEnviron e = .ok s) :
    ∃ database procedures s₁ s₂ s₃, IsOf .database database ∧ IsOf .procedures procedures ∧
      Takes .level ⟨e, [database, procedures], 0, 1, .info, false, 30000, "$created", []⟩ s₁ ∧
      Takes .typeAwareness s₁ s₂ ∧ Takes .timeout s₂ s₃ ∧ Takes .defaultOrder s₃ s := by
  unfold ofEnviron at h
  obtain ⟨givenDatabase, -, h⟩ := Result.bind_eq_ok_iff.1 h
  obtain ⟨givenProcedures, -, h⟩ := Result.bind_eq_ok_iff.1 h
  obtain ⟨database, hdatabase, h⟩ := Result.bind_eq_ok_iff.1 h
  obtain ⟨procedures, hprocedures, h⟩ := Result.bind_eq_ok_iff.1 h
  obtain ⟨s₁, hs₁, h⟩ := Result.bind_eq_ok_iff.1 h
  obtain ⟨s₂, hs₂, h⟩ := Result.bind_eq_ok_iff.1 h
  obtain ⟨s₃, hs₃, h⟩ := Result.bind_eq_ok_iff.1 h
  have htakes : ∀ {key : SettingKey} {s t : Settings} {x : Result Settings},
      (x = .ok s ∨ ∃ text, x = s.assignTo key (.text text)) → x = .ok t → Takes key s t := by
    rintro key s t x (rfl | ⟨text, rfl⟩) ht
    · exact Or.inl (Except.ok.inj ht).symm
    · exact Or.inr ⟨text, ht⟩
  refine ⟨database, procedures, s₁, s₂, s₃, ?_, ?_, htakes ?_ hs₁, htakes ?_ hs₂, htakes ?_ hs₃,
    htakes ?_ h⟩
  · rcases givenDatabase with _ | v
    · exact GroupContents.isOf_make hdatabase
    · cases v <;> exact GroupContents.isOf_ofValue hdatabase
  · rcases givenProcedures with _ | v
    · exact GroupContents.isOf_make hprocedures
    · cases v <;> exact GroupContents.isOf_ofValue hprocedures
  -- a setting beside the groups is assigned if one of its variables is there
  all_goals
    dsimp only
    split
    · exact Or.inr ⟨_, rfl⟩
    · exact Or.inl rfl

lemma IsFormed.takes (hs : s.IsFormed) {key : SettingKey} (h : Takes key s t) : t.IsFormed := by
  rcases h with rfl | ⟨text, h⟩
  · exact hs
  · exact (isFormed_assignTo hs h).1

/-- Settings are well formed when they are made. -/
lemma isFormed_ofEnviron {e : Environ} (h : ofEnviron e = .ok s) : s.IsFormed := by
  obtain ⟨database, procedures, s₁, s₂, s₃, hdatabase, hprocedures, h₁, h₂, h₃, h₄⟩ :=
    exists_of_ofEnviron h
  have hstart :
      IsFormed ⟨e, [database, procedures], 0, 1, .info, false, 30000, "$created", []⟩ := by
    intro g
    cases g with
    | database => exact hdatabase
    | procedures => exact hprocedures
  exact (((hstart.takes h₁).takes h₂).takes h₃).takes h₄

/-! ### Programs -/

lemma isFormed_answer {st : ProgramState} (hst : st.settings.IsFormed) (a : SettingsAnswer) :
    (st.answer a).settings.IsFormed ∧ Extends st.settings (st.answer a).settings :=
  ⟨hst, .refl _⟩

lemma isFormed_change {st : ProgramState} (hst : st.settings.IsFormed) {r : Result Settings}
    (hr : ∀ t, r = .ok t → t.IsFormed ∧ Extends st.settings t) :
    (st.change r).settings.IsFormed ∧ Extends st.settings (st.change r).settings := by
  cases r with
  | ok t => exact hr t rfl
  | error e => exact ⟨hst, .refl _⟩

lemma isFormed_load (hs : s.IsFormed) (path text : String) :
    (s.load path text).2.1.IsFormed ∧ Extends s (s.load path text).2.1 := by
  unfold load
  split
  · exact ⟨hs, .refl s⟩
  · dsimp only
    split
    · exact isFormed_assignAll hs _
    · exact ⟨hs, .refl s⟩

lemma isFormed_save {st : ProgramState} (hst : st.settings.IsFormed) (path : String)
    (isVerbose : Bool) : (st.save path isVerbose).settings.IsFormed ∧
      Extends st.settings (st.save path isVerbose).settings := by
  unfold ProgramState.save
  split
  · exact isFormed_answer hst _
  · exact ⟨hst, .refl _⟩

lemma settings_block (st : ProgramState) (changes : List (String × Value)) (isFailing : Bool)
    (run : ProgramState → ProgramState) :
    (st.block changes isFailing run).settings =
      (override changes (fun s => (.ok (run ⟨s, [], []⟩), (run ⟨s, [], []⟩).settings))
        st.settings).2 := by
  unfold ProgramState.block
  dsimp only
  split <;> rfl

mutual
/-- A step of a program leaves settings well formed. -/
lemma isFormed_runStep (step : SettingsStep) {st : ProgramState} (hst : st.settings.IsFormed) :
    (runStep step st).settings.IsFormed ∧ Extends st.settings (runStep step st).settings := by
  cases step with
  | assign key v =>
    rw [runStep]
    exact isFormed_change hst fun t ht => isFormed_assignTo hst ht
  | delete key =>
    rw [runStep]
    refine isFormed_change hst fun t ht => ?_
    unfold delete at ht
    split at ht
    · obtain rfl := Except.ok.inj ht
      exact isFormed_drop hst key
    · cases ht
  | load path text =>
    rw [runStep]
    exact isFormed_load hst path text
  | save path isVerbose =>
    rw [runStep]
    exact isFormed_save hst path isVerbose
  | block changes isFailing steps =>
    rw [runStep, settings_block]
    exact isFormed_override hst changes fun t ht => isFormed_runSteps steps ht
  | _ =>
    rw [runStep]
    exact isFormed_answer hst _
lemma isFormed_runSteps (steps : List SettingsStep) {st : ProgramState}
    (hst : st.settings.IsFormed) :
    (runSteps steps st).settings.IsFormed ∧ Extends st.settings (runSteps steps st).settings := by
  cases steps with
  | nil =>
    rw [runSteps]
    exact ⟨hst, .refl _⟩
  | cons step steps =>
    obtain ⟨hformed, hext⟩ := isFormed_runStep step hst
    obtain ⟨hformed', hext'⟩ := isFormed_runSteps steps hformed
    rw [runSteps]
    exact ⟨hformed', hext.trans hext'⟩
end

/-- Settings that a program can come to: made from an environment, left by a step, or at the start
of a block, under its overrides. -/
inductive Reachable : Settings → Prop where
  /-- Settings as they are made. -/
  | made {e : Environ} {s : Settings} : ofEnviron e = .ok s → Reachable s
  /-- Settings behind a step. -/
  | after {st : ProgramState} (step : SettingsStep) :
      Reachable st.settings → Reachable (runStep step st).settings
  /-- Settings in a block. -/
  | inside {s : Settings} (changes : List (String × Value)) :
      Reachable s → Reachable (assignAll (dottedChanges changes) s).2

theorem Reachable.isFormed (h : Reachable s) : s.IsFormed := by
  induction h with
  | made h => exact isFormed_ofEnviron h
  | after step _ ih => exact (isFormed_runStep step ih).1
  | inside changes _ ih => exact (isFormed_assignAll ih _).1

end Settings

end DocumentSql

/-
What settings list.

Settings list the dotted keys of what is declared, a key for each field of a group, and then the
keys that are kept aside, which address nothing declared.  A value that is a mapping is listed by
its members: set in a field of a group it hides the field, and shows keys that address nothing.  So
do the members that a group has beside its fields.  Settings list each key that holds a value once,
and show under it the value that is read there, just when no field of a group holds a mapping and no
other member of a group is listed (`Settings.isMapping_iff`).
-/
import DocumentSql.Proofs.Settings.Restore

namespace DocumentSql

open GroupContents (IsOf)

/-- The key addresses a declared value: a field of a group, or a value beside the groups. -/
def SettingKey.isValue : SettingKey → Bool
  | group _ => false
  | other _ => false
  | _ => true

namespace Settings

variable {s t : Settings} {g : SettingGroup}

/-! ### Properties that programs keep -/

/-- A property of settings that is kept by each change that a step of a program makes. -/
structure IsStable (P : Settings → Prop) : Prop where
  assign {s t : Settings} {key : String} {v : Value} (hs : P s) (h : s.assign key v = .ok t) : P t
  drop {s : Settings} (hs : P s) (key : String) : P (s.drop key)
  keep {s : Settings} (hs : P s) (key : String) (c : SettingContent) : P (s.keep (.ofText key) c)

namespace IsStable

variable {P : Settings → Prop}

lemma assignAll (hP : IsStable P) (changes : List (String × Value)) (hs : P s) :
    P (assignAll changes s).2 := by
  induction changes generalizing s with
  | nil => exact hs
  | cons m changes ih =>
    rw [Settings.assignAll]
    split
    · next t ht => exact ih (hP.assign hs ht)
    · exact hs

lemma restoreAll (hP : IsStable P) (previous : List (String × Option SettingContent)) (hs : P s) :
    P (restoreAll previous s) := by
  induction previous generalizing s with
  | nil => exact hs
  | cons m previous ih =>
    refine ih (s := s.restore m.1 m.2) ?_
    cases m.2 with
    | some c => exact hP.keep hs m.1 c
    | none => exact hP.drop hs m.1

lemma override {α : Type} (hP : IsStable P) (changes : List (String × Value))
    {body : Settings → Result α × Settings} (hbody : ∀ t, P t → P (body t).2) (hs : P s) :
    P (override changes body s).2 := by
  have hassigned := hP.assignAll (dottedChanges changes) hs
  unfold Settings.override
  dsimp only
  split
  · next e t heq =>
    rw [heq] at hassigned
    exact hP.restoreAll _ hassigned
  · next t heq =>
    rw [heq] at hassigned
    exact hP.restoreAll _ (hbody t hassigned)

lemma load (hP : IsStable P) (path text : String) (hs : P s) : P (s.load path text).2.1 := by
  unfold Settings.load
  split
  · exact hs
  · dsimp only
    split
    · exact hP.assignAll _ hs
    · exact hs

mutual
/-- A step of a program keeps the property. -/
lemma runStep (hP : IsStable P) (step : SettingsStep) {st : ProgramState} (hst : P st.settings) :
    P (runStep step st).settings := by
  have hchange : ∀ {r : Result Settings}, (∀ t, r = .ok t → P t) → P (st.change r).settings := by
    intro r hr
    cases r with
    | ok t => exact hr t rfl
    | error e => exact hst
  cases step with
  | assign key v =>
    rw [Settings.runStep]
    exact hchange fun t ht => hP.assign hst ht
  | delete key =>
    rw [Settings.runStep]
    refine hchange fun t ht => ?_
    unfold delete at ht
    split at ht
    · obtain rfl := Except.ok.inj ht
      exact hP.drop hst key
    · cases ht
  | load path text =>
    rw [Settings.runStep]
    exact hP.load path text hst
  | save path isVerbose =>
    rw [Settings.runStep, ProgramState.save]
    split <;> exact hst
  | block changes isFailing steps =>
    rw [Settings.runStep, settings_block]
    exact hP.override changes (fun t ht => hP.runSteps steps ht) hst
  | _ =>
    rw [Settings.runStep]
    exact hst
/-- The steps of a program keep the property. -/
lemma runSteps (hP : IsStable P) (steps : List SettingsStep) {st : ProgramState}
    (hst : P st.settings) : P (runSteps steps st).settings := by
  cases steps with
  | nil =>
    rw [Settings.runSteps]
    exact hst
  | cons step steps =>
    rw [Settings.runSteps]
    exact hP.runSteps steps (hP.runStep step hst)
end

/-- A property that settings have when they are made is one of all settings that a program can come
to. -/
theorem of_reachable (hP : IsStable P) (hmade : ∀ {e s}, ofEnviron e = .ok s → P s)
    (h : Reachable s) : P s := by
  induction h with
  | made h => exact hmade h
  | after step _ ih => exact hP.runStep step ih
  | inside changes _ ih => exact hP.assignAll _ ih

end IsStable

/-! ### Keys kept aside -/

/-- The keys that are kept aside are distinct, and address nothing that is declared. -/
structure KeepsAside (s : Settings) : Prop where
  nodup : (s.extra.map Prod.fst).Nodup
  undeclared : ∀ m ∈ s.extra, SettingKey.ofText m.1 = .other m.1

lemma KeepsAside.congr (hs : s.KeepsAside) (h : t.extra = s.extra) : t.KeepsAside :=
  ⟨h ▸ hs.nodup, h ▸ hs.undeclared⟩

lemma extra_point (s : Settings) (g : SettingGroup) (i : Nat) : (s.point g i).extra = s.extra := by
  cases g <;> rfl

lemma extra_keep {key : SettingKey} (hkey : ∀ name, key ≠ .other name) (c : SettingContent) :
    (s.keep key c).extra = s.extra := by
  unfold keep
  split
  · exact extra_point s _ _
  · rfl
  · rfl
  · rfl
  · rfl
  · rfl
  · next name v => exact absurd rfl (hkey name)
  · rfl

lemma extra_assignTo {key : SettingKey} {v : Value} (hkey : ∀ name, key ≠ .other name)
    (h : s.assignTo key v = .ok t) : t.extra = s.extra := by
  rcases assignTo_eq_ok h with ⟨g, c, rfl, -, rfl⟩ | ⟨-, c, -, rfl⟩
  · rw [extra_point]
    rfl
  · exact extra_keep hkey c

lemma other_of_ofText {key name : String} (h : SettingKey.ofText key = .other name) :
    name = key := by
  have htext := SettingKey.text_ofText key
  rw [h] at htext
  exact htext

lemma KeepsAside.keep (hs : s.KeepsAside) (key : String) (c : SettingContent) :
    (s.keep (.ofText key) c).KeepsAside := by
  by_cases hkey : ∃ name, SettingKey.ofText key = .other name
  · obtain ⟨name, hname⟩ := hkey
    obtain rfl := other_of_ofText hname
    rw [hname]
    cases c with
    | group slot => exact hs
    | plain v =>
      refine ⟨sets_put.nodup hs.nodup _ v, fun m hm => ?_⟩
      have hmem : m.1 ∈ (put name v s.extra).map Prod.fst := List.mem_map_of_mem hm
      rcases sets_put.mem_map_fst_iff.1 hmem with heq | hmem
      · rw [heq, hname]
      · obtain ⟨m', hm', heq⟩ := List.mem_map.1 hmem
        rw [← heq, hs.undeclared m' hm']
  · exact hs.congr (extra_keep (fun name h => hkey ⟨name, h⟩) c)

lemma isStable_keepsAside : IsStable KeepsAside where
  assign {s t key v} hs h := by
    rcases assignTo_eq_ok h with ⟨g, c, -, -, rfl⟩ | ⟨-, c, -, rfl⟩
    · exact hs.congr (extra_point _ _ _)
    · exact hs.keep key c
  drop {s} hs key := by
    refine ⟨hs.nodup.sublist (List.Sublist.map Prod.fst List.filter_sublist), fun m hm => ?_⟩
    exact hs.undeclared m (List.mem_of_mem_filter hm)
  keep hs key c := hs.keep key c

lemma Takes.extra_eq {key : SettingKey} (h : Takes key s t) (hkey : ∀ name, key ≠ .other name) :
    t.extra = s.extra := by
  rcases h with rfl | ⟨text, h⟩
  · rfl
  · exact extra_assignTo hkey h

theorem Reachable.keepsAside (h : Reachable s) : s.KeepsAside := by
  refine isStable_keepsAside.of_reachable (fun {e s} hmade => ?_) h
  obtain ⟨database, procedures, s₁, s₂, s₃, -, -, h₁, h₂, h₃, h₄⟩ := exists_of_ofEnviron hmade
  have hextra : s.extra = [] := by
    rw [h₄.extra_eq (by simp), h₃.extra_eq (by simp), h₂.extra_eq (by simp), h₁.extra_eq (by simp)]
  exact ⟨by simp [hextra], by simp [hextra]⟩

/-! ### Entries -/

/-- A value that is no mapping is one entry. -/
lemma entries_of_not_mapping {v : Value} (h : v.members? = none) (key : String) :
    entries key v = .ok [(key, v)] := by
  cases v with
  | dict ms => cases h
  | _ => rfl

/-- The entries of members are those of the first one and those of the others. -/
lemma memberEntries_cons_eq_ok {stem : String} {k v : Value} {ms : List (Value × Value)}
    {es : List (String × Value)} (h : memberEntries stem ((k, v) :: ms) = .ok es) :
    ∃ es₁ es₂, entries (stem ++ k.plainText) v = .ok es₁ ∧ memberEntries stem ms = .ok es₂ ∧
      es = es₁ ++ es₂ := by
  rw [memberEntries] at h
  split at h
  · cases h
  · split at h
    · cases h
    · next es₁ h₁ =>
      obtain ⟨es₂, h₂, rfl⟩ := Result.map_eq_ok_iff.1 h
      exact ⟨es₁, es₂, h₁, h₂, rfl⟩

mutual
/-- The keys of the entries of a value are its own one, or go on behind it with a dot; and the
values of entries are no mappings. -/
lemma of_mem_entries {v : Value} {key : String} {es : List (String × Value)}
    (h : entries key v = .ok es) {e : String × Value} (he : e ∈ es) :
    (∃ rest, e.1 = key ++ rest ∧ (rest = "" ∨ ∃ tail, rest = "." ++ tail)) ∧
      e.2.members? = none := by
  cases v with
  | dict ms =>
    obtain ⟨⟨tail, htail⟩, hplain⟩ := of_mem_memberEntries h he
    exact ⟨⟨"." ++ tail, by rw [htail, String.append_assoc], Or.inr ⟨tail, rfl⟩⟩, hplain⟩
  | _ =>
    obtain rfl := Except.ok.inj h
    obtain rfl := List.mem_singleton.1 he
    exact ⟨⟨"", by simp, Or.inl rfl⟩, rfl⟩
  termination_by structural v
lemma of_mem_memberEntries {ms : List (Value × Value)} {stem : String}
    {es : List (String × Value)} (h : memberEntries stem ms = .ok es) {e : String × Value}
    (he : e ∈ es) : (∃ tail, e.1 = stem ++ tail) ∧ e.2.members? = none := by
  cases ms with
  | nil =>
    obtain rfl := Except.ok.inj h
    simp at he
  | cons m ms =>
    obtain ⟨k, v⟩ := m
    obtain ⟨es₁, es₂, h₁, h₂, rfl⟩ := memberEntries_cons_eq_ok h
    rcases List.mem_append.1 he with he | he
    · obtain ⟨⟨rest, hrest, -⟩, hplain⟩ := of_mem_entries h₁ he
      exact ⟨⟨k.plainText ++ rest, by rw [hrest, String.append_assoc]⟩, hplain⟩
    · exact of_mem_memberEntries h₂ he
  termination_by structural ms
end

/-- The entries of a member are among those of the members. -/
lemma exists_entries_of_mem {ms : List (Value × Value)} {stem : String}
    {es : List (String × Value)} (h : memberEntries stem ms = .ok es) (m : Value × Value)
    (hm : m ∈ ms) :
    ∃ es', entries (stem ++ m.1.plainText) m.2 = .ok es' ∧ es' ⊆ es := by
  induction ms generalizing es with
  | nil => simp at hm
  | cons n ms ih =>
    obtain ⟨es₁, es₂, h₁, h₂, rfl⟩ := memberEntries_cons_eq_ok h
    rcases List.mem_cons.1 hm with rfl | hm
    · exact ⟨es₁, h₁, List.subset_append_left es₁ es₂⟩
    · obtain ⟨es', hes', hsub⟩ := ih h₂ hm
      exact ⟨es', hes', List.subset_append_of_subset_right es₁ hsub⟩

/-- Entries with distinct keys are kept as they are. -/
lemma unique_of_nodup {es : List (String × Value)} (h : (es.map Prod.fst).Nodup) :
    unique es = es := by
  have hfold : ∀ acc : List (String × Value), ((acc ++ es).map Prod.fst).Nodup →
      es.foldl (fun acc e => put e.1 e.2 acc) acc = acc ++ es := by
    clear h
    induction es with
    | nil => simp
    | cons e es ih =>
      intro acc hacc
      have hnot : e.1 ∉ acc.map Prod.fst := by
        rw [List.map_append, List.map_cons, List.nodup_append] at hacc
        exact fun hmem => hacc.2.2 _ hmem _ List.mem_cons_self rfl
      have happend : acc ++ e :: es = acc ++ [e] ++ es := by simp
      rw [List.foldl_cons, sets_put.of_not_mem hnot, ih _ (happend ▸ hacc), happend]
  exact hfold [] (by simpa using h)

/-- Entries with one value for each key have the keys that there were, and values that there
were. -/
lemma unique_sound (es : List (String × Value)) :
    (∀ e ∈ unique es, e ∈ es) ∧ ∀ key ∈ es.map Prod.fst, key ∈ (unique es).map Prod.fst := by
  have hfold : ∀ acc : List (String × Value),
      (∀ e ∈ es.foldl (fun acc e => put e.1 e.2 acc) acc, e ∈ acc ∨ e ∈ es) ∧
      ∀ key, key ∈ acc.map Prod.fst ∨ key ∈ es.map Prod.fst →
        key ∈ (es.foldl (fun acc e => put e.1 e.2 acc) acc).map Prod.fst := by
    induction es with
    | nil => simp
    | cons e es ih =>
      intro acc
      obtain ⟨hsound, hkeys⟩ := ih (put e.1 e.2 acc)
      refine ⟨fun e' he' => ?_, fun key hkey => hkeys key ?_⟩
      · rcases hsound e' he' with hput | hmem
        · rcases sets_put.eq_or_mem hput with rfl | hmem
          · exact Or.inr List.mem_cons_self
          · exact Or.inl hmem
        · exact Or.inr (List.mem_cons_of_mem e hmem)
      · rw [sets_put.mem_map_fst_iff]
        rw [List.map_cons, List.mem_cons] at hkey
        tauto
  exact ⟨fun e he => ((hfold []).1 e he).resolve_left List.not_mem_nil,
    fun key hkey => (hfold []).2 key (Or.inr hkey)⟩

/-! ### Declared keys -/

/-- The dotted keys of all fields of groups and of the values beside them. -/
def declaredKeys : List String :=
  ([SettingGroup.database, .procedures].flatMap fun g =>
    g.fields.map fun f => g.name ++ "." ++ f.name) ++ SettingKey.single.map Prod.fst

lemma nodup_declaredKeys : declaredKeys.Nodup := by decide

lemma ofText_field {name : String} (h : g.hasField name = true) :
    SettingKey.ofText (g.name ++ "." ++ name) = .field g name := by
  have hfields : ∀ f ∈ g.fields, SettingKey.ofText (g.name ++ "." ++ f.name) = .field g f.name := by
    cases g <;> decide
  obtain ⟨f, hf, heq⟩ := List.any_eq_true.1 h
  obtain rfl := beq_iff_eq.1 heq
  exact hfields f hf

/-- The declared keys are those that address a declared value. -/
lemma mem_declaredKeys_iff {key : String} :
    key ∈ declaredKeys ↔ (SettingKey.ofText key).isValue = true := by
  constructor
  · have hall : ∀ key ∈ declaredKeys, (SettingKey.ofText key).isValue = true := by decide
    exact hall key
  · intro h
    have htext := SettingKey.text_ofText key
    cases hkey : SettingKey.ofText key with
    | group g => simp [hkey, SettingKey.isValue] at h
    | other name => simp [hkey, SettingKey.isValue] at h
    | field g name =>
      obtain ⟨f, hf, heq⟩ := List.any_eq_true.1 (SettingKey.hasField_of_ofText hkey)
      obtain rfl := beq_iff_eq.1 heq
      rw [← htext, hkey]
      refine List.mem_append_left _ (List.mem_flatMap.2 ⟨g, by cases g <;> simp, ?_⟩)
      exact List.mem_map_of_mem hf
    | _ =>
      rw [← htext, hkey]
      decide

/-! ### Settings as a mapping -/

/-- The listing of settings, with the entries that are declared, and with all keys: each key that
holds a value is listed once, and shows the value that is read there. -/
structure Lists (s : Settings) (es : List (String × Value)) (ks : List String) : Prop where
  flatten_eq : s.flatten = .ok es
  keys_eq : s.keys = .ok ks
  size_eq : s.size = .ok ks.length
  nodup : ks.Nodup
  complete : ∀ key v, s.read key = .ok (.plain v) → key ∈ ks
  shown : ∀ key ∈ ks, ∃ v, s.read key = .ok (.plain v) ∧ (es ++ s.extra).lookup key = some v

/-- Settings list the keys that hold values. -/
def IsMapping (s : Settings) : Prop := ∃ es ks, s.Lists es ks

/-- No field of a group holds a mapping, and no other member of a group is listed. -/
structure IsFlat (s : Settings) : Prop where
  fields : ∀ g, ∀ m ∈ s.contents g, g.hasField m.1 = true → m.2.members? = none
  others : ∀ g, ∀ m ∈ s.contents g, g.hasField m.1 = false →
    entries (g.name ++ "." ++ m.1) m.2 = .ok []

/-- The entries of the fields of a group. -/
def fieldEntries (g : SettingGroup) (c : GroupContents) : List (String × Value) :=
  (c.filter fun m => g.hasField m.1).map fun m => (g.name ++ "." ++ m.1, m.2)

lemma memberEntries_cons {stem name : String} {v : Value} {ms : Members}
    {es es' : List (String × Value)} (h : entries (stem ++ name) v = .ok es)
    (hms : memberEntries stem ms = .ok es') :
    memberEntries stem ((.text name, v) :: ms) = .ok (es ++ es') := by
  have hplain : (Value.text name).plainText = name := rfl
  rw [memberEntries, if_neg (by simp [Value.asText?]), hplain, h, hms]
  rfl

lemma memberEntries_of_flat {c : GroupContents}
    (hfields : ∀ m ∈ c, g.hasField m.1 = true → m.2.members? = none)
    (hothers : ∀ m ∈ c, g.hasField m.1 = false → entries (g.name ++ "." ++ m.1) m.2 = .ok []) :
    memberEntries (g.name ++ ".") (c.map fun m => (.text m.1, m.2)) = .ok (fieldEntries g c) := by
  induction c with
  | nil => rfl
  | cons m c ih =>
    have hrest := ih (fun n hn => hfields n (List.mem_cons_of_mem m hn))
      fun n hn => hothers n (List.mem_cons_of_mem m hn)
    cases hm : g.hasField m.1 with
    | true =>
      have hfirst := entries_of_not_mapping (hfields m List.mem_cons_self hm)
        (g.name ++ "." ++ m.1)
      simpa [fieldEntries, hm] using memberEntries_cons hfirst hrest
    | false =>
      have hfirst := hothers m List.mem_cons_self hm
      simpa [fieldEntries, hm] using memberEntries_cons hfirst hrest

/-- A group has an entry for each of its fields. -/
lemma map_fst_fieldEntries {c : GroupContents} (hc : IsOf g c) :
    (fieldEntries g c).map Prod.fst = g.fields.map fun f => g.name ++ "." ++ f.name := by
  obtain ⟨others, hnames, hothers⟩ := hc
  have hfields : ∀ name ∈ g.fields.map (·.name), g.hasField name = true := by
    cases g <;> decide
  have hfilter : (c.map Prod.fst).filter g.hasField = g.fields.map (·.name) := by
    rw [hnames, List.filter_append, List.filter_eq_self.2 hfields,
      List.filter_eq_nil_iff.2 fun name hname => by simp [hothers name hname], List.append_nil]
  have hmap : (fieldEntries g c).map Prod.fst =
      ((c.map Prod.fst).filter g.hasField).map (g.name ++ "." ++ ·) := by
    rw [List.filter_map, fieldEntries, List.map_map, List.map_map]
    rfl
  rw [hmap, hfilter, List.map_map]
  rfl

/-- The entries of all declared values. -/
def declaredEntries (s : Settings) : List (String × Value) :=
  fieldEntries .database (s.contents .database) ++ fieldEntries .procedures (s.contents .procedures)
    ++ [("loglevel", .text s.level.name), ("type_awareness", .bool s.typeAwareness),
      ("timeout", .int s.timeout), ("default_order", .text s.defaultOrder)]

lemma map_fst_declaredEntries (hs : s.IsFormed) :
    s.declaredEntries.map Prod.fst = declaredKeys := by
  simp only [declaredEntries, List.map_append, map_fst_fieldEntries (hs _)]
  rfl

/-- Flat settings show their declared values. -/
lemma IsFlat.flatten_eq (hs : s.IsFormed) (h : s.IsFlat) : s.flatten = .ok s.declaredEntries := by
  have hgroup : ∀ g : SettingGroup,
      entries ("" ++ g.name) (groupValue (s.contents g)) = .ok (fieldEntries g (s.contents g)) := by
    intro g
    rw [String.empty_append]
    exact memberEntries_of_flat (h.fields g) (h.others g)
  have hall : memberEntries "" s.declared = .ok s.declaredEntries := by
    rw [declaredEntries, List.append_assoc]
    refine memberEntries_cons (hgroup .database) (memberEntries_cons (hgroup .procedures) ?_)
    simp [memberEntries, entries, Value.asText?, Value.plainText, Except.map]
  have hnodup : (s.declaredEntries.map Prod.fst).Nodup :=
    map_fst_declaredEntries hs ▸ nodup_declaredKeys
  rw [flatten, hall]
  exact congrArg Except.ok (unique_of_nodup hnodup)

lemma ofText_single : ∀ m ∈ SettingKey.single, SettingKey.ofText m.1 = m.2 := by decide

/-- A field of a group is read under its key. -/
lemma content?_field (hs : s.IsFormed) {m : String × Value} (hm : m ∈ s.contents g)
    (hname : g.hasField m.1 = true) :
    s.content? (.ofText (g.name ++ "." ++ m.1)) = some (.plain m.2) := by
  have hvalue : s.field g m.1 = m.2 := by rw [field, (hs g).value?_of_mem hm hname]; rfl
  rw [ofText_field hname, content?, hvalue]

/-- A declared value is read under its key. -/
lemma content?_of_mem_declaredEntries (hs : s.IsFormed) {e : String × Value}
    (he : e ∈ s.declaredEntries) : s.content? (.ofText e.1) = some (.plain e.2) := by
  have hfield : ∀ g, e ∈ fieldEntries g (s.contents g) →
      s.content? (.ofText e.1) = some (.plain e.2) := by
    intro g he
    obtain ⟨m, hm, rfl⟩ := List.mem_map.1 he
    obtain ⟨hmem, hname⟩ := List.mem_filter.1 hm
    exact content?_field hs hmem hname
  rcases List.mem_append.1 he with he | he
  · exact (List.mem_append.1 he).elim (hfield _) (hfield _)
  · simp only [List.mem_cons, List.not_mem_nil, or_false] at he
    rcases he with rfl | rfl | rfl | rfl
    · exact congrArg s.content? (ofText_single (_, .level) (by decide))
    · exact congrArg s.content? (ofText_single (_, .typeAwareness) (by decide))
    · exact congrArg s.content? (ofText_single (_, .timeout) (by decide))
    · exact congrArg s.content? (ofText_single (_, .defaultOrder) (by decide))

lemma read_eq_ok_iff {key : String} {c : SettingContent} :
    s.read key = .ok c ↔ s.content? (.ofText key) = some c := by
  unfold read
  cases s.content? (.ofText key) <;> simp

/-- A key that is kept aside holds a value exactly if it is listed. -/
lemma content?_eq_lookup {key name : String} (h : SettingKey.ofText key = .other name) :
    s.content? (.ofText key) = (s.extra.lookup key).map .plain := by
  obtain rfl := other_of_ofText h
  rw [h]
  rfl

/-- A key under which a value is read addresses a declared value or is kept aside. -/
lemma isValue_or_mem_extra {key : String} {v : Value} (h : s.read key = .ok (.plain v)) :
    (SettingKey.ofText key).isValue = true ∨ key ∈ s.extra.map Prod.fst := by
  have hcontent := read_eq_ok_iff.1 h
  cases hkey : SettingKey.ofText key with
  | group g =>
    rw [hkey] at hcontent
    cases hcontent
  | other name =>
    rw [content?_eq_lookup hkey] at hcontent
    obtain ⟨w, hlookup, -⟩ := Option.map_eq_some_iff.1 hcontent
    exact Or.inr (Named.mem_map_fst_of_lookup hlookup)
  | _ => exact Or.inl rfl

lemma KeepsAside.not_isValue (hs : s.KeepsAside) {key : String} (h : key ∈ s.extra.map Prod.fst) :
    (SettingKey.ofText key).isValue = false := by
  obtain ⟨m, hm, rfl⟩ := List.mem_map.1 h
  rw [hs.undeclared m hm]
  rfl

/-- Flat settings are a mapping. -/
lemma IsFlat.lists (hs : s.IsFormed) (haside : s.KeepsAside) (h : s.IsFlat) :
    s.Lists s.declaredEntries (declaredKeys ++ s.extra.map Prod.fst) := by
  have hflatten := h.flatten_eq hs
  have hkeys := map_fst_declaredEntries hs
  constructor
  · exact hflatten
  · rw [keys, hflatten, ← hkeys]
    rfl
  · rw [size, hflatten, ← hkeys, List.length_append, List.length_map, List.length_map]
    rfl
  · refine List.nodup_append.2 ⟨nodup_declaredKeys, haside.nodup, ?_⟩
    rintro key hkey _ hextra rfl
    simpa [haside.not_isValue hextra] using mem_declaredKeys_iff.1 hkey
  · intro key v hread
    rcases isValue_or_mem_extra hread with hvalue | hextra
    · exact List.mem_append_left _ (mem_declaredKeys_iff.2 hvalue)
    · exact List.mem_append_right _ hextra
  · intro key hmem
    rw [← hkeys] at hmem
    rcases List.mem_append.1 hmem with hdeclared | hextra
    · obtain ⟨e, he, rfl⟩ := List.mem_map.1 hdeclared
      have hlookup := Named.lookup_of_mem (hkeys ▸ nodup_declaredKeys) he
      refine ⟨e.2, read_eq_ok_iff.2 (content?_of_mem_declaredEntries hs he), ?_⟩
      rw [List.lookup_append, hlookup]
      rfl
    · have hnone : s.declaredEntries.lookup key = none := by
        refine Option.eq_none_iff_forall_ne_some.2 fun v hv => ?_
        have hdeclared := Named.mem_map_fst_of_lookup hv
        rw [hkeys] at hdeclared
        simpa [haside.not_isValue hextra] using mem_declaredKeys_iff.1 hdeclared
      obtain ⟨m, hm, rfl⟩ := List.mem_map.1 hextra
      have hlookup := Named.lookup_of_mem haside.nodup hm
      refine ⟨m.2, read_eq_ok_iff.2 ?_, ?_⟩
      · rw [content?_eq_lookup (haside.undeclared m hm), hlookup]
        rfl
      · rw [List.lookup_append, hnone, hlookup]
        rfl

/-- What is declared behind the name of a group is a field of it. -/
lemma hasField_of_isValue {tail : String}
    (h : (SettingKey.ofText (g.name ++ "." ++ tail)).isValue = true) : g.hasField tail = true := by
  have htext := SettingKey.text_ofText (g.name ++ "." ++ tail)
  have hdot : '.' ∈ (g.name ++ "." ++ tail).toList := by simp
  cases hkey : SettingKey.ofText (g.name ++ "." ++ tail) with
  | group g' => simp [hkey, SettingKey.isValue] at h
  | other name => simp [hkey, SettingKey.isValue] at h
  | field g' name =>
    rw [hkey, SettingKey.text] at htext
    have hname := SettingKey.hasField_of_ofText hkey
    have htext := String.toList_inj.2 htext
    cases g <;> cases g' <;> simp [SettingGroup.name, String.toList_inj] at htext
    · exact htext ▸ hname
    · exact htext ▸ hname
  | _ =>
    rw [← htext, hkey] at hdot
    simp [SettingKey.text] at hdot

/-- No field has a dot in its name. -/
lemma no_dot_of_hasField {name : String} (h : g.hasField name = true) : '.' ∉ name.toList := by
  have hfields : ∀ f ∈ g.fields, '.' ∉ f.name.toList := by cases g <;> decide
  obtain ⟨f, hf, heq⟩ := List.any_eq_true.1 h
  obtain rfl := beq_iff_eq.1 heq
  exact hfields f hf

namespace Lists

variable {es : List (String × Value)} {ks : List String}

lemma keys_append (h : s.Lists es ks) : ks = es.map Prod.fst ++ s.extra.map Prod.fst := by
  have hkeys := h.keys_eq
  rw [keys, h.flatten_eq] at hkeys
  exact (Except.ok.inj hkeys).symm

/-- What is shown is no mapping, and what the members of groups list is shown. -/
lemma exists_entries (h : s.Lists es ks) :
    (∀ e ∈ es, e.2.members? = none) ∧
      ∀ g, ∀ m ∈ s.contents g, ∃ es', entries (g.name ++ "." ++ m.1) m.2 = .ok es' ∧
        ∀ e ∈ es', e.1 ∈ es.map Prod.fst := by
  obtain ⟨raw, hraw, rfl⟩ := Result.map_eq_ok_iff.1 h.flatten_eq
  obtain ⟨hsound, hkeys⟩ := unique_sound raw
  refine ⟨fun e he => (of_mem_memberEntries hraw (hsound e he)).2, fun g m hm => ?_⟩
  have hgroup : (Value.text g.name, groupValue (s.contents g)) ∈ s.declared := by
    cases g <;> simp [declared, SettingGroup.name]
  obtain ⟨inner, hinner, hsub⟩ := exists_entries_of_mem hraw _ hgroup
  have hplain : "" ++ (Value.text g.name).plainText = g.name := String.empty_append
  rw [hplain, groupValue, entries] at hinner
  obtain ⟨es', hes', hsub'⟩ :=
    exists_entries_of_mem hinner (.text m.1, m.2) (List.mem_map_of_mem hm)
  exact ⟨es', hes', fun e he => hkeys _ (List.mem_map_of_mem (hsub (hsub' he)))⟩

/-- What is shown is read, and is no mapping. -/
lemma not_mapping (haside : s.KeepsAside) (h : s.Lists es ks) {key : String} {v : Value}
    (hread : s.read key = .ok (.plain v)) (hvalue : (SettingKey.ofText key).isValue = true) :
    v.members? = none := by
  obtain ⟨w, hw, hshown⟩ := h.shown _ (h.complete _ _ hread)
  obtain rfl : v = w := SettingContent.plain.inj (Except.ok.inj (hread.symm.trans hw))
  rw [List.lookup_append] at hshown
  cases hlookup : es.lookup key with
  | some w =>
    obtain rfl : w = v := by simpa [hlookup] using hshown
    exact h.exists_entries.1 _ (Named.mem_of_lookup hlookup)
  | none =>
    have hextra : s.extra.lookup key = some v := by simpa [hlookup] using hshown
    rw [haside.not_isValue (Named.mem_map_fst_of_lookup hextra)] at hvalue
    cases hvalue

/-- What is shown addresses a declared value: else it is kept aside, and listed again. -/
lemma isValue_of_mem (h : s.Lists es ks) {key : String} (hmem : key ∈ es.map Prod.fst) :
    (SettingKey.ofText key).isValue = true := by
  have hlisted : key ∈ ks := h.keys_append ▸ List.mem_append_left _ hmem
  obtain ⟨v, hread, -⟩ := h.shown _ hlisted
  refine (isValue_or_mem_extra hread).resolve_right fun hextra => ?_
  have hnodup := h.nodup
  rw [h.keys_append, List.nodup_append] at hnodup
  exact hnodup.2.2 _ hmem _ hextra rfl

/-- Settings that are a mapping are flat. -/
lemma isFlat (hs : s.IsFormed) (haside : s.KeepsAside) (h : s.Lists es ks) : s.IsFlat := by
  constructor
  · intro g m hm hname
    refine h.not_mapping haside (read_eq_ok_iff.2 (content?_field hs hm hname)) ?_
    rw [ofText_field hname]
    rfl
  · intro g m hm hname
    obtain ⟨es', hes', hsub⟩ := h.exists_entries.2 g m hm
    cases es' with
    | nil => exact hes'
    | cons e es' =>
      -- an entry would be a declared value behind the name of the group, and so be a field
      obtain ⟨⟨rest, hrest, hcases⟩, -⟩ := of_mem_entries hes' List.mem_cons_self
      have hvalue := h.isValue_of_mem (hsub e List.mem_cons_self)
      rw [hrest, String.append_assoc] at hvalue
      have hfield := hasField_of_isValue hvalue
      rcases hcases with rfl | ⟨tail, rfl⟩
      · rw [String.append_empty, hname] at hfield
        cases hfield
      · exact absurd (by simp) (no_dot_of_hasField hfield)

end Lists

/-- Settings that a program can come to list each key that holds a value once, as many as they
count, and show under it what is read there, just when no field of a group holds a mapping and no
other member of a group is listed. -/
theorem isMapping_iff (hs : Reachable s) : s.IsMapping ↔ s.IsFlat := by
  constructor
  · rintro ⟨es, ks, h⟩
    exact h.isFlat hs.isFormed hs.keepsAside
  · exact fun h => ⟨_, _, h.lists hs.isFormed hs.keepsAside⟩

/-- The settings after assignments. -/
def assigned (changes : List (String × Value)) : Settings :=
  (runSteps (changes.map fun m => .assign m.1 m.2) ⟨standard, [], []⟩).settings

lemma reachable_runSteps (steps : List SettingsStep) {st : ProgramState}
    (hst : Reachable st.settings) : Reachable (runSteps steps st).settings := by
  induction steps generalizing st with
  | nil => exact hst
  | cons step steps ih => exact ih (.after step hst)

lemma reachable_assigned (changes : List (String × Value)) : Reachable (assigned changes) :=
  reachable_runSteps _ reachable_standard

/-- A key of its own, a field of a group, and a group with a member that lists nothing. -/
def titled : Settings :=
  assigned [("app.title", .text "demo"), ("procedures", .dict [(.text "more", .dict [])]),
    ("database.host", .text "db1")]

/-- Settings with a key of their own are a mapping. -/
theorem titled_isMapping : Reachable titled ∧ titled.IsMapping := by
  have hreachable : Reachable titled := reachable_assigned _
  refine ⟨hreachable, (isMapping_iff hreachable).2 ⟨?_, ?_⟩⟩
  · intro g
    cases g <;> decide
  · intro g m hm hname
    cases g with
    | database =>
      have hfields : ∀ m ∈ titled.contents .database,
          SettingGroup.database.hasField m.1 = true := by decide
      simp [hfields m hm] at hname
    | procedures =>
      have hcontents : titled.contents .procedures = [("dispatch", .text "call_func"),
        ("relations", .text "get_documents"), ("more", .dict [])] := rfl
      rw [hcontents] at hm
      simp only [List.mem_cons, List.not_mem_nil, or_false] at hm
      rcases hm with rfl | rfl | rfl
      · cases hname
      · cases hname
      · rfl

/-- A mapping in the place of a host is listed under a key that addresses nothing, and so is a
member of a group beside its fields. -/
theorem nestedHost_unreadable :
    Reachable (assigned [("database.host", .dict [(.text "a", .int 1)])]) ∧
      ((assigned [("database.host", .dict [(.text "a", .int 1)])]).keys.toOption.map
        fun ks => (ks.contains "database.host.a", ks.contains "database.host")) =
          some (true, false) ∧
      (assigned [("database.host", .dict [(.text "a", .int 1)])]).read "database.host.a" =
        .error (.settingUnknown "database.host.a") ∧
      Reachable (assigned [("database", .dict [(.text "pool", .int 1)])]) ∧
      ((assigned [("database", .dict [(.text "pool", .int 1)])]).keys.toOption.map
        fun ks => ks.contains "database.pool") = some true ∧
      (assigned [("database", .dict [(.text "pool", .int 1)])]).read "database.pool" =
        .error (.settingUnknown "database.pool") :=
  ⟨reachable_assigned _, by decide +kernel, by rfl, reachable_assigned _, by decide +kernel, by rfl⟩

end Settings

end DocumentSql

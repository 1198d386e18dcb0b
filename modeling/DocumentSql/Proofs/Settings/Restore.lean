/-
What overrides leave behind.

When a block is over, every key gets back what it held before, in the order of the overrides.  A key
beside the groups then reads as before, and so does a group whose fields are overridden one by one:
they are set and set back in the same slot.  But when a field is overridden first and its group
after it, the field is set back in the group that stands in for the old one, and the old group
comes back with the override in it.  So the readings are restored just when no override is stranded
in this way (`Settings.override_restores_iff`).
-/
import DocumentSql.Proofs.Settings.Formed
import DocumentSql.Proofs.Value.Named

namespace DocumentSql

/-! ### Contents with other values -/

namespace GroupContents

/-- The contents with other values for some names. -/
def overlay (c : GroupContents) (written : String → Option Value) : GroupContents :=
  c.map fun m => (m.1, (written m.1).getD m.2)

variable {g : SettingGroup} {c : GroupContents} {written : String → Option Value}

@[simp] lemma overlay_none (c : GroupContents) : c.overlay (fun _ => none) = c := by
  simp [overlay]

/-- To set a name is to write it over what was written. -/
lemma set_overlay (c : GroupContents) (written : String → Option Value) (name : String)
    (v : Value) :
    (c.overlay written).set name v = c.overlay (Function.update written name (some v)) := by
  unfold overlay set
  rw [List.map_map]
  refine List.map_congr_left fun m _ => ?_
  by_cases hm : m.1 = name <;> simp [hm]

lemma value?_overlay (c : GroupContents) (written : String → Option Value) (name : String) :
    (c.overlay written).value? name = (c.value? name).map (written name).getD := by
  induction c with
  | nil => rfl
  | cons m c ih =>
    unfold value? overlay at ih ⊢
    rw [List.map_cons, Named.lookup_cons, Named.lookup_cons, ih]
    by_cases hm : name = m.1 <;> simp [hm]

lemma IsOf.exists_value? (hc : IsOf g c) {name : String} (hname : g.hasField name = true) :
    ∃ v, c.value? name = some v := by
  obtain ⟨others, hnames, -⟩ := hc
  have hmem : name ∈ c.map Prod.fst := by
    obtain ⟨f, hf, heq⟩ := List.any_eq_true.1 hname
    rw [hnames, List.mem_append]
    exact Or.inl (List.mem_map.2 ⟨f, hf, beq_iff_eq.1 heq⟩)
  obtain ⟨m, hm, rfl⟩ := List.mem_map.1 hmem
  refine Option.ne_none_iff_exists'.1 fun hnone => ?_
  simpa using List.lookup_eq_none_iff.1 hnone m hm

/-- A group has each of its fields once. -/
lemma IsOf.value?_of_mem (hc : IsOf g c) {m : String × Value} (hm : m ∈ c)
    (hname : g.hasField m.1 = true) : c.value? m.1 = some m.2 := by
  obtain ⟨others, hnames, hothers⟩ := hc
  obtain ⟨fields, rest, rfl, hfields, hrest⟩ := List.map_eq_append_iff.1 hnames
  have hmem : m ∈ fields := by
    refine (List.mem_append.1 hm).resolve_right fun hm => ?_
    rw [hothers m.1 (hrest ▸ List.mem_map_of_mem hm)] at hname
    cases hname
  have hnodup : (fields.map Prod.fst).Nodup := by
    rw [hfields]
    cases g <;> decide
  rw [value?, List.lookup_append, Named.lookup_of_mem hnodup hmem]
  rfl

/-- What is written over fields is not to be seen just when the fields had it before. -/
lemma overlay_eq_self_iff (hc : IsOf g c)
    (hwritten : ∀ name v, written name = some v → g.hasField name = true) :
    c.overlay written = c ↔ ∀ name v, written name = some v → c.value? name = some v := by
  constructor
  · intro heq name v hv
    obtain ⟨w, hw⟩ := hc.exists_value? (hwritten name v hv)
    rw [← heq, value?_overlay, hw, hv]
    rfl
  · intro hsame
    unfold overlay
    conv_rhs => rw [← List.map_id c]
    refine List.map_congr_left fun m hm => ?_
    cases hv : written m.1 with
    | none => rfl
    | some v =>
      have hmem := hc.value?_of_mem hm (hwritten _ v hv)
      rw [hsame _ v hv] at hmem
      rw [Option.getD_some, Option.some.inj hmem]
      rfl

end GroupContents

namespace Settings

/-! ### Keys beside the groups -/

/-- The key addresses neither a group nor a field of one. -/
def IsBeside (key : SettingKey) : Prop := ∀ g, key ≠ .group g ∧ ∀ name, key ≠ .field g name

variable {s t u : Settings} {g : SettingGroup}

lemma sets_put : Named.Sets put where
  nil _ _ := rfl
  cons name v m ms := by simp [put]

lemma content?_append {key : SettingKey} (hkey : IsBeside key) (t : Settings) (c : GroupContents) :
    (t.append c).content? key = t.content? key := by
  cases key with
  | group g => exact absurd rfl (hkey g).1
  | field g name => exact absurd rfl ((hkey g).2 name)
  | _ => rfl

lemma content?_point {key : SettingKey} (hkey : IsBeside key) (t : Settings) (g : SettingGroup)
    (i : Nat) : (t.point g i).content? key = t.content? key := by
  cases key with
  | group h => exact absurd rfl (hkey h).1
  | field h name => exact absurd rfl ((hkey h).2 name)
  | _ => cases g <;> rfl

/-- What is kept under a key does not show under another key beside the groups. -/
lemma content?_keep_of_ne {k key : SettingKey} (hkey : IsBeside key) (hne : k ≠ key)
    (c : SettingContent) : (t.keep k c).content? key = t.content? key := by
  unfold keep
  split
  · exact content?_point hkey t _ _
  all_goals
    cases key with
    | group h => exact absurd rfl (hkey h).1
    | field h name => exact absurd rfl ((hkey h).2 name)
    | other name => first
      | rfl
      | -- another key that is not declared
        refine congrArg (Option.map SettingContent.plain) ?_
        rw [sets_put.lookup, if_neg]
        rintro rfl
        exact hne rfl
    | _ => first
      | rfl
      | exact absurd rfl hne

lemma content?_drop (t : Settings) (name : String) (key : SettingKey) :
    (t.drop name).content? key = if key = .other name then none else t.content? key := by
  cases key with
  | other k =>
    rw [drop, content?, content?, Named.lookup_filter_ne]
    by_cases hk : k = name <;> simp [hk]
  | group g => cases g <;> rfl
  | _ => rfl

/-- An assignment shows under the assigned key only, among the keys beside the groups. -/
lemma content?_assignTo_of_ne {k key : SettingKey} {v : Value} (hkey : IsBeside key)
    (hne : k ≠ key) (h : t.assignTo k v = .ok u) : u.content? key = t.content? key := by
  rcases assignTo_eq_ok h with ⟨g, c, rfl, -, rfl⟩ | ⟨-, c, -, rfl⟩
  · rw [content?_point hkey, content?_append hkey]
  · exact content?_keep_of_ne hkey hne c

/-- What a key beside the groups had can be kept under it again. -/
lemma content?_keep_self {k : SettingKey} (hk : IsBeside k) {c : SettingContent}
    (hc : s.content? k = some c) (t : Settings) : (t.keep k c).content? k = some c := by
  cases k with
  | group g => exact absurd rfl (hk g).1
  | field g name => exact absurd rfl ((hk g).2 name)
  | other name =>
    obtain ⟨v, -, rfl⟩ := Option.map_eq_some_iff.1 hc
    rw [keep, content?, sets_put.lookup, if_pos rfl]
    rfl
  | _ =>
    obtain rfl := Option.some.inj hc
    simp [keep, content?]

/-- A key beside the groups holds again what it had. -/
lemma content?_restore_self {key : String} (hkey : IsBeside (.ofText key)) (s t : Settings) :
    (t.restore key (s.content? (.ofText key))).content? (.ofText key) =
      s.content? (.ofText key) := by
  cases hc : s.content? (.ofText key) with
  | some c => exact content?_keep_self hkey hc t
  | none =>
    -- only a key that is not declared may hold nothing
    have htext := SettingKey.text_ofText key
    rw [restore, content?_drop, if_pos]
    cases hk : SettingKey.ofText key with
    | other name =>
      rw [hk] at htext
      rw [show name = key from htext]
    | _ =>
      rw [hk] at hc
      cases hc

lemma content?_restore_of_ne {k key : String} (hkey : IsBeside (.ofText key)) (hne : k ≠ key)
    (t : Settings) (c : Option SettingContent) :
    (t.restore k c).content? (.ofText key) = t.content? (.ofText key) := by
  cases c with
  | some c => exact content?_keep_of_ne hkey (SettingKey.ofText_injective.ne hne) c
  | none =>
    rw [restore, content?_drop, if_neg]
    intro heq
    have htext := SettingKey.text_ofText key
    rw [heq] at htext
    exact hne htext

/-- Keys beside the groups hold what they had when all is restored, if they held it still or are
among the restored ones. -/
lemma content?_restoreAll {key : String} (hkey : IsBeside (.ofText key))
    (changes : List (String × Value)) {t : Settings}
    (h : t.content? (.ofText key) = s.content? (.ofText key) ∨ key ∈ changes.map Prod.fst) :
    (restoreAll (changes.map fun m => (m.1, s.content? (.ofText m.1))) t).content? (.ofText key) =
      s.content? (.ofText key) := by
  induction changes generalizing t with
  | nil => simpa [restoreAll] using h
  | cons m changes ih =>
    refine ih (t := t.restore m.1 (s.content? (.ofText m.1))) ?_
    by_cases hm : m.1 = key
    · subst hm
      exact Or.inl (content?_restore_self hkey s t)
    · rw [content?_restore_of_ne hkey hm]
      refine h.imp_right fun hmem => ?_
      simpa [Ne.symm hm] using hmem

/-- Assignments show under the assigned keys only, among the keys beside the groups. -/
lemma content?_assignAll {key : String} (hkey : IsBeside (.ofText key))
    {changes : List (String × Value)} (hmem : key ∉ changes.map Prod.fst) (s : Settings) :
    (assignAll changes s).2.content? (.ofText key) = s.content? (.ofText key) := by
  induction changes generalizing s with
  | nil => rfl
  | cons m changes ih =>
    obtain ⟨hm, hrest⟩ : key ≠ m.1 ∧ key ∉ changes.map Prod.fst := by simpa using hmem
    rw [assignAll]
    split
    · next t ht =>
      rw [ih hrest]
      exact content?_assignTo_of_ne hkey (SettingKey.ofText_injective.ne hm.symm) ht
    · rfl

/-! ### The slot of a group -/

/-- What has become of the slot that a group had: whether the group is present, and what was
written over its contents. -/
structure Track where
  /-- The group is in the slot. -/
  isPresent : Bool
  /-- The values that were written, by the names of fields. -/
  written : String → Option Value

/-- The slot after something is kept under a key: a group that is set leaves its slot or comes back
into it, and a field is written when the group is there. -/
def Track.keep (g : SettingGroup) (back : Bool) (r : Track) : SettingKey → Value → Track
  | .group h, _ => if h = g then { r with isPresent := back } else r
  | .field h name, v =>
    if h = g ∧ r.isPresent = true then { r with written := Function.update r.written name (some v) }
    else r
  | _, _ => r

/-- The slot after values are kept under keys, in order. -/
def Track.keepAll (g : SettingGroup) (back : Bool) (r : Track)
    (ms : List (SettingKey × Value)) : Track :=
  ms.foldl (fun r m => r.keep g back m.1 m.2) r

/-- In settings that come from the first ones, the slot that a group had is as it is tracked. -/
structure Tracks (s : Settings) (g : SettingGroup) (r : Track) (t : Settings) : Prop where
  contents : t.contentsAt (s.slot g) = (s.contents g).overlay r.written
  present_iff : t.slot g = s.slot g ↔ r.isPresent = true
  others : ∀ h, h ≠ g → t.slot h ≠ s.slot g
  grown : s.groups.length ≤ t.groups.length

variable {r : Track}

lemma contentsAt_keep_field (t : Settings) (h : SettingGroup) (name : String) (v : Value)
    (i : Nat) :
    (t.keep (.field h name) (.plain v)).contentsAt i =
      if t.slot h = i then (t.contentsAt i).set name v else t.contentsAt i := by
  rw [keep, contentsAt, contentsAt, List.getElem?_modify]
  by_cases hi : t.slot h = i
  · cases t.groups[i]? <;> simp [hi, GroupContents.set]
  · simp [hi]

/-- Settings in which every group has the slot it had are tracked as before, but for what is
written. -/
lemma Tracks.of_slots (hr : Tracks s g r t) {t' : Settings} {r' : Track}
    (hcontents : t'.contentsAt (s.slot g) = (s.contents g).overlay r'.written)
    (hpresent : r'.isPresent = r.isPresent) (hslot : ∀ h, t'.slot h = t.slot h)
    (hgrown : t.groups.length ≤ t'.groups.length) : Tracks s g r' t' where
  contents := hcontents
  present_iff := by rw [hslot, hpresent, hr.present_iff]
  others h hne := by rw [hslot]; exact hr.others h hne
  grown := hr.grown.trans hgrown

/-- A group moves to a slot, which is the one that is tracked only if it comes back to it. -/
lemma Tracks.of_move (hr : Tracks s g r t) {t' : Settings} {back : Bool} {h : SettingGroup}
    {i : Nat} (hcontents : t'.contentsAt (s.slot g) = t.contentsAt (s.slot g))
    (hslot : ∀ h', t'.slot h' = if h' = h then i else t.slot h')
    (hi : i = s.slot g ↔ h = g ∧ back = true) (hgrown : t.groups.length ≤ t'.groups.length)
    (v : Value) : Tracks s g (r.keep g back (.group h) v) t' := by
  have hgrown := hr.grown.trans hgrown
  have hcontents := hcontents.trans hr.contents
  rw [Track.keep]
  by_cases hg : h = g
  · subst hg
    rw [if_pos rfl]
    refine ⟨hcontents, ?_, fun h' hne => ?_, hgrown⟩
    · rw [hslot, if_pos rfl]
      exact hi.trans (and_iff_right rfl)
    · rw [hslot, if_neg hne]
      exact hr.others h' hne
  · rw [if_neg hg]
    refine ⟨hcontents, ?_, fun h' hne => ?_, hgrown⟩
    · rw [hslot, if_neg (Ne.symm hg)]
      exact hr.present_iff
    · rw [hslot]
      split
      · exact fun heq => hg (hi.1 heq).1
      · exact hr.others h' hne

/-- Nothing but groups and fields matters to the slots. -/
lemma Tracks.keep_beside (hr : Tracks s g r t) {key : SettingKey} (hkey : IsBeside key)
    (c : SettingContent) : Tracks s g r (t.keep key c) := by
  have hgroups : (t.keep key c).groups = t.groups := by
    unfold keep
    split
    · exact absurd rfl (hkey _).1
    · exact absurd rfl ((hkey _).2 _)
    all_goals rfl
  refine hr.of_slots ?_ rfl (fun h => slot_keep (fun h => (hkey h).1) c) (by rw [hgroups])
  rw [contentsAt, hgroups]
  exact hr.contents

/-- A field that is set is written in the slot of its group. -/
lemma Tracks.keep_field (hr : Tracks s g r t) (back : Bool) (h : SettingGroup) (name : String)
    (v : Value) :
    Tracks s g (r.keep g back (.field h name) v) (t.keep (.field h name) (.plain v)) := by
  have hgrown : t.groups.length ≤ (t.keep (.field h name) (.plain v)).groups.length := by
    simp [keep]
  rw [Track.keep]
  split
  · next hhere =>
    obtain ⟨rfl, hpresent⟩ := hhere
    refine hr.of_slots ?_ rfl (fun _ => slot_keep (by simp) _) hgrown
    rw [contentsAt_keep_field, if_pos (hr.present_iff.2 hpresent), hr.contents,
      GroupContents.set_overlay]
  · next hhere =>
    refine hr.of_slots ?_ rfl (fun _ => slot_keep (by simp) _) hgrown
    rw [contentsAt_keep_field, if_neg, hr.contents]
    intro heq
    by_cases hg : h = g
    · subst hg
      exact hhere ⟨rfl, hr.present_iff.1 heq⟩
    · exact hr.others h hg heq

/-- A new group takes its place beside the slot. -/
lemma Tracks.append_point (hs : s.IsFormed) (hr : Tracks s g r t) (h : SettingGroup)
    (c : GroupContents) (v : Value) :
    Tracks s g (r.keep g false (.group h) v) ((t.append c).point h t.groups.length) := by
  have hlt := (hs.slot_lt g).trans_le hr.grown
  have hi : t.groups.length = s.slot g ↔ h = g ∧ false = true := by simp [hlt.ne']
  refine hr.of_move ?_ (slot_point (t.append c) h · _) hi ?_ v
  · rw [contentsAt_point, contentsAt_append_of_lt hlt]
  · simp [append]

/-- A group comes back into its slot. -/
lemma Tracks.point (hs : s.IsFormed) (hr : Tracks s g r t) (h : SettingGroup) (v : Value) :
    Tracks s g (r.keep g true (.group h) v) (t.point h (s.slot h)) := by
  refine hr.of_move (contentsAt_point ..) (slot_point _ h · _) ?_ (by simp) v
  exact ⟨fun heq => ⟨hs.slot_inj heq, rfl⟩, fun hg => congrArg s.slot hg.1⟩

/-- A key leaves the slot as it is, unless it moves the group or writes a field while it is
there. -/
lemma Track.keep_eq_self {back : Bool} {key : SettingKey}
    (hgroup : key = .group g → r.isPresent = back)
    (hfield : ∀ name, key = .field g name → r.isPresent = false) (v : Value) :
    r.keep g back key v = r := by
  cases key with
  | group h =>
    rw [Track.keep]
    split
    · next heq => rw [← hgroup (by rw [heq])]
    · rfl
  | field h name =>
    rw [Track.keep, if_neg]
    rintro ⟨rfl, hpresent⟩
    rw [hfield name rfl] at hpresent
    cases hpresent
  | _ => rfl

lemma Track.keep_beside {key : SettingKey} (hkey : IsBeside key) (back : Bool) (v : Value) :
    r.keep g back key v = r :=
  Track.keep_eq_self (fun h => absurd h (hkey g).1) (fun name h => absurd h ((hkey g).2 name)) v

/-- An assignment moves the group out of its slot, or writes a field of it. -/
lemma Tracks.assign (hs : s.IsFormed) (hr : Tracks s g r t) {key : String} {v : Value}
    (h : t.assign key v = .ok u) : Tracks s g (r.keep g false (.ofText key) v) u := by
  rcases assignTo_eq_ok h with ⟨g', c, hkey, -, rfl⟩ | ⟨hkey, c, hc, rfl⟩
  · rw [hkey]
    exact hr.append_point hs g' c v
  · cases hk : SettingKey.ofText key with
    | group g' => exact absurd hk (hkey g')
    | field g' name =>
      rw [hk] at hc
      obtain rfl := Except.ok.inj hc
      exact hr.keep_field false g' name v
    | _ =>
      have hbeside : IsBeside (.ofText key) := by simp [IsBeside, hk]
      rw [← hk, Track.keep_beside hbeside]
      exact hr.keep_beside hbeside c

/-- What settings hold under the key of a field. -/
def heldBy (s : Settings) : SettingKey → Value
  | .field g name => s.field g name
  | _ => .null

/-- What was held before moves the group back into its slot, or writes a field of it. -/
lemma Tracks.restore (hs : s.IsFormed) (hr : Tracks s g r t) (key : String) :
    Tracks s g (r.keep g true (.ofText key) (s.heldBy (.ofText key)))
      (t.restore key (s.content? (.ofText key))) := by
  cases hc : s.content? (.ofText key) with
  | none =>
    have hbeside : IsBeside (.ofText key) := by
      refine fun g => ⟨?_, fun name => ?_⟩ <;> intro hk <;> rw [hk] at hc <;> cases hc
    rw [Track.keep_beside hbeside]
    exact ⟨hr.contents, hr.present_iff, hr.others, hr.grown⟩
  | some c =>
    rw [Settings.restore]
    cases hk : SettingKey.ofText key with
    | group g' =>
      rw [hk] at hc
      obtain rfl := Option.some.inj hc
      exact hr.point hs g' _
    | field g' name =>
      rw [hk] at hc
      obtain rfl := Option.some.inj hc
      exact hr.keep_field true g' name _
    | _ =>
      have hbeside : IsBeside (.ofText key) := by simp [IsBeside, hk]
      rw [← hk, Track.keep_beside hbeside]
      exact hr.keep_beside hbeside c

/-- The overrides by what they address. -/
def addressed (changes : List (String × Value)) : List (SettingKey × Value) :=
  changes.map fun m => (.ofText m.1, m.2)

/-- What is held under the overridden keys, by what they address. -/
def heldUnder (s : Settings) (changes : List (String × Value)) : List (SettingKey × Value) :=
  changes.map fun m => (.ofText m.1, s.heldBy (.ofText m.1))

lemma Tracks.assignAll (hs : s.IsFormed) (changes : List (String × Value)) {r : Track}
    {t : Settings} (hr : Tracks s g r t) (h : Settings.assignAll changes t = (.ok (), u)) :
    Tracks s g (r.keepAll g false (addressed changes)) u := by
  induction changes generalizing r t with
  | nil =>
    obtain rfl : t = u := (Prod.mk.inj h).2
    exact hr
  | cons m changes ih =>
    rw [Settings.assignAll] at h
    split at h
    · next t' ht => exact ih (hr.assign hs ht) h
    · cases h

lemma Tracks.restoreAll (hs : s.IsFormed) (changes : List (String × Value)) {r : Track}
    {t : Settings} (hr : Tracks s g r t) :
    Tracks s g (r.keepAll g true (s.heldUnder changes))
      (Settings.restoreAll (changes.map fun m => (m.1, s.content? (.ofText m.1))) t) := by
  induction changes generalizing r t with
  | nil => exact hr
  | cons m changes ih => exact ih (hr.restore hs m.1)

/-! ### What is written at the end -/

/-- While the group is away, nothing is written in its slot. -/
lemma Track.keepAll_absent {back : Bool} (hr : r.isPresent = false)
    (ms : List (SettingKey × Value)) (h : back = true → .group g ∉ ms.map Prod.fst) :
    r.keepAll g back ms = r := by
  induction ms with
  | nil => rfl
  | cons m ms ih =>
    have hstep : r.keep g back m.1 m.2 = r := by
      refine Track.keep_eq_self (fun hm => ?_) (fun _ _ => hr) m.2
      rw [hr]
      cases back with
      | false => rfl
      | true => exact absurd (by simp [hm]) (h rfl)
    rw [Track.keepAll, List.foldl_cons, hstep]
    exact ih fun hback hmem => h hback (List.mem_cons_of_mem _ hmem)

/-- A key that leaves the group there writes the field that it addresses, and no other one. -/
lemma Track.keep_present {back : Bool} {key : SettingKey} (h : key = .group g → back = true)
    (hr : r.isPresent = true) (v : Value) :
    (r.keep g back key v).isPresent = true ∧
      (∀ name, key = .field g name → (r.keep g back key v).written name = some v) ∧
      ∀ name, key ≠ .field g name → (r.keep g back key v).written name = r.written name := by
  by_cases hfield : ∃ name, key = .field g name
  · obtain ⟨name, rfl⟩ := hfield
    rw [Track.keep, if_pos ⟨rfl, hr⟩]
    refine ⟨hr, ?_, fun name' hne => Function.update_of_ne ?_ ..⟩
    · rintro _ ⟨⟩
      exact Function.update_self ..
    · rintro rfl
      exact hne rfl
  · rw [Track.keep_eq_self (fun hkey => hr.trans (h hkey).symm)
      (fun name hkey => absurd ⟨name, hkey⟩ hfield)]
    exact ⟨hr, fun name hkey => absurd ⟨name, hkey⟩ hfield, fun _ _ => rfl⟩

/-- While the group is there, its fields are written. -/
lemma Track.keepAll_present (back : Bool) (ms : List (SettingKey × Value))
    (hkeys : (ms.map Prod.fst).Nodup) (h : back = false → .group g ∉ ms.map Prod.fst)
    (hr : r.isPresent = true) :
    (r.keepAll g back ms).isPresent = true ∧
      (∀ name v, (.field g name, v) ∈ ms → (r.keepAll g back ms).written name = some v) ∧
      (∀ name, .field g name ∉ ms.map Prod.fst →
        (r.keepAll g back ms).written name = r.written name) := by
  induction ms generalizing r with
  | nil => simp [Track.keepAll, hr]
  | cons m ms ih =>
    obtain ⟨key, v⟩ := m
    obtain ⟨hnot, hrest⟩ := List.nodup_cons.1 hkeys
    have hkey : key = .group g → back = true := by
      rintro rfl
      cases back with
      | true => rfl
      | false => exact absurd (by simp) (h rfl)
    obtain ⟨hthere, hwritten, hkept⟩ := Track.keep_present hkey hr v
    obtain ⟨hpresent, hwrites, hkeeps⟩ :=
      ih hrest (fun hback hmem => h hback (List.mem_cons_of_mem _ hmem)) hthere
    refine ⟨hpresent, fun name v' hmem => ?_, fun name hmem => ?_⟩
    · rcases List.mem_cons.1 hmem with heq | hmem
      · obtain ⟨rfl, rfl⟩ := Prod.mk.inj heq
        exact (hkeeps name hnot).trans (hwritten name rfl)
      · exact hwrites name v' hmem
    · obtain ⟨hne, hmem⟩ := not_or.1 fun h => hmem (List.mem_cons.2 h)
      exact (hkeeps name hmem).trans (hkept name (Ne.symm hne))

/-- What is written in the end was there before, or it was kept. -/
lemma Track.mem_or_written (back : Bool) {ms : List (SettingKey × Value)}
    (hkeys : (ms.map Prod.fst).Nodup) (h : back = false → .group g ∉ ms.map Prod.fst)
    (hr : r.isPresent = true) {name : String} {v : Value}
    (hv : (r.keepAll g back ms).written name = some v) :
    (.field g name, v) ∈ ms ∨ r.written name = some v := by
  obtain ⟨-, hwrites, hkeeps⟩ := Track.keepAll_present back ms hkeys h hr
  by_cases hname : .field g name ∈ ms.map Prod.fst
  · obtain ⟨⟨key, w⟩, hm, rfl⟩ := List.mem_map.1 hname
    rw [hwrites name w hm] at hv
    exact Or.inl (Option.some.inj hv ▸ hm)
  · exact Or.inr (hkeeps name hname ▸ hv)

lemma Track.keepAll_append (back : Bool) (ms ns : List (SettingKey × Value)) :
    r.keepAll g back (ms ++ ns) = (r.keepAll g back ms).keepAll g back ns :=
  List.foldl_append ..

/-! ### Overrides -/

/-- No two overrides have the same key. -/
lemma nodup_dottedChanges (changes : List (String × Value)) :
    ((dottedChanges changes).map Prod.fst).Nodup := by
  have hfold : ∀ es acc : List (String × Value), (acc.map Prod.fst).Nodup →
      ((es.foldl (fun acc e => put e.1 e.2 acc) acc).map Prod.fst).Nodup := by
    intro es
    induction es with
    | nil => exact fun acc h => h
    | cons e es ih => exact fun acc h => ih _ (sets_put.nodup h e.1 e.2)
  exact hfold _ [] List.nodup_nil

lemma nodup_addressed {changes : List (String × Value)} (h : (changes.map Prod.fst).Nodup) :
    ((addressed changes).map Prod.fst).Nodup := by
  have heq : (addressed changes).map Prod.fst = (changes.map Prod.fst).map SettingKey.ofText := by
    simp [addressed]
  rw [heq]
  exact h.map SettingKey.ofText_injective

lemma map_fst_heldUnder (s : Settings) (changes : List (String × Value)) :
    (s.heldUnder changes).map Prod.fst = (addressed changes).map Prod.fst := by
  simp [heldUnder, addressed]

lemma mem_heldUnder_iff {changes : List (String × Value)} {name : String} {v : Value} :
    (.field g name, v) ∈ s.heldUnder changes ↔
      .field g name ∈ (addressed changes).map Prod.fst ∧ v = s.field g name := by
  have haddressed : .field g name ∈ (addressed changes).map Prod.fst ↔
      ∃ m ∈ changes, SettingKey.ofText m.1 = .field g name := by
    simp [addressed]
  rw [haddressed]
  constructor
  · intro h
    obtain ⟨m, hm, heq⟩ := List.mem_map.1 h
    obtain ⟨hkey, rfl⟩ := Prod.mk.inj heq
    exact ⟨⟨m, hm, hkey⟩, by rw [hkey]; rfl⟩
  · rintro ⟨⟨m, hm, hkey⟩, rfl⟩
    exact List.mem_map.2 ⟨m, hm, by rw [hkey]; rfl⟩

lemma hasField_of_mem_addressed {changes : List (String × Value)} {name : String}
    (h : .field g name ∈ (addressed changes).map Prod.fst) : g.hasField name = true := by
  obtain ⟨m, -, hkey⟩ : ∃ m ∈ changes, SettingKey.ofText m.1 = .field g name := by
    simpa [addressed] using h
  exact SettingKey.hasField_of_ofText hkey

section

variable {before after : List (String × Value)} {m : String × Value}

/-- A group that is replaced is away, and only the fields in front of it were written. -/
lemma Track.keepAll_replaced (hgroup : SettingKey.ofText m.1 = .group g) :
    r.keepAll g false (addressed (before ++ m :: after)) =
      ⟨false, (r.keepAll g false (addressed before)).written⟩ := by
  have hcons : addressed (before ++ m :: after) =
      addressed before ++ ([(.group g, m.2)] ++ addressed after) := by
    simp [addressed, hgroup]
  rw [hcons, Track.keepAll_append, Track.keepAll_append]
  refine (Track.keepAll_absent ?_ _ (by simp)).trans ?_
  · simp [Track.keepAll, Track.keep]
  · simp [Track.keepAll, Track.keep]

/-- A group stays away until it is restored, and then the fields behind it are written. -/
lemma Track.keepAll_restored (hgroup : SettingKey.ofText m.1 = .group g)
    (hbefore : .group g ∉ (addressed before).map Prod.fst) (written : String → Option Value) :
    Track.keepAll g true ⟨false, written⟩ (s.heldUnder (before ++ m :: after)) =
      Track.keepAll g true ⟨true, written⟩ (s.heldUnder after) := by
  have hcons : s.heldUnder (before ++ m :: after) =
      s.heldUnder before ++ ([(.group g, .null)] ++ s.heldUnder after) := by
    simp [heldUnder, hgroup, heldBy]
  have habsent : Track.keepAll g true ⟨false, written⟩ (s.heldUnder before) = ⟨false, written⟩ :=
    Track.keepAll_absent rfl _ fun _ => by rwa [map_fst_heldUnder]
  rw [hcons, Track.keepAll_append, Track.keepAll_append, habsent]
  congr 1
  simp [Track.keepAll, Track.keep]

end

/-- The overrides up to the first one that is refused are accepted. -/
lemma assignAll_split (changes : List (String × Value)) (s : Settings) :
    ∃ accepted rest, changes = accepted ++ rest ∧
      assignAll accepted s = (.ok (), (assignAll changes s).2) ∧
      ∀ m ms, rest = m :: ms → (assignAll (accepted ++ [m]) s).1 ≠ .ok () := by
  induction changes generalizing s with
  | nil => exact ⟨[], [], rfl, rfl, by simp⟩
  | cons m changes ih =>
    cases hm : s.assign m.1 m.2 with
    | ok t =>
      have hcons : ∀ l, assignAll (m :: l) s = assignAll l t := by
        intro l
        rw [assignAll, hm]
      obtain ⟨accepted, rest, rfl, haccepted, hrest⟩ := ih t
      refine ⟨m :: accepted, rest, rfl, by rw [hcons, hcons, haccepted], fun n ms hn => ?_⟩
      rw [List.cons_append, hcons]
      exact hrest n ms hn
    | error e =>
      have hcons : ∀ l, assignAll (m :: l) s = (.error e, s) := by
        intro l
        rw [assignAll, hm]
      refine ⟨[], m :: changes, rfl, by rw [hcons, assignAll], fun n ms hn => ?_⟩
      obtain ⟨rfl, rfl⟩ := List.cons.inj hn
      rw [List.nil_append, hcons]
      simp

lemma assignAll_append_ok {before after : List (String × Value)}
    (h : (assignAll (before ++ after) s).1 = .ok ()) : (assignAll before s).1 = .ok () := by
  induction before generalizing s with
  | nil => rfl
  | cons m before ih =>
    rw [List.cons_append, assignAll] at h
    rw [assignAll]
    split at h
    · exact ih h
    · cases h

/-- An override that is accepted with all those in front of it is among the accepted ones. -/
lemma mem_accepted {accepted rest before after : List (String × Value)} {m : String × Value}
    (heq : accepted ++ rest = before ++ m :: after)
    (hrest : ∀ n ms, rest = n :: ms → (assignAll (accepted ++ [n]) s).1 ≠ .ok ())
    (hm : (assignAll (before ++ [m]) s).1 = .ok ()) : m ∈ accepted := by
  rcases List.append_eq_append_iff.1 heq with ⟨between, rfl, hsplit⟩ | ⟨c, rfl, hsplit⟩
  · cases between with
    | nil => exact absurd (by simpa using hm) (hrest m after hsplit)
    | cons n between =>
      have hok : (assignAll (accepted ++ [n] ++ (between ++ [m])) s).1 = .ok () := by
        simpa using hm
      exact absurd (assignAll_append_ok hok) (hrest n _ hsplit)
  · cases c with
    | nil => exact absurd (by simpa using hm) (hrest m after hsplit.symm)
    | cons n c =>
      obtain ⟨rfl, -⟩ := List.cons.inj hsplit
      simp

/-- The part of a list in front of a key is determined, when no key is there twice. -/
lemma eq_of_append_cons {before before' after after' : List (String × Value)}
    {m m' : String × Value} (hnodup : ((before ++ m :: after).map Prod.fst).Nodup)
    (heq : before ++ m :: after = before' ++ m' :: after') (hm : m.1 = m'.1) :
    before = before' ∧ m = m' := by
  induction before generalizing before' with
  | nil =>
    cases before' with
    | nil => exact ⟨rfl, (List.cons.inj heq).1⟩
    | cons n before' =>
      obtain ⟨rfl, rfl⟩ := List.cons.inj heq
      refine absurd ?_ (List.nodup_cons.1 hnodup).1
      simp [hm]
  | cons n before ih =>
    cases before' with
    | nil =>
      obtain ⟨rfl, rfl⟩ := List.cons.inj heq
      refine absurd ?_ (List.nodup_cons.1 hnodup).1
      simp [hm]
    | cons n' before' =>
      obtain ⟨rfl, hrest⟩ := List.cons.inj heq
      obtain ⟨rfl, hm⟩ := ih (List.nodup_cons.1 hnodup).2 hrest
      exact ⟨rfl, hm⟩

/-- A field of a group is overridden, and the group is replaced after it: all overrides up to that
of the group are accepted. -/
def IsStranded (s : Settings) (changes : List (String × Value)) (g : SettingGroup) (name : String)
    (v : Value) : Prop :=
  ∃ before m after, dottedChanges changes = before ++ m :: after ∧
    SettingKey.ofText m.1 = .group g ∧ (assignAll (before ++ [m]) s).1 = .ok () ∧
    (.field g name, v) ∈ addressed before

lemma override_settings {α : Type} (changes : List (String × Value))
    {body : Settings → Result α × Settings} (hbody : ∀ t, (body t).2 = t) (s : Settings) :
    (override changes body s).2 =
      restoreAll ((dottedChanges changes).map fun m => (m.1, s.content? (.ofText m.1)))
        (assignAll (dottedChanges changes) s).2 := by
  unfold override
  dsimp only
  split
  · next e t heq => rw [heq]
  · next t heq => rw [heq, hbody]

lemma Tracks.start (hs : s.IsFormed) (g : SettingGroup) : Tracks s g ⟨true, fun _ => none⟩ s := by
  refine ⟨?_, by simp, fun h hne heq => hne (hs.slot_inj heq), le_rfl⟩
  rw [GroupContents.overlay_none]
  rfl

section

variable {accepted rest before after : List (String × Value)} {m : String × Value}

/-- A group that is not replaced has its fields back at the end. -/
lemma tracks_kept (hs : s.IsFormed)
    (hnodup : ((addressed (accepted ++ rest)).map Prod.fst).Nodup)
    (haccepted : Settings.assignAll accepted s = (.ok (), t))
    (hgroup : .group g ∉ (addressed accepted).map Prod.fst) :
    ∃ r, r.isPresent = true ∧
      Tracks s g r (Settings.restoreAll
        ((accepted ++ rest).map fun m => (m.1, s.content? (.ofText m.1))) t) ∧
      ∀ name v, r.written name = some v →
        .field g name ∈ (addressed (accepted ++ rest)).map Prod.fst ∧ v = s.field g name := by
  have haddressed : (addressed (accepted ++ rest)).map Prod.fst =
      (addressed accepted).map Prod.fst ++ (addressed rest).map Prod.fst := by
    simp [addressed]
  have hnodup' : ((addressed accepted).map Prod.fst).Nodup := by
    rw [haddressed] at hnodup
    exact hnodup.of_append_left
  have hheld : ((s.heldUnder (accepted ++ rest)).map Prod.fst).Nodup := by
    rwa [map_fst_heldUnder]
  have hassigned := (Tracks.start hs g).assignAll hs accepted haccepted
  obtain ⟨hpresent, -, -⟩ :=
    Track.keepAll_present (r := ⟨true, fun _ => none⟩) false _ hnodup' (fun _ => hgroup) rfl
  obtain ⟨hpresent', hwrites, -⟩ := Track.keepAll_present true _ hheld (by simp) hpresent
  refine ⟨_, hpresent', hassigned.restoreAll hs (accepted ++ rest), fun name v hv => ?_⟩
  rcases Track.mem_or_written true hheld (by simp) hpresent hv with hmem | hv'
  · exact mem_heldUnder_iff.1 hmem
  · rcases Track.mem_or_written false hnodup' (fun _ => hgroup) rfl hv' with hmem | hnone
    · have hkey : .field g name ∈ (addressed (accepted ++ rest)).map Prod.fst := by
        rw [haddressed]
        exact List.mem_append_left _ (List.mem_map_of_mem (f := Prod.fst) hmem)
      rw [hwrites name _ (mem_heldUnder_iff.2 ⟨hkey, rfl⟩)] at hv
      exact ⟨hkey, (Option.some.inj hv).symm⟩
    · cases hnone

/-- A group that is replaced comes back with the fields that were overridden before it. -/
lemma tracks_replaced (hs : s.IsFormed)
    (hnodup : ((addressed (before ++ m :: after ++ rest)).map Prod.fst).Nodup)
    (haccepted : Settings.assignAll (before ++ m :: after) s = (.ok (), t))
    (hgroup : SettingKey.ofText m.1 = .group g) :
    ∃ r, r.isPresent = true ∧
      Tracks s g r (Settings.restoreAll
        ((before ++ m :: after ++ rest).map fun m => (m.1, s.content? (.ofText m.1))) t) ∧
      (∀ name v, (.field g name, v) ∈ addressed before → r.written name = some v) ∧
      ∀ name v, r.written name = some v → (.field g name, v) ∈ addressed before ∨
        .field g name ∈ (addressed (before ++ m :: after ++ rest)).map Prod.fst ∧
          v = s.field g name := by
  -- the keys in front of the group, and those behind it
  have hsplit : (addressed (before ++ m :: after ++ rest)).map Prod.fst =
      (addressed before).map Prod.fst ++ .group g :: (addressed (after ++ rest)).map Prod.fst := by
    simp [addressed, hgroup]
  obtain ⟨hbefore, hbehind, hdisjoint⟩ := List.nodup_append.1 (hsplit ▸ hnodup)
  have hafter : ((s.heldUnder (after ++ rest)).map Prod.fst).Nodup := by
    rw [map_fst_heldUnder]
    exact (List.nodup_cons.1 hbehind).2
  have hnotBefore : .group g ∉ (addressed before).map Prod.fst := fun hmem =>
    hdisjoint _ hmem (.group g) (by simp) rfl
  -- the fields in front of the group are written, and then the group is away
  obtain ⟨-, hwrites, -⟩ := Track.keepAll_present (r := ⟨true, fun _ => none⟩) false
    (addressed before) hbefore (fun _ => hnotBefore) rfl
  have hassigned := (Tracks.start hs g).assignAll hs _ haccepted
  have hmem_before : ∀ name v,
      ((Track.mk true fun _ => none).keepAll g false (addressed before)).written name = some v →
        (.field g name, v) ∈ addressed before := by
    intro name v hv
    have hcases := Track.mem_or_written false hbefore (fun _ => hnotBefore) rfl hv
    exact hcases.resolve_right (by simp)
  rw [Track.keepAll_replaced hgroup] at hassigned
  generalize (Track.keepAll g false ⟨true, fun _ => none⟩ (addressed before)).written = written at *
  have hrestored := hassigned.restoreAll hs (before ++ m :: (after ++ rest))
  rw [Track.keepAll_restored hgroup hnotBefore, ← List.cons_append, ← List.append_assoc]
    at hrestored
  obtain ⟨hpresent, -, hkeeps⟩ :=
    Track.keepAll_present (g := g) (r := ⟨true, written⟩) true _ hafter (by simp) rfl
  refine ⟨_, hpresent, hrestored, fun name v hmem => ?_, fun name v hv => ?_⟩
  · refine (hkeeps name ?_).trans (hwrites name v hmem)
    rw [map_fst_heldUnder]
    intro hmem'
    exact hdisjoint _ (List.mem_map_of_mem (f := Prod.fst) hmem) _
      (List.mem_cons_of_mem _ hmem') rfl
  · rcases Track.mem_or_written true hafter (by simp) rfl hv with hmem | hv'
    · obtain ⟨hkey, rfl⟩ := mem_heldUnder_iff.1 hmem
      refine Or.inr ⟨?_, rfl⟩
      rw [hsplit]
      exact List.mem_append_right _ (List.mem_cons_of_mem _ hkey)
    · exact Or.inl (hmem_before name v hv')

end

/-- In the slot that a group had are its contents of before, with the stranded overrides. -/
lemma override_tracks {α : Type} (hs : s.IsFormed) (changes : List (String × Value))
    {body : Settings → Result α × Settings} (hbody : ∀ t, (body t).2 = t) (g : SettingGroup) :
    ∃ r, r.isPresent = true ∧ Tracks s g r (override changes body s).2 ∧
      (∀ name v, IsStranded s changes g name v → r.written name = some v) ∧
      ∀ name v, r.written name = some v → g.hasField name = true ∧
        (IsStranded s changes g name v ∨ v = s.field g name) := by
  obtain ⟨accepted, rest, heq, haccepted, hrest⟩ := assignAll_split (dottedChanges changes) s
  have hnodup := nodup_addressed (nodup_dottedChanges changes)
  rw [override_settings changes hbody]
  generalize (Settings.assignAll (dottedChanges changes) s).2 = t at haccepted ⊢
  by_cases hgroup : .group g ∈ (addressed accepted).map Prod.fst
  · -- the group is replaced
    obtain ⟨m, hm, hkey⟩ : ∃ m ∈ accepted, SettingKey.ofText m.1 = .group g := by
      simpa [addressed] using hgroup
    obtain ⟨before, after, rfl⟩ := List.append_of_mem hm
    rw [heq] at hnodup ⊢
    obtain ⟨r, hpresent, hr, hwrites, hwritten⟩ := tracks_replaced hs hnodup haccepted hkey
    refine ⟨r, hpresent, hr, fun name v hstranded => ?_, fun name v hv => ?_⟩
    · obtain ⟨before', m', after', heq', hkey', -, hmem⟩ := hstranded
      have hunique := nodup_dottedChanges changes
      rw [heq, List.append_assoc, List.cons_append] at hunique heq'
      obtain ⟨rfl, -⟩ := eq_of_append_cons hunique heq'
        (SettingKey.ofText_injective (hkey.trans hkey'.symm))
      exact hwrites name v hmem
    · rcases hwritten name v hv with hmem | ⟨hmem, rfl⟩
      · have hok : (Settings.assignAll (before ++ [m] ++ after) s).1 = .ok () := by
          simp [haccepted]
        exact ⟨hasField_of_mem_addressed (List.mem_map_of_mem (f := Prod.fst) hmem),
          Or.inl ⟨before, m, after ++ rest, by simp [heq], hkey, assignAll_append_ok hok, hmem⟩⟩
      · exact ⟨hasField_of_mem_addressed hmem, Or.inr rfl⟩
  · -- the group stays, or its override is refused
    rw [heq] at hnodup ⊢
    obtain ⟨r, hpresent, hr, hwritten⟩ := tracks_kept hs hnodup haccepted hgroup
    refine ⟨r, hpresent, hr, fun name v hstranded => ?_, fun name v hv => ?_⟩
    · obtain ⟨before, m, after, heq', hkey, hok, -⟩ := hstranded
      have hm := mem_accepted (heq.symm.trans heq') hrest hok
      have hmem : (SettingKey.group g, m.2) ∈ addressed accepted :=
        List.mem_map.2 ⟨m, hm, by rw [hkey]⟩
      exact absurd (List.mem_map_of_mem (f := Prod.fst) hmem) hgroup
    · obtain ⟨hmem, rfl⟩ := hwritten name v hv
      exact ⟨hasField_of_mem_addressed hmem, Or.inr rfl⟩

/-! ### Readings -/

/-- What a dotted key reads as, if it can be read. -/
def reading (s : Settings) (key : String) : Option ShownContent :=
  (s.content? (.ofText key)).map s.shownContent

/-- What a field reads as, of a group that is in the slot that it had. -/
lemma Tracks.field_eq (hs : s.IsFormed) (hr : Tracks s g r t) (hpresent : r.isPresent = true)
    {name : String} (hname : g.hasField name = true) :
    t.field g name = (r.written name).getD (s.field g name) := by
  obtain ⟨w, hw⟩ := (hs g).exists_value? hname
  have hcontents : t.contents g = (s.contents g).overlay r.written := by
    rw [Settings.contents, hr.present_iff.2 hpresent, hr.contents]
  rw [field, hcontents, GroupContents.value?_overlay, field, hw]
  rfl

/-- A group in the slot that it had has its contents of before, if what was written there is what
its fields had. -/
lemma Tracks.contents_eq (hs : s.IsFormed) (hr : Tracks s g r t)
    (hwritten : ∀ name v, r.written name = some v →
      g.hasField name = true ∧ v = s.field g name) :
    t.contentsAt (s.slot g) = s.contents g := by
  rw [hr.contents, GroupContents.overlay_eq_self_iff (hs g) fun name v hv => (hwritten name v hv).1]
  intro name v hv
  obtain ⟨hname, rfl⟩ := hwritten name v hv
  obtain ⟨w, hw⟩ := (hs g).exists_value? hname
  rw [field, hw]
  rfl

/-- A key beside the groups holds a value, which reads as it is. -/
lemma reading_eq_of_beside {key : String} (hbeside : IsBeside (.ofText key))
    (hcontent : t.content? (.ofText key) = s.content? (.ofText key)) :
    t.reading key = s.reading key := by
  rw [reading, reading, hcontent]
  generalize SettingKey.ofText key = k at hbeside
  cases k with
  | group g => exact absurd rfl (hbeside g).1
  | field g name => exact absurd rfl ((hbeside g).2 name)
  | other name =>
    rw [content?]
    cases s.extra.lookup name <;> rfl
  | _ => rfl

/-- A key of a group reads as the contents of the slot of the group. -/
lemma reading_eq_of_contents {key : String} (hkey : ¬ IsBeside (.ofText key))
    (hgroups : ∀ g, t.slot g = s.slot g ∧ t.contentsAt (s.slot g) = s.contents g) :
    t.reading key = s.reading key := by
  rw [reading, reading]
  cases hk : SettingKey.ofText key with
  | group g =>
    obtain ⟨hslot, hcontents⟩ := hgroups g
    rw [content?, content?, hslot, Option.map_some, Option.map_some, shownContent, shownContent,
      hcontents]
    rfl
  | field g name =>
    obtain ⟨hslot, hcontents⟩ := hgroups g
    have hfield : t.field g name = s.field g name := by
      rw [field, contents, hslot, hcontents, field]
    rw [content?, content?, hfield]
    rfl
  | _ => exact absurd (by simp [IsBeside, hk]) hkey

/-- After a block whose body leaves the settings as they are, every dotted key reads as before, or
cannot be read as before, just when no field of a group was overridden with another value before
the whole group was replaced. -/
theorem override_restores_iff {α : Type} (hs : Reachable s) (changes : List (String × Value))
    {body : Settings → Result α × Settings} (hbody : ∀ t, (body t).2 = t) :
    (∀ key, (override changes body s).2.reading key = s.reading key) ↔
      ∀ g name v, IsStranded s changes g name v → v = s.field g name := by
  have hformed := hs.isFormed
  have htracks := override_tracks hformed changes hbody
  constructor
  · intro hreading g name v hstranded
    obtain ⟨r, hpresent, hr, hwrites, hwritten⟩ := htracks g
    obtain ⟨m, -, hkey⟩ : ∃ m : String × Value,
        m.2 = v ∧ SettingKey.ofText m.1 = .field g name := by
      obtain ⟨before, -, -, -, -, -, hmem⟩ := hstranded
      obtain ⟨m, -, heq⟩ := List.mem_map.1 hmem
      exact ⟨m, (Prod.mk.inj heq).2, (Prod.mk.inj heq).1⟩
    have hv := hwrites name v hstranded
    have hfield := hr.field_eq hformed hpresent (hwritten name v hv).1
    have hsame : (override changes body s).2.field g name = s.field g name := by
      have h := hreading m.1
      rw [reading, reading, hkey] at h
      exact ShownContent.plain.inj (Option.some.inj h)
    rw [hv, hsame] at hfield
    exact hfield.symm
  · intro hkept key
    -- the groups are in their slots, with their contents
    have hgroups : ∀ g, (override changes body s).2.slot g = s.slot g ∧
        (override changes body s).2.contentsAt (s.slot g) = s.contents g := by
      intro g
      obtain ⟨r, hpresent, hr, -, hwritten⟩ := htracks g
      refine ⟨hr.present_iff.2 hpresent, hr.contents_eq hformed fun name v hv => ?_⟩
      obtain ⟨hname, hcases⟩ := hwritten name v hv
      exact ⟨hname, hcases.elim (hkept g name v) id⟩
    by_cases hbeside : IsBeside (.ofText key)
    · refine reading_eq_of_beside hbeside ?_
      rw [override_settings changes hbody]
      refine content?_restoreAll hbeside _ ?_
      by_cases hmem : key ∈ (dottedChanges changes).map Prod.fst
      · exact Or.inr hmem
      · exact Or.inl (content?_assignAll hbeside hmem s)
    · exact reading_eq_of_contents hbeside hgroups

lemma reachable_standard : Reachable standard := .made (e := []) rfl

/-- A body that does nothing. -/
def idle (s : Settings) : Result Unit × Settings := (.ok (), s)

/-- The database group as a whole, and then a field of it. -/
def groupThenField : List (String × Value) :=
  [("database", .dict [(.text "dbname", .text "app")]), ("database__host", .text "db1")]

/-- A field of the database group, and then the group as a whole. -/
def fieldThenGroup : List (String × Value) := groupThenField.reverse

lemma not_isStranded_groupThenField {name : String} {v : Value} :
    ¬ IsStranded standard groupThenField g name v := by
  have hchanges : dottedChanges groupThenField =
      [("database", .dict [(.text "dbname", .text "app")]), ("database.host", .text "db1")] := rfl
  rintro ⟨before, m, after, heq, hkey, -, hmem⟩
  rw [hchanges] at heq
  match before with
  | [] => simp [addressed] at hmem
  | [n] =>
    obtain ⟨-, hm⟩ := List.cons.inj heq
    obtain ⟨rfl, -⟩ := List.cons.inj hm
    cases hkey
  | n :: n' :: before => simp at heq

/-- A field that is overridden behind its group leaves nothing behind. -/
theorem groupThenField_restored : Reachable standard ∧ (∀ t, (idle t).2 = t) ∧
    (∀ g name v, IsStranded standard groupThenField g name v → v = standard.field g name) ∧
    ∀ key, (override groupThenField idle standard).2.reading key = standard.reading key := by
  have hkept : ∀ g name v, IsStranded standard groupThenField g name v →
      v = standard.field g name := fun _ _ _ h => absurd h not_isStranded_groupThenField
  exact ⟨reachable_standard, fun _ => rfl, hkept,
    (override_restores_iff reachable_standard groupThenField fun _ => rfl).2 hkept⟩

/-- A field that is overridden before its group keeps its override. -/
theorem fieldThenGroup_left : Reachable standard ∧ (∀ t, (idle t).2 = t) ∧
    standard.reading "database.host" = some (.plain (.text "localhost")) ∧
    (override fieldThenGroup idle standard).2.reading "database.host" =
      some (.plain (.text "db1")) :=
  ⟨reachable_standard, fun _ => rfl, rfl, rfl⟩

end Settings

end DocumentSql

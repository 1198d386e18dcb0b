/-
Keys are exactly their grammar.

A key is `$*`, or a dollar sign with a plain identifier behind it, or a path: components of letters
and digits of ASCII, underscores and hyphens, with dots between them (`IsKeyText`).  What is read
from a text is written as that text, and of its characters only those behind the dollar sign, with
commas for the dots, stand in the expression of the key (`resolve_spliced`).

One line end is let through behind an identifier or a path.  It belongs to the key that is read and
stands in its expression, and it is the only way in which reading departs from the grammar
(`parse_follows_iff`).
-/
import DocumentSql.Proofs.Cast.Navigation
import DocumentSql.Proofs.Key.Place

namespace DocumentSql

namespace FieldKey

/-! ### The grammar -/

/-- The characters of a path: one or more components with dots between them. -/
def IsPathText (cs : List Char) : Prop :=
  ∃ parts, parts ≠ [] ∧ (∀ part ∈ parts, isComponent part = true) ∧
    cs = List.intercalate ['.'] parts

/-- The characters of a key. -/
inductive IsKeyText : List Char → Prop where
  /-- All columns. -/
  | all : IsKeyText ['$', '*']
  /-- A column, or what is computed like one. -/
  | column {cs : List Char} (h : isPlainName cs = true) : IsKeyText ('$' :: cs)
  /-- A property of the data container. -/
  | path {cs : List Char} (h : IsPathText cs) : IsKeyText cs

/-- The characters of a key of one column or property, with a line end behind them. -/
def IsKeyLine (cs : List Char) : Prop :=
  ∃ ds, IsKeyText ds ∧ ds ≠ ['$', '*'] ∧ cs = ds ++ ['\n']

/-- A character that a key may hold. -/
def IsKeyChar (c : Char) : Prop := isPathChar c = true ∨ c ∈ ['.', '$', '*']

lemma isPathChar_of_isNameChar {c : Char} (h : isNameChar c = true) : isPathChar c = true := by
  simp only [isNameChar, isPathChar, Bool.or_eq_true] at h ⊢
  exact Or.inl h

section

variable {cs ds part : List Char} {s : String} {k : FieldKey} {v : Value}

lemma isPathText_iff :
    IsPathText cs ↔ ∀ part ∈ Text.splitAll '.' cs, isComponent part = true := by
  constructor
  · rintro ⟨parts, hne, hparts, rfl⟩
    have hdot : ∀ part ∈ parts, '.' ∉ part := fun part hpart hmem =>
      absurd ((isComponent_iff.1 (hparts part hpart)).2 _ hmem) (by decide)
    rwa [Text.splitAll_intercalate hne hdot]
  · intro h
    exact ⟨_, Text.splitAll_ne_nil '.' cs, h, (Text.intercalate_splitAll '.' cs).symm⟩

lemma isKeyChar_of_isPathText (h : IsPathText cs) :
    ∀ c ∈ cs, isPathChar c = true ∨ c = '.' := by
  intro c hc
  rcases Text.mem_splitAll_or_eq '.' hc with rfl | ⟨part, hpart, hmem⟩
  · exact Or.inr rfl
  · exact Or.inl ((isComponent_iff.1 (isPathText_iff.1 h part hpart)).2 c hmem)

lemma IsKeyText.isKeyChar (h : IsKeyText cs) : ∀ c ∈ cs, IsKeyChar c := by
  intro c hc
  cases h with
  | all =>
    obtain rfl | rfl : c = '$' ∨ c = '*' := by simpa using hc
    all_goals exact Or.inr (by simp)
  | column hname =>
    rcases List.mem_cons.1 hc with rfl | hc
    · exact Or.inr (by simp)
    · exact Or.inl (isPathChar_of_isNameChar (isNameChar_of_isPlainName hname c hc))
  | path hpath =>
    rcases isKeyChar_of_isPathText hpath c hc with hchar | rfl
    · exact Or.inl hchar
    · exact Or.inr (by simp)

lemma IsKeyText.no_lineEnd (h : IsKeyText cs) : '\n' ∉ cs := fun hmem => by
  have hchar := h.isKeyChar _ hmem
  revert hchar
  unfold IsKeyChar
  decide

/-- No key is one with a line end behind it. -/
lemma IsKeyLine.not_isKeyText (h : IsKeyLine cs) : ¬ IsKeyText cs := by
  obtain ⟨ds, -, -, rfl⟩ := h
  exact fun hkey => hkey.no_lineEnd (by simp)

/-! ### Line ends -/

/-- A test of texts without line ends, which overlooks one behind the text. -/
lemma dropLineEnd_iff {P : List Char → Prop} (hP : ∀ cs, P cs → '\n' ∉ cs) :
    P (dropLineEnd cs) ↔ P cs ∨ ∃ ds, P ds ∧ cs = ds ++ ['\n'] := by
  by_cases hlast : cs.getLast? = some '\n'
  · obtain ⟨ds, rfl⟩ := List.getLast?_eq_some_iff.1 hlast
    have hdrop : dropLineEnd (ds ++ ['\n']) = ds := by simp [dropLineEnd]
    rw [hdrop]
    constructor
    · exact fun h => Or.inr ⟨ds, h, rfl⟩
    · rintro (h | ⟨es, h, heq⟩)
      · exact absurd (by simp) (hP _ h)
      · rwa [List.append_cancel_right heq]
  · rw [dropLineEnd_eq_self_iff.2 hlast]
    constructor
    · exact Or.inl
    · rintro (h | ⟨ds, -, rfl⟩)
      · exact h
      · simp at hlast

lemma isColumnName_iff :
    isColumnName cs = true ↔
      isPlainName cs = true ∨ ∃ ds, isPlainName ds = true ∧ cs = ds ++ ['\n'] :=
  dropLineEnd_iff (P := fun cs => isPlainName cs = true) fun _ h hmem =>
    absurd (isNameChar_of_isPlainName h _ hmem) (by decide)

lemma isPath_iff : isPath cs = true ↔ IsPathText cs ∨ ∃ ds, IsPathText ds ∧ cs = ds ++ ['\n'] := by
  rw [isPath, List.all_eq_true, ← isPathText_iff]
  exact dropLineEnd_iff fun _ h => (IsKeyText.path h).no_lineEnd

/-! ### Reading -/

/-- The related documents and the moments are named like columns. -/
lemma isColumnName_of_special {name : String}
    (h : name = relationsColumn ∨ name ∈ timestampColumns) : isColumnName name.toList = true := by
  have hspecial : ∀ name ∈ relationsColumn :: timestampColumns,
      isColumnName name.toList = true := by decide
  exact hspecial name (List.mem_cons.2 h)

lemma exists_ofText?_column {rest : List Char} (hs : s.toList = '$' :: rest) :
    (∃ k, ofText? s = some k) ↔ rest = ['*'] ∨ isColumnName rest = true := by
  have hstar : String.ofList rest = "*" ↔ rest = ['*'] := by
    rw [← String.toList_inj, String.toList_ofList]
    rfl
  rw [ofText?, hs]
  simp only [beq_iff_eq, List.contains_iff_mem]
  split_ifs with hall hrelations hstamp hname
  · simp [hstar.1 hall]
  · simpa using Or.inr (by simpa using isColumnName_of_special (Or.inl hrelations))
  · simpa using Or.inr (by simpa using isColumnName_of_special (Or.inr hstamp))
  · simp [hname]
  · simpa [hname, hstar] using hall

lemma exists_ofText?_path (hs : ∀ rest, s.toList ≠ '$' :: rest) :
    (∃ k, ofText? s = some k) ↔ isPath s.toList = true := by
  unfold ofText?
  split
  · next rest heq => exact absurd heq (hs rest)
  · split <;> simp_all

lemma isKeyText_cons_iff {rest : List Char} :
    IsKeyText ('$' :: rest) ↔ rest = ['*'] ∨ isPlainName rest = true := by
  constructor
  · intro h
    cases h with
    | all => exact Or.inl rfl
    | column h => exact Or.inr h
    | path h =>
      rcases isKeyChar_of_isPathText h '$' List.mem_cons_self with hc | hc <;>
        exact absurd hc (by decide)
  · rintro (rfl | h)
    · exact .all
    · exact .column h

lemma isKeyText_iff_of_ne (hcs : ∀ rest, cs ≠ '$' :: rest) : IsKeyText cs ↔ IsPathText cs := by
  constructor
  · intro h
    cases h with
    | all => exact absurd rfl (hcs _)
    | column => exact absurd rfl (hcs _)
    | path h => exact h
  · exact .path

/-- A text is read if and only if it is a key, or a key with a line end behind it. -/
theorem exists_ofText?_iff :
    (∃ k, ofText? s = some k) ↔ IsKeyText s.toList ∨ IsKeyLine s.toList := by
  by_cases hdollar : ∃ rest, s.toList = '$' :: rest
  · obtain ⟨rest, hs⟩ := hdollar
    rw [exists_ofText?_column hs, isColumnName_iff, hs, isKeyText_cons_iff, or_assoc]
    refine or_congr Iff.rfl (or_congr Iff.rfl ⟨?_, ?_⟩)
    · rintro ⟨name, hname, rfl⟩
      refine ⟨'$' :: name, .column hname, ?_, rfl⟩
      rintro heq
      obtain rfl : name = ['*'] := by simpa using heq
      exact absurd hname (by decide)
    · rintro ⟨ds, hds, hne, heq⟩
      cases ds with
      | nil => simp at heq
      | cons d ds =>
        obtain ⟨rfl, rfl⟩ : '$' = d ∧ rest = ds ++ ['\n'] := List.cons.inj heq
        exact ⟨ds, (isKeyText_cons_iff.1 hds).resolve_left (by simpa using hne), rfl⟩
  · have hs : ∀ rest, s.toList ≠ '$' :: rest := fun rest heq => hdollar ⟨rest, heq⟩
    rw [exists_ofText?_path hs, isPath_iff, isKeyText_iff_of_ne hs]
    refine or_congr Iff.rfl ⟨?_, ?_⟩
    · rintro ⟨ds, hds, heq⟩
      refine ⟨ds, .path hds, ?_, heq⟩
      rintro rfl
      exact hs _ heq
    · rintro ⟨ds, hds, hne, heq⟩
      refine ⟨ds, (isKeyText_iff_of_ne ?_).1 hds, heq⟩
      rintro rest rfl
      exact hs _ heq

/-- A key that is read is written as the text. -/
theorem name_of_ofText? (h : ofText? s = some k) : k.name = s := by
  cases names_of_ofText? h with
  | path => exact Text.joined_split '.' s
  | all | relations | timestamp | column => rfl

lemma fault_kind (v : Value) (s : String) : (fault v s).kind? = some .key := by
  unfold fault
  split <;> rfl

/-- What is no key is refused as such. -/
theorem parse_error_kind {err : Error} (h : parse v = .error err) : err.kind? = some .key := by
  unfold parse at h
  split at h
  · simp at h
  · split at h
    · obtain rfl := Except.error.inj h
      rfl
    · split at h
      · simp at h
      · obtain rfl := Except.error.inj h
        exact fault_kind _ _

/-- A text is parsed to the key that is read from it. -/
lemma parse_eq_ok_iff (hs : v.asText? = some s) : parse v = .ok k ↔ ofText? s = some k := by
  have hkey : ∀ l, v ≠ .key l := by
    rintro l rfl
    simp [Value.asText?] at hs
  unfold parse
  split
  · next l => exact absurd rfl (hkey l)
  · rw [hs]
    dsimp only
    cases ofText? s <;> simp

/-! ### Expressions -/

/-- What a key brings into its expression: the name of its column, or its components with commas
between them. -/
def spliced : FieldKey → String
  | column c => c
  | timestamp c => c
  | path components => String.intercalate "," components
  | relations => ""
  | all => "*"

/-- What may stand around it, in front and behind. -/
def frames (procedures : Procedures) (e : Entity) : List (String × String) :=
  [("", ""), ("extract(epoch from ", ")*1000"), ("(" ++ e.container ++ " -> '", "'::text)"),
    ("(" ++ e.container ++ " #> '\x7b", "\x7d')"),
    (procedures.relations ++ "(row_to_json(" ++ e.table ++ ".*), $::json)", "")]

/-- The expression of a key is what it brings, in one of the frames. -/
theorem resolve_spliced {procedures : Procedures} {e : Entity} {epoch : Bool} {documents : Value}
    {p : Predicate} (h : k.resolve procedures e epoch documents = .ok p) :
    ∃ frame ∈ frames procedures e, p.text = Sql.renumber (frame.1 ++ k.spliced ++ frame.2) 0 := by
  have of_make : ∀ {text : String} {params : List Value} {origin : Members},
      Predicate.make text params origin = .ok p → ∀ frame ∈ frames procedures e,
      text = frame.1 ++ k.spliced ++ frame.2 → ∃ frame ∈ frames procedures e,
        p.text = Sql.renumber (frame.1 ++ k.spliced ++ frame.2) 0 := by
    intro text params origin hmake frame hframe htext
    obtain ⟨-, rfl⟩ := Predicate.make_eq_ok_iff.1 hmake
    exact ⟨frame, hframe, by rw [htext]⟩
  by_cases hrel : k = .relations
  · subst hrel
    obtain ⟨text, hmake⟩ := exists_text_of_resolve_relations h
    exact of_make hmake (procedures.relations ++ "(row_to_json(" ++ e.table ++ ".*), $::json)", "")
      (by simp [frames]) (by simp [spliced])
  · obtain ⟨text, origin, hdenotes, hmake⟩ := exists_denotes (resolve_of_ne hrel ▸ h)
    have hplain : ("", "") ∈ frames procedures e := by simp [frames]
    cases hdenotes with
    | path components =>
      unfold navigate at hmake
      split at hmake
      · exact of_make hmake ("(" ++ e.container ++ " -> '", "'::text)") (by simp [frames])
          (by simp [spliced, Access.member, String.append_assoc])
      · exact of_make hmake ("(" ++ e.container ++ " #> '\x7b", "\x7d')") (by simp [frames])
          (by simp [spliced, Access.path, String.append_assoc])
    | relations => exact absurd rfl hrel
    | all => exact of_make hmake _ hplain (by simp [spliced])
    | column => exact of_make hmake _ hplain (by simp [spliced])
    | timestamp => exact of_make hmake _ hplain (by simp [spliced])
    | milliseconds =>
      exact of_make hmake ("extract(epoch from ", ")*1000") (by simp [frames])
        (by simp [spliced, String.append_assoc])

/-- It consists of characters of the text that the key is read from, and of commas. -/
lemma mem_spliced (h : ofText? s = some k) {c : Char} (hc : c ∈ k.spliced.toList) :
    c ∈ s.toList ∨ c = ',' := by
  have hname := name_of_ofText? h
  cases k with
  | column w =>
    left
    rw [← hname]
    have hw : c ∈ w.toList := hc
    simp [FieldKey.name, hw]
  | timestamp w =>
    left
    rw [← hname]
    have hw : c ∈ w.toList := hc
    simp [FieldKey.name, hw]
  | path components =>
    obtain ⟨t, -, rfl⟩ := isPath_of_isRead ⟨s, h⟩
    obtain rfl : t = s := by rw [← hname]; exact (Text.joined_split '.' t).symm
    by_contra hne
    obtain ⟨hmem, hcomma⟩ := not_or.1 hne
    refine not_mem_intercalate hcomma (fun part hpart hpartc => hmem ?_) hc
    obtain ⟨cs, hcs, rfl⟩ := List.mem_map.1 hpart
    exact Text.mem_of_mem_splitAll hcs c (by simpa using hpartc)
  | relations => simp [spliced] at hc
  | all =>
    left
    rw [← hname]
    simpa [FieldKey.name, spliced] using Or.inr hc

/-! ### The outcome of parsing -/

/-- The key is written as a text, and brings nothing but characters of the text and commas into
the expressions of entities. -/
structure IsSpelledBy (k : FieldKey) (s : String) : Prop where
  name : k.name = s
  spliced : ∀ c ∈ k.spliced.toList, c ∈ s.toList ∨ c = ','
  text : ∀ procedures e epoch documents p, k.resolve procedures e epoch documents = .ok p →
    ∃ frame ∈ frames procedures e, p.text = Sql.renumber (frame.1 ++ k.spliced ++ frame.2) 0

/-- The outcome is an error of a malformed key. -/
def IsRefusal (r : Result FieldKey) : Prop := ∃ err, r = .error err ∧ err.kind? = some .key

/-- The outcome is the one that the grammar demands: a parsed key is kept, a text of the grammar
names the key that it spells, and everything else is refused. -/
def Follows (v : Value) (r : Result FieldKey) : Prop :=
  match v, v.asText? with
  | .key k, _ => r = .ok k
  | _, none => IsRefusal r
  | _, some s => IsKeyText s.toList ∧ (∀ c ∈ s.toList, IsKeyChar c) ∧
        (∃ k, r = .ok k ∧ k.IsSpelledBy s) ∨
      ¬ IsKeyText s.toList ∧ IsRefusal r

/-- The value is the text of a key of one column or property with a line end behind it. -/
def HasLineEnd (v : Value) : Prop := ∃ s, v.asText? = some s ∧ IsKeyLine s.toList

lemma isSpelledBy_of_ofText? (h : ofText? s = some k) : k.IsSpelledBy s :=
  ⟨name_of_ofText? h, fun _ => mem_spliced h, fun _ _ _ _ _ => resolve_spliced⟩

lemma isRefusal_of_forall_ne (h : ∀ k, parse v ≠ .ok k) : IsRefusal (parse v) := by
  cases hparse : parse v with
  | ok k => exact absurd hparse (h k)
  | error err => exact ⟨err, rfl, parse_error_kind hparse⟩

lemma follows_text_iff (hs : v.asText? = some s) (r : Result FieldKey) :
    Follows v r ↔ IsKeyText s.toList ∧ (∀ c ∈ s.toList, IsKeyChar c) ∧
        (∃ k, r = .ok k ∧ k.IsSpelledBy s) ∨
      ¬ IsKeyText s.toList ∧ IsRefusal r := by
  unfold Follows
  split
  · simp [Value.asText?] at hs
  · next hnone => simp [hnone] at hs
  · next t _ ht =>
    obtain rfl : t = s := by simpa [ht] using hs
    rfl

/-- Parsing follows the grammar on every value that is not the text of a key with a line end behind
it.  Such a text is accepted, too, as a key that the text with its line end spells. -/
theorem parse_follows_iff (v : Value) :
    (Follows v (parse v) ↔ ¬ HasLineEnd v) ∧
      (HasLineEnd v → ∃ s k, v.asText? = some s ∧ parse v = .ok k ∧ k.IsSpelledBy s) := by
  cases hs : v.asText? with
  | none =>
    have hline : ¬ HasLineEnd v := by
      rintro ⟨s, hs', -⟩
      simp [hs] at hs'
    refine ⟨iff_of_true ?_ hline, fun h => absurd h hline⟩
    unfold Follows
    split
    · rfl
    · next hkey _ =>
      refine isRefusal_of_forall_ne fun k hk => ?_
      unfold parse at hk
      split at hk
      · exact hkey _ rfl
      · simp [hs] at hk
    · next hs' => simp [hs] at hs'
  | some s =>
    have hline : HasLineEnd v ↔ IsKeyLine s.toList := by simp [HasLineEnd, hs]
    have haccepted : (∃ k, parse v = .ok k) ↔ IsKeyText s.toList ∨ IsKeyLine s.toList := by
      simp only [parse_eq_ok_iff hs, exists_ofText?_iff]
    rw [follows_text_iff hs, hline]
    refine ⟨⟨?_, fun hno => ?_⟩, fun h => ?_⟩
    · rintro (⟨hkey, -⟩ | ⟨-, err, herr, -⟩) h
      · exact h.not_isKeyText hkey
      · obtain ⟨k, hk⟩ := haccepted.2 (Or.inr h)
        simp [hk] at herr
    · by_cases hkey : IsKeyText s.toList
      · obtain ⟨k, hk⟩ := haccepted.2 (Or.inl hkey)
        exact Or.inl ⟨hkey, hkey.isKeyChar, k, hk,
          isSpelledBy_of_ofText? ((parse_eq_ok_iff hs).1 hk)⟩
      · refine Or.inr ⟨hkey, isRefusal_of_forall_ne fun k hk => ?_⟩
        exact (haccepted.1 ⟨k, hk⟩).elim hkey hno
    · obtain ⟨k, hk⟩ := haccepted.2 (Or.inr h)
      exact ⟨s, k, rfl, hk, isSpelledBy_of_ofText? ((parse_eq_ok_iff hs).1 hk)⟩

/-- A name and a column with a line end are accepted, although they are no keys, and the line end
stands in the expression. -/
theorem lineEnd_accepted :
    ¬ IsKeyText "name\n".toList ∧ parse (.text "name\n") = .ok (.path ["name\n"]) ∧
      ¬ IsKeyText "$id\n".toList ∧ parse (.text "$id\n") = .ok (.column "id\n") ∧
      ¬ Follows (.text "name\n") (parse (.text "name\n")) ∧
      ∃ p, (FieldKey.path ["name\n"]).resolve .standard .document false .null = .ok p ∧
        p.text = "(content -> 'name\n'::text)" := by
  have hno : ∀ {s : String}, '\n' ∈ s.toList → ¬ IsKeyText s.toList := fun hmem hkey =>
    hkey.no_lineEnd hmem
  have hname : parse (.text "name\n") = .ok (.path ["name\n"]) := rfl
  have hread : (FieldKey.path ["name\n"]).IsRead := isRead_of_parse (by simp) hname
  obtain ⟨origin, hp⟩ := resolve_navigate (e := .document) (by decide) hread .standard false .null
  refine ⟨hno (by decide), hname, hno (by decide), rfl, ?_, _, hp, rfl⟩
  rintro (⟨hkey, -⟩ | ⟨-, err, herr, -⟩)
  · exact hno (by decide) hkey
  · simp [hname] at herr

end

end FieldKey

end DocumentSql

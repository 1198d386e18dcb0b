/-
Relation expressions are exactly their grammar.

An expression is rendered by its tokens, with blanks between them (`Spaced`).  Every part of the
parser reads tokens (`Reads`): it reads those of what it returns, so that a text which is read is a
rendering (`ofChars?_sound`), and it reads as far as it can, so that a rendering is read as the
expression that it renders (`ofChars?_complete`).  In both directions a word ends where the next
token or a blank stands, and no character of those continues a word.

The fields are keys of the grammar of keys that the entity can resolve.  So the relation of an
entity is read from exactly the renderings, and all other texts are refused as malformed keys
(`parse_follows_grammar`).
-/
import DocumentSql.Proofs.Index.Spec
import DocumentSql.Proofs.Key.Grammar
import DocumentSql.Proofs.Text.Digit

namespace DocumentSql

/-! ### Renderings -/

namespace RelationExpression

/-- All characters are blanks between tokens. -/
def AllBlank (cs : List Char) : Prop := ∀ c ∈ cs, isBlank c = true

/-- A text is tokens with blanks in front of each. -/
inductive Spaced : List (List Char) → List Char → Prop where
  /-- No token. -/
  | nil : Spaced [] []
  /-- One more token. -/
  | cons (blanks token : List Char) {rest : List Char} {tokens : List (List Char)}
      (hblanks : AllBlank blanks) (hrest : Spaced tokens rest) :
      Spaced (token :: tokens) (blanks ++ token ++ rest)

/-- The tokens of more fields. -/
def moreFieldTokens (fields : List String) : List (List Char) :=
  fields.flatMap fun field => [[','], field.toList]

/-- The tokens of fields. -/
def fieldTokens : List String → List (List Char)
  | [] => [['|']]
  | field :: fields => ['|'] :: field.toList :: moreFieldTokens fields

/-- The token of a property: the dollar sign of a column belongs to it. -/
def propertyToken (isColumn : Bool) (w : String) : List Char :=
  if isColumn then '$' :: w.toList else w.toList

/-- The tokens behind the property: the braces of a filter belong to it. -/
def tailTokens (x : RelationExpression) : List (List Char) :=
  (x.filter.elim [] fun f => [f.toList]) ++ x.fields.elim [] fieldTokens

/-- The tokens of an expression. -/
def tokens (x : RelationExpression) : List (List Char) :=
  (x.typeName.elim [] fun t => [t.toList, ['#']]) ++
    propertyToken x.isColumn x.property :: x.tailTokens

/-- The text is the tokens of an expression, with blanks between them. -/
def IsRendering (x : RelationExpression) (cs : List Char) : Prop :=
  ∃ token tokens rest, x.tokens = token :: tokens ∧ Spaced tokens rest ∧ cs = token ++ rest

/-- A word is one or more characters of its kind. -/
def IsWord (p : Char → Bool) (s : String) : Prop := s ≠ "" ∧ ∀ c ∈ s.toList, p c = true

/-- A filter is braces around one or more characters other than braces. -/
def IsFilter (f : String) : Prop := ∃ content, IsWord isFilterChar content ∧
  f = "\x7b" ++ content ++ "\x7d"

/-- All parts of an expression are of their kinds, its fields just words. -/
structure IsLexical (x : RelationExpression) : Prop where
  typeName : ∀ t ∈ x.typeName, IsWord isTypeChar t
  property : IsWord isPropertyChar x.property
  filter : ∀ f ∈ x.filter, IsFilter f
  fields : ∀ fs ∈ x.fields, fs ≠ [] ∧ ∀ w ∈ fs, IsWord isFieldChar w

section

variable {p : Char → Bool} {as bs cs ds es rest token : List Char} {ts us : List (List Char)}
  {w : String} {x : RelationExpression} {c : Char}

/-! ### Characters -/

lemma isFieldChar_of_isPropertyChar (h : isPropertyChar c = true) : isFieldChar c = true := by
  simp [isFieldChar, h]

lemma isPropertyChar_of_isTypeChar (h : isTypeChar c = true) : isPropertyChar c = true := by
  simp [isPropertyChar, h]

lemma isBlank_iff : isBlank c = true ↔ c ∈ [' ', '\t', '\r', '\n'] := by
  simp [isBlank, or_assoc]

/-- What is a blank between tokens is one at the ends of a text, too. -/
lemma isBlank_text (h : isBlank c = true) : Text.isBlank c = true := by
  simp only [isBlank_iff, List.mem_cons, List.not_mem_nil, or_false] at h
  rcases h with rfl | rfl | rfl | rfl <;> decide

/-- The visible characters of ASCII are no blanks. -/
lemma isBlank_text_of_visible (hlow : 0x20 < c.toNat) (hhigh : c.toNat < 0x7f) :
    Text.isBlank c = false := by
  simp only [Text.isBlank, Text.within, Text.blankRanges, List.any_cons, List.any_nil,
    Bool.or_false, Bool.or_eq_false_iff, Bool.and_eq_false_iff, decide_eq_false_iff_not]
  omega

lemma isBlank_text_of_isFieldChar (h : isFieldChar c = true) : Text.isBlank c = false := by
  have hvisible : 0x20 < c.toNat ∧ c.toNat < 0x7f := by
    simp only [isFieldChar, isPropertyChar, isTypeChar, Bool.or_eq_true, beq_iff_eq] at h
    rcases h with ((((halnum | rfl) | rfl) | rfl) | rfl) | rfl
    · simp only [Char.isAlphanum, Char.isAlpha, Char.isUpper, Char.isLower, Char.isDigit,
        Bool.or_eq_true, Bool.and_eq_true, decide_eq_true_eq, ge_iff_le,
        UInt32.le_iff_toNat_le] at halnum
      have hval : c.val.toNat = c.toNat := rfl
      simp at halnum
      omega
    all_goals decide
  exact isBlank_text_of_visible hvisible.1 hvisible.2

lemma isFieldChar_of_isBlank (h : isBlank c = true) : isFieldChar c = false := by
  by_contra hchar
  rw [Bool.not_eq_false] at hchar
  simpa [isBlank_text h] using isBlank_text_of_isFieldChar hchar

/-! ### Blanks and tokens -/

lemma allBlank_takeWhile (cs : List Char) : AllBlank (cs.takeWhile isBlank) :=
  fun _ h => List.mem_takeWhile_imp h

lemma takeWhile_append_skipBlanks (cs : List Char) :
    cs.takeWhile isBlank ++ skipBlanks cs = cs := List.takeWhile_append_dropWhile

lemma allBlank_nil : AllBlank [] := by simp [AllBlank]

lemma skipBlanks_append (has : AllBlank as) (hbs : ∀ c ∈ bs.head?, isBlank c = false) :
    skipBlanks (as ++ bs) = bs := Text.dropWhile_append_of_head has hbs

lemma skipBlanks_eq_self (h : ∀ c ∈ cs.head?, isBlank c = false) : skipBlanks cs = cs :=
  skipBlanks_append allBlank_nil h

lemma Spaced.append (h : Spaced ts ds) (h' : Spaced us es) : Spaced (ts ++ us) (ds ++ es) := by
  induction h with
  | nil => exact h'
  | cons _ _ hblanks _ ih =>
    rw [List.append_assoc]
    exact .cons _ _ hblanks ih

lemma Spaced.single (hblanks : AllBlank as) : Spaced [token] (as ++ token) := by
  simpa using Spaced.cons as token hblanks .nil

/-- A token that is not empty and neither starts nor ends with a blank. -/
structure IsSolid (token : List Char) : Prop where
  ne_nil : token ≠ []
  stripped : Text.Stripped token

lemma IsSolid.head (h : IsSolid token) : ∀ c ∈ token.head?, isBlank c = false := by
  intro c hc
  by_contra hblank
  have htext := isBlank_text (c := c) (by simpa using hblank)
  simp [h.stripped.1 c hc] at htext

lemma isSolid_of_forall (hne : as ≠ []) (h : ∀ c ∈ as, Text.isBlank c = false) : IsSolid as :=
  ⟨hne, fun c hc => h c (List.mem_of_mem_head? hc), fun c hc => h c (List.mem_of_getLast? hc)⟩

lemma isSolid_mark (h : Text.isBlank c = false) : IsSolid [c] :=
  isSolid_of_forall (by simp) (by simpa using h)

lemma IsWord.ne_nil (h : IsWord p w) : w.toList ≠ [] := by simpa using h.1

lemma IsWord.isSolid (h : IsWord p w) (hp : ∀ c, p c = true → isFieldChar c = true) :
    IsSolid w.toList :=
  isSolid_of_forall h.ne_nil fun c hc => isBlank_text_of_isFieldChar (hp c (h.2 c hc))

/-- The first token starts with no character of a kind. -/
def Ends (p : Char → Bool) (ts : List (List Char)) : Prop :=
  ∀ t ∈ ts.head?, ∀ c ∈ t.head?, p c = false

/-- A text starts with a blank or with its first token. -/
lemma Spaced.head (h : Spaced ts cs) (hsolid : ∀ t ∈ ts, IsSolid t)
    (hp : ∀ c, isBlank c = true → p c = false) (hends : Ends p ts) :
    ∀ c ∈ cs.head?, p c = false := by
  intro c hc
  cases h with
  | nil => simp at hc
  | cons blanks token hblanks hrest =>
    have hne := (hsolid token (by simp)).ne_nil
    cases blanks with
    | nil =>
      rw [List.nil_append, List.head?_append_of_ne_nil _ hne] at hc
      exact hends token rfl c hc
    | cons b blanks =>
      obtain rfl : b = c := by simpa using hc
      exact hp b (hblanks b (by simp))

lemma Spaced.skip (h : Spaced (token :: ts) cs) (hsolid : IsSolid token) :
    ∃ rest, skipBlanks cs = token ++ rest ∧ Spaced ts rest := by
  cases h with
  | @cons blanks _ rest _ hblanks hrest =>
    refine ⟨rest, ?_, hrest⟩
    rw [List.append_assoc]
    refine skipBlanks_append hblanks ?_
    rw [List.head?_append_of_ne_nil _ hsolid.ne_nil]
    exact hsolid.head

/-- A text of solid tokens ends like the last of them. -/
lemma Spaced.last (h : Spaced ts cs) (hsolid : ∀ t ∈ ts, IsSolid t)
    (has : ∀ c ∈ as.getLast?, Text.isBlank c = false) :
    ∀ c ∈ (as ++ cs).getLast?, Text.isBlank c = false := by
  induction h generalizing as with
  | nil => simpa using has
  | @cons blanks token rest ts _ _ ih =>
    have htoken := hsolid token (by simp)
    have hlast : (as ++ blanks ++ token).getLast? = token.getLast? :=
      List.getLast?_append_of_ne_nil _ htoken.ne_nil
    have hmore : ∀ c ∈ ((as ++ blanks ++ token) ++ rest).getLast?, Text.isBlank c = false :=
      ih (fun t ht => hsolid t (by simp [ht])) (by rw [hlast]; exact htoken.stripped.2)
    simpa using hmore

lemma Spaced.mem (h : Spaced ts cs) (htoken : token ∈ ts) (hc : c ∈ token) : c ∈ cs := by
  induction h with
  | nil => simp at htoken
  | cons _ _ _ _ ih =>
    rcases List.mem_cons.1 htoken with rfl | htoken
    · simp [hc]
    · simp [ih htoken]

/-- A rendering of solid tokens has no blank at its ends. -/
lemma IsRendering.stripped (h : x.IsRendering cs) (hsolid : ∀ t ∈ x.tokens, IsSolid t) :
    Text.Stripped cs := by
  obtain ⟨token, ts, rest, htokens, hrest, rfl⟩ := h
  rw [htokens] at hsolid
  have htoken := hsolid token (by simp)
  refine ⟨?_, hrest.last (fun t ht => hsolid t (by simp [ht])) htoken.stripped.2⟩
  rw [List.head?_append_of_ne_nil _ htoken.ne_nil]
  exact htoken.stripped.1

lemma IsRendering.spaced (h : x.IsRendering cs) : Spaced x.tokens cs := by
  obtain ⟨token, ts, rest, htokens, hrest, rfl⟩ := h
  rw [htokens]
  exact .cons [] token allBlank_nil hrest

/-! ### Tabs -/

lemma expandTabs_append (as bs : List Char) (column : ℕ) :
    ∃ column', expandTabs column (as ++ bs) = expandTabs column as ++ expandTabs column' bs := by
  induction as generalizing column with
  | nil => exact ⟨column, rfl⟩
  | cons a as ih =>
    rw [List.cons_append, expandTabs, expandTabs]
    split
    · obtain ⟨column', h⟩ := ih (column + (8 - column % 8))
      exact ⟨column', by rw [h, List.append_assoc]⟩
    · split
      · obtain ⟨column', h⟩ := ih 0
        exact ⟨column', by rw [h, List.cons_append]⟩
      · obtain ⟨column', h⟩ := ih (column + 1)
        exact ⟨column', by rw [h, List.cons_append]⟩

lemma expandTabs_eq_self (h : '\t' ∉ cs) (column : ℕ) : expandTabs column cs = cs := by
  induction cs generalizing column with
  | nil => rfl
  | cons c cs ih =>
    obtain ⟨hc, hcs⟩ : '\t' ≠ c ∧ '\t' ∉ cs := by simpa using h
    simp [expandTabs, hc.symm, ih hcs]

lemma AllBlank.expandTabs (h : AllBlank cs) (column : ℕ) :
    AllBlank (expandTabs column cs) := by
  induction cs generalizing column with
  | nil => exact h
  | cons c cs ih =>
    have hcs : AllBlank cs := fun d hd => h d (by simp [hd])
    intro d hd
    rw [RelationExpression.expandTabs] at hd
    split at hd
    · rcases List.mem_append.1 hd with hd | hd
      · obtain rfl := List.eq_of_mem_replicate hd
        rfl
      · exact ih hcs _ d hd
    · have hsplit : d = c ∨ ∃ column', d ∈ RelationExpression.expandTabs column' cs := by
        split at hd <;> rcases List.mem_cons.1 hd with hd | hd
        all_goals first | exact Or.inl hd | exact Or.inr ⟨_, hd⟩
      rcases hsplit with rfl | ⟨column', hd⟩
      · exact h d (by simp)
      · exact ih hcs _ d hd

/-- Tabs between the tokens become blanks between them. -/
lemma Spaced.expandTabs (h : Spaced ts cs) (htab : ∀ t ∈ ts, '\t' ∉ t) (column : ℕ) :
    Spaced ts (expandTabs column cs) := by
  induction h generalizing column with
  | nil => exact .nil
  | @cons blanks token rest ts hblanks _ ih =>
    rw [List.append_assoc]
    obtain ⟨column₁, h₁⟩ := expandTabs_append blanks (token ++ rest) column
    obtain ⟨column₂, h₂⟩ := expandTabs_append token rest column₁
    rw [h₁, h₂, expandTabs_eq_self (htab token (by simp)), ← List.append_assoc]
    exact .cons _ _ (hblanks.expandTabs column) (ih (fun t ht => htab t (by simp [ht])) column₂)

/-! ### What is read -/

/-- What stands in front of the rest of a text is tokens. -/
def Reads (ts : List (List Char)) (cs rest : List Char) : Prop :=
  ∃ ds, Spaced ts ds ∧ cs = ds ++ rest

lemma Reads.none : Reads [] cs cs := ⟨[], .nil, rfl⟩

lemma Reads.trans (h : Reads ts cs ds) (h' : Reads us ds rest) : Reads (ts ++ us) cs rest := by
  obtain ⟨as, has, rfl⟩ := h
  obtain ⟨bs, hbs, rfl⟩ := h'
  exact ⟨as ++ bs, has.append hbs, by simp⟩

lemma reads_of_skipBlanks (h : skipBlanks cs = token ++ rest) : Reads [token] cs rest := by
  refine ⟨cs.takeWhile isBlank ++ token, .single (allBlank_takeWhile cs), ?_⟩
  rw [List.append_assoc, ← h, takeWhile_append_skipBlanks]

/-- A word is the longest one at the start of the text. -/
lemma word?_eq_some (h : word? p cs = some (w, rest)) : IsWord p w ∧ cs = w.toList ++ rest := by
  unfold word? at h
  split at h
  · simp at h
  · next u hu =>
    obtain ⟨rfl, rfl⟩ : String.ofList (cs.takeWhile p) = w ∧ cs.dropWhile p = rest := by
      simpa using h
    refine ⟨⟨?_, ?_⟩, ?_⟩
    · simpa [← String.toList_inj] using hu
    · intro c hc
      exact List.mem_takeWhile_imp (by simpa using hc)
    · simp

lemma mark?_eq_some (h : mark? c cs = some rest) : cs = c :: rest := by
  cases cs with
  | nil => simp [mark?] at h
  | cons d ds =>
    obtain ⟨rfl, rfl⟩ : d = c ∧ ds = rest := by simpa [mark?] using h
    rfl

lemma reads_of_mark? (h : mark? c (skipBlanks cs) = some rest) : Reads [[c]] cs rest :=
  reads_of_skipBlanks (mark?_eq_some h)

lemma reads_of_word? (h : word? p (skipBlanks cs) = some (w, rest)) :
    IsWord p w ∧ Reads [w.toList] cs rest :=
  ⟨(word?_eq_some h).1, reads_of_skipBlanks (word?_eq_some h).2⟩

lemma reads_typeName? (h : typeName? cs = some (w, rest)) :
    IsWord isTypeChar w ∧ Reads [w.toList, ['#']] cs rest := by
  simp only [typeName?, Option.bind_eq_bind, Option.bind_eq_some_iff] at h
  obtain ⟨⟨name, as⟩, hname, bs, hmark, h⟩ := h
  obtain ⟨rfl, rfl⟩ : name = w ∧ bs = rest := by simpa using h
  obtain ⟨hword, hreads⟩ := reads_of_word? hname
  exact ⟨hword, hreads.trans (reads_of_mark? hmark)⟩

lemma reads_property? {isColumn : Bool} (h : property? cs = some (isColumn, w, rest)) :
    IsWord isPropertyChar w ∧
      Reads [propertyToken isColumn w] cs rest := by
  unfold property? at h
  dsimp only at h
  split at h
  · next as hmark =>
    obtain ⟨⟨name, bs⟩, hname, h⟩ := Option.map_eq_some_iff.1 h
    obtain ⟨rfl, rfl, rfl⟩ : true = isColumn ∧ name = w ∧ bs = rest := by simpa using h
    obtain ⟨hword, rfl⟩ := word?_eq_some hname
    exact ⟨hword, reads_of_skipBlanks (mark?_eq_some hmark)⟩
  · obtain ⟨⟨name, bs⟩, hname, h⟩ := Option.map_eq_some_iff.1 h
    obtain ⟨rfl, rfl, rfl⟩ : false = isColumn ∧ name = w ∧ bs = rest := by simpa using h
    exact reads_of_word? hname

lemma reads_filter? (h : filter? cs = some (w, rest)) : IsFilter w ∧ Reads [w.toList] cs rest := by
  simp only [filter?, Option.bind_eq_bind, Option.bind_eq_some_iff] at h
  obtain ⟨as, hopen, ⟨content, bs⟩, hcontent, ds, hclose, h⟩ := h
  obtain ⟨rfl, rfl⟩ : "\x7b" ++ content ++ "\x7d" = w ∧ ds = rest := by simpa using h
  obtain ⟨hword, rfl⟩ := word?_eq_some hcontent
  refine ⟨⟨content, hword, rfl⟩, reads_of_skipBlanks ?_⟩
  obtain rfl : bs = '\x7d' :: ds := mark?_eq_some hclose
  rw [mark?_eq_some hopen]
  simp

lemma reads_noFields {fields : List String} (h : ([], cs) = (fields, rest)) :
    (∀ w ∈ fields, IsWord isFieldChar w) ∧ Reads (moreFieldTokens fields) cs rest := by
  obtain ⟨rfl, rfl⟩ := Prod.mk.inj h
  exact ⟨by simp, .none⟩

lemma reads_moreFields {fuel : ℕ} {fields : List String}
    (h : moreFields fuel cs = (fields, rest)) :
    (∀ w ∈ fields, IsWord isFieldChar w) ∧ Reads (moreFieldTokens fields) cs rest := by
  induction fuel generalizing cs fields with
  | zero => exact reads_noFields h
  | succ fuel ih =>
    rw [moreFields] at h
    split at h
    · exact reads_noFields h
    · next as hmark =>
      split at h
      · exact reads_noFields h
      · next field bs hfield =>
        obtain ⟨rfl, rfl⟩ : field :: (moreFields fuel bs).1 = fields ∧
            (moreFields fuel bs).2 = rest := by simpa using h
        obtain ⟨hword, hreads⟩ := reads_of_word? hfield
        obtain ⟨hwords, hmore⟩ := @ih bs _ rfl
        exact ⟨List.forall_mem_cons.2 ⟨hword, hwords⟩,
          (reads_of_mark? hmark).trans (hreads.trans hmore)⟩

lemma reads_fields? {fields : List String} (h : fields? cs = some (fields, rest)) :
    (fields ≠ [] ∧ ∀ w ∈ fields, IsWord isFieldChar w) ∧ Reads (fieldTokens fields) cs rest := by
  simp only [fields?, Option.bind_eq_bind, Option.bind_eq_some_iff] at h
  obtain ⟨as, hmark, ⟨field, bs⟩, hfield, h⟩ := h
  obtain ⟨rfl, rfl⟩ : field :: (moreFields bs.length bs).1 = fields ∧
      (moreFields bs.length bs).2 = rest := by simpa using h
  obtain ⟨hword, hreads⟩ := reads_of_word? hfield
  obtain ⟨hwords, hmore⟩ := reads_moreFields (Prod.mk.eta (p := moreFields bs.length bs)).symm
  exact ⟨⟨by simp, List.forall_mem_cons.2 ⟨hword, hwords⟩⟩,
    (reads_of_mark? hmark).trans (hreads.trans hmore)⟩

/-- A part that may be left out is read, or nothing is. -/
lemma reads_optional {α : Type} {part : List Char → Option (α × List Char)} {P : α → Prop}
    {partTokens : α → List (List Char)} {o : Option α}
    (hpart : ∀ a, part cs = some (a, rest) → P a ∧ Reads (partTokens a) cs rest)
    (h : optional part cs = (o, rest)) :
    (∀ a ∈ o, P a) ∧ Reads (o.elim [] partTokens) cs rest := by
  unfold optional at h
  split at h
  · next a as ha =>
    obtain ⟨rfl, rfl⟩ : some a = o ∧ as = rest := by simpa using h
    obtain ⟨hP, hreads⟩ := hpart a ha
    exact ⟨by simpa using hP, hreads⟩
  · obtain ⟨rfl, rfl⟩ : none = o ∧ cs = rest := by simpa using h
    exact ⟨by simp, .none⟩

/-- The tokens of an expression that is read stand in the text, with nothing but blanks behind
them. -/
theorem ofChars?_sound (h : ofChars? cs = some x) :
    x.IsLexical ∧ ∃ rest, Reads x.tokens cs rest ∧ AllBlank rest := by
  simp only [ofChars?, Option.bind_eq_bind, Option.bind_eq_some_iff] at h
  obtain ⟨⟨isColumn, property, rest₂⟩, hproperty, h⟩ := h
  split at h
  · next hend =>
    obtain rfl := Option.some.inj h
    obtain ⟨htype, hreads₁⟩ := reads_optional (fun _ => reads_typeName?)
      (Prod.mk.eta (p := optional typeName? cs)).symm
    obtain ⟨hword, hreads₂⟩ := reads_property? hproperty
    obtain ⟨hfilter, hreads₃⟩ := reads_optional (fun _ => reads_filter?)
      (Prod.mk.eta (p := optional filter? rest₂)).symm
    obtain ⟨hfields, hreads₄⟩ := reads_optional (fun _ => reads_fields?)
      (Prod.mk.eta (p := optional fields? (optional filter? rest₂).2)).symm
    refine ⟨⟨htype, hword, hfilter, hfields⟩, _,
      hreads₁.trans (hreads₂.trans (hreads₃.trans hreads₄)), ?_⟩
    simpa [skipBlanks, AllBlank] using hend
  · simp at h

/-- A stripped text that is read is a rendering. -/
theorem isRendering_of_ofChars? (hstrip : Text.Stripped cs) (h : ofChars? cs = some x) :
    x.IsRendering cs := by
  obtain ⟨-, rest, ⟨ds, hspaced, rfl⟩, hrest⟩ := ofChars?_sound h
  obtain rfl : rest = [] := by
    by_contra hne
    obtain ⟨c, hc⟩ : ∃ c, c ∈ rest.getLast? := by
      cases hlast : rest.getLast? with
      | none => exact absurd (List.getLast?_eq_none_iff.1 hlast) hne
      | some c => exact ⟨c, rfl⟩
    have hblank := isBlank_text (hrest c (List.mem_of_getLast? hc))
    have htext := hstrip.2 c (by rwa [List.getLast?_append_of_ne_nil _ hne])
    simp [hblank] at htext
  rw [List.append_nil] at hstrip ⊢
  generalize htokens : x.tokens = tokens at hspaced
  cases hspaced with
  | nil => simp [tokens] at htokens
  | @cons blanks token rest ts hblanks hrest =>
    obtain rfl : blanks = [] := by
      cases blanks with
      | nil => rfl
      | cons b blanks =>
        have hblank := isBlank_text (hblanks b (by simp))
        have htext := hstrip.1 b (by simp)
        simp [hblank] at htext
    exact ⟨token, ts, rest, htokens, hrest, rfl⟩

/-! ### Tokens of expressions -/

section

variable {P : List Char → Prop}

lemma forall_mem_moreFieldTokens {fields : List String} (hcomma : P [','])
    (h : ∀ w ∈ fields, P w.toList) : ∀ t ∈ moreFieldTokens fields, P t := by
  intro t ht
  obtain ⟨w, hw, ht⟩ := List.mem_flatMap.1 ht
  obtain rfl | rfl : t = [','] ∨ t = w.toList := by simpa using ht
  · exact hcomma
  · exact h w hw

lemma forall_mem_fieldTokens {fields : List String} (hbar : P ['|']) (hcomma : P [','])
    (h : ∀ w ∈ fields, P w.toList) : ∀ t ∈ fieldTokens fields, P t := by
  cases fields with
  | nil => simpa [fieldTokens] using hbar
  | cons w fields =>
    obtain ⟨hw, hws⟩ := List.forall_mem_cons.1 h
    exact List.forall_mem_cons.2 ⟨hbar, List.forall_mem_cons.2
      ⟨hw, forall_mem_moreFieldTokens hcomma hws⟩⟩

/-- What holds of the marks and of the parts of an expression holds of its tokens. -/
lemma forall_mem_tokens (hhash : P ['#']) (hbar : P ['|']) (hcomma : P [','])
    (htype : ∀ t ∈ x.typeName, P t.toList) (hproperty : P (propertyToken x.isColumn x.property))
    (hfilter : ∀ f ∈ x.filter, P f.toList) (hfields : ∀ fs ∈ x.fields, ∀ w ∈ fs, P w.toList) :
    ∀ t ∈ x.tokens, P t := by
  intro t ht
  simp only [tokens, tailTokens, List.mem_append, List.mem_cons] at ht
  rcases ht with ht | rfl | ht | ht
  · cases hx : x.typeName with
    | none => simp [hx] at ht
    | some name =>
      obtain rfl | rfl : t = name.toList ∨ t = ['#'] := by simpa [hx] using ht
      · exact htype name hx
      · exact hhash
  · exact hproperty
  · cases hx : x.filter with
    | none => simp [hx] at ht
    | some f =>
      obtain rfl : t = f.toList := by simpa [hx] using ht
      exact hfilter f hx
  · cases hx : x.fields with
    | none => simp [hx] at ht
    | some fs =>
      exact forall_mem_fieldTokens hbar hcomma (hfields fs hx) t (by simpa [hx] using ht)

end

/-! ### What is read of renderings -/

/-- No blank is a character of the kind. -/
def NoBlank (p : Char → Bool) : Prop := ∀ c, isBlank c = true → p c = false

lemma noBlank_of_imp (hp : ∀ c, p c = true → isFieldChar c = true) : NoBlank p := by
  intro c hblank
  by_contra hchar
  simpa [isFieldChar_of_isBlank hblank] using hp c (by simpa using hchar)

lemma word?_append (hw : IsWord p w) (hrest : ∀ c ∈ rest.head?, p c = false) :
    word? p (w.toList ++ rest) = some (w, rest) := by
  have htake : (w.toList ++ rest).takeWhile p = w.toList :=
    Text.takeWhile_append_of_head hw.2 hrest
  unfold word?
  split
  · next hnil => exact absurd (htake.symm.trans hnil) hw.ne_nil
  · rw [htake, Text.dropWhile_append_of_head hw.2 hrest, String.ofList_toList]

/-- A word is read up to the next token. -/
lemma word?_of_spaced (h : Spaced (w.toList :: ts) cs) (hw : IsWord p w)
    (hp : ∀ c, p c = true → isFieldChar c = true) (hsolid : ∀ t ∈ ts, IsSolid t)
    (hends : Ends p ts) : ∃ rest, word? p (skipBlanks cs) = some (w, rest) ∧ Spaced ts rest := by
  obtain ⟨rest, hskip, hrest⟩ := h.skip (hw.isSolid hp)
  refine ⟨rest, ?_, hrest⟩
  rw [hskip, word?_append hw (hrest.head hsolid (noBlank_of_imp hp) hends)]

lemma mark?_of_spaced (h : Spaced ([c] :: ts) cs) (hc : Text.isBlank c = false) :
    ∃ rest, mark? c (skipBlanks cs) = some rest ∧ Spaced ts rest := by
  obtain ⟨rest, hskip, hrest⟩ := h.skip (isSolid_mark hc)
  exact ⟨rest, by simp [hskip, mark?], hrest⟩

lemma mark?_eq_none (h : ∀ d ∈ cs.head?, d ≠ c) : mark? c cs = none := by
  cases cs with
  | nil => rfl
  | cons d ds => simpa [mark?] using h d (by simp)

/-- No token but the first is taken for the next mark. -/
lemma mark?_eq_none_of_spaced (h : Spaced ts cs) (hsolid : ∀ t ∈ ts, IsSolid t)
    (hends : Ends (· == c) ts) : mark? c (skipBlanks cs) = none := by
  refine mark?_eq_none ?_
  cases h with
  | nil => simp [skipBlanks]
  | cons blanks token hblanks hrest =>
    have htoken := hsolid _ List.mem_cons_self
    obtain ⟨rest, hskip, -⟩ := (Spaced.cons blanks token hblanks hrest).skip htoken
    rw [hskip, List.head?_append_of_ne_nil _ htoken.ne_nil]
    intro d hd
    simpa using hends _ rfl d hd

lemma ends_mark (h : p c = false) : Ends p ((c :: cs) :: ts) := by
  intro t ht d hd
  obtain rfl : c :: cs = t := by simpa using ht
  obtain rfl : c = d := by simpa using hd
  exact h

lemma typeName?_of_spaced (h : Spaced (w.toList :: ['#'] :: ts) cs) (hw : IsWord isTypeChar w)
    (hsolid : ∀ t ∈ ts, IsSolid t) : ∃ rest, typeName? cs = some (w, rest) ∧ Spaced ts rest := by
  have hmark : IsSolid ['#'] := isSolid_mark (by decide)
  obtain ⟨as, hword, has⟩ := word?_of_spaced h hw
    (fun _ hc => isFieldChar_of_isPropertyChar (isPropertyChar_of_isTypeChar hc))
    (List.forall_mem_cons.2 ⟨hmark, hsolid⟩) (ends_mark (by decide))
  obtain ⟨rest, hrest, hspaced⟩ := mark?_of_spaced has (by decide)
  exact ⟨rest, by simp [typeName?, hword, hrest], hspaced⟩

/-- A property is not taken for a type name: behind what could be one, there is no mark. -/
lemma typeName?_eq_none (hskip : skipBlanks cs = w.toList ++ rest) (hw : IsWord isPropertyChar w)
    (hrest : Spaced ts rest) (hsolid : ∀ t ∈ ts, IsSolid t) (hends : Ends isTypeChar ts)
    (hmark : Ends (· == '#') ts) : typeName? cs = none := by
  cases hword : word? isTypeChar (skipBlanks cs) with
  | none => simp [typeName?, hword]
  | some read =>
    obtain ⟨u, bs⟩ := read
    obtain ⟨hu, hsplit⟩ := word?_eq_some hword
    have hno : mark? '#' (skipBlanks bs) = none := by
      rcases List.append_eq_append_iff.1 (hskip.symm.trans hsplit) with
        ⟨v, huv, hv⟩ | ⟨v, hwv, rfl⟩
      · -- the word ends with the property
        obtain rfl : v = [] := by
          cases v with
          | nil => rfl
          | cons c v =>
            have hchar := hu.2 c (by simp [huv])
            have hhead := hrest.head hsolid (noBlank_of_imp fun _ h =>
              isFieldChar_of_isPropertyChar (isPropertyChar_of_isTypeChar h)) hends c (by simp [hv])
            simp [hchar] at hhead
        obtain rfl : rest = bs := by simpa using hv
        exact mark?_eq_none_of_spaced hrest hsolid hmark
      · cases v with
        | nil => exact mark?_eq_none_of_spaced hrest hsolid hmark
        | cons c v =>
          have hchar : isPropertyChar c = true := hw.2 c (by simp [hwv])
          have hblank : isBlank c = false := by
            by_contra hblank
            have hfield := isFieldChar_of_isBlank (c := c) (by simpa using hblank)
            simp [isFieldChar_of_isPropertyChar hchar] at hfield
          rw [List.cons_append, skipBlanks_eq_self (by simpa using hblank)]
          refine mark?_eq_none fun d hd => ?_
          obtain rfl : c = d := by simpa using hd
          rintro rfl
          exact absurd hchar (by decide)
    simp [typeName?, hword, hno]

lemma optional_typeName? {o : Option String} {isColumn : Bool}
    (h : Spaced ((o.elim [] fun t => [t.toList, ['#']]) ++ propertyToken isColumn w :: ts) cs)
    (ho : ∀ t ∈ o, IsWord isTypeChar t) (hw : IsWord isPropertyChar w)
    (hsolid : ∀ t ∈ propertyToken isColumn w :: ts, IsSolid t) (hends : Ends isTypeChar ts)
    (hmark : Ends (· == '#') ts) :
    ∃ rest, optional typeName? cs = (o, rest) ∧ Spaced (propertyToken isColumn w :: ts) rest := by
  cases o with
  | some t =>
    obtain ⟨rest, htype, hrest⟩ := typeName?_of_spaced h (ho t rfl) hsolid
    exact ⟨rest, by simp [optional, htype], hrest⟩
  | none =>
    refine ⟨cs, ?_, h⟩
    obtain ⟨rest, hskip, hrest⟩ := Spaced.skip h (hsolid _ List.mem_cons_self)
    have htail : ∀ t ∈ ts, IsSolid t := fun t ht => hsolid t (List.mem_cons_of_mem _ ht)
    have hnone : typeName? cs = none := by
      cases isColumn with
      | false => exact typeName?_eq_none hskip hw hrest htail hends hmark
      | true =>
        have hhead : skipBlanks cs = '$' :: (w.toList ++ rest) := hskip
        simp [typeName?, hhead, word?, isTypeChar]
    simp [optional, hnone]

lemma property?_of_spaced {isColumn : Bool} (h : Spaced (propertyToken isColumn w :: ts) cs)
    (hw : IsWord isPropertyChar w) (hsolid : ∀ t ∈ propertyToken isColumn w :: ts, IsSolid t)
    (hends : Ends isPropertyChar ts) :
    ∃ rest, property? cs = some (isColumn, w, rest) ∧ Spaced ts rest := by
  obtain ⟨rest, hskip, hrest⟩ := h.skip (hsolid _ List.mem_cons_self)
  refine ⟨rest, ?_, hrest⟩
  have hword : word? isPropertyChar (w.toList ++ rest) = some (w, rest) :=
    word?_append hw (hrest.head (fun t ht => hsolid t (List.mem_cons_of_mem _ ht))
      (noBlank_of_imp fun _ => isFieldChar_of_isPropertyChar) hends)
  cases isColumn with
  | true =>
    have hhead : skipBlanks cs = '$' :: (w.toList ++ rest) := hskip
    simp [property?, hhead, mark?, hword]
  | false =>
    have hhead : skipBlanks cs = w.toList ++ rest := hskip
    have hnone : mark? '$' (w.toList ++ rest) = none := by
      refine mark?_eq_none fun d hd => ?_
      rw [List.head?_append_of_ne_nil _ hw.ne_nil] at hd
      rintro rfl
      exact absurd (hw.2 _ (List.mem_of_mem_head? hd)) (by decide)
    simp [property?, hhead, hnone, hword]

lemma IsFilter.exists_toList (h : IsFilter w) :
    ∃ content, IsWord isFilterChar content ∧ w.toList = '\x7b' :: (content.toList ++ ['\x7d']) := by
  obtain ⟨content, hcontent, rfl⟩ := h
  exact ⟨content, hcontent, by simp⟩

lemma IsFilter.isSolid (h : IsFilter w) : IsSolid w.toList := by
  obtain ⟨content, -, hw⟩ := h.exists_toList
  rw [hw]
  refine ⟨by simp, fun c hc => ?_, fun c hc => ?_⟩
  · obtain rfl : '\x7b' = c := by simpa using hc
    decide
  · obtain rfl : '\x7d' = c := by simpa [List.getLast?_cons] using hc
    decide

lemma filter?_of_spaced (h : Spaced (w.toList :: ts) cs) (hw : IsFilter w) :
    ∃ rest, filter? cs = some (w, rest) ∧ Spaced ts rest := by
  obtain ⟨rest, hskip, hrest⟩ := h.skip hw.isSolid
  obtain ⟨content, hcontent, rfl⟩ := hw
  refine ⟨rest, ?_, hrest⟩
  have hhead : skipBlanks cs = '\x7b' :: (content.toList ++ '\x7d' :: rest) := by simp [hskip]
  have hword : word? isFilterChar (content.toList ++ '\x7d' :: rest) =
      some (content, '\x7d' :: rest) := word?_append hcontent (by simp [isFilterChar])
  simp [filter?, hhead, mark?, hword]

lemma optional_filter? {o : Option String}
    (h : Spaced ((o.elim [] fun f => [f.toList]) ++ ts) cs) (ho : ∀ f ∈ o, IsFilter f)
    (hsolid : ∀ t ∈ ts, IsSolid t) (hends : Ends (· == '\x7b') ts) :
    ∃ rest, optional filter? cs = (o, rest) ∧ Spaced ts rest := by
  cases o with
  | some f =>
    obtain ⟨rest, hfilter, hrest⟩ := filter?_of_spaced h (ho f rfl)
    exact ⟨rest, by simp [optional, hfilter], hrest⟩
  | none =>
    have hnone : filter? cs = none := by
      simp [filter?, mark?_eq_none_of_spaced h hsolid hends]
    exact ⟨cs, by simp [optional, hnone], h⟩

lemma isSolid_field (h : IsWord isFieldChar w) : IsSolid w.toList := h.isSolid fun _ hc => hc

lemma isSolid_moreFieldTokens {fields : List String} (h : ∀ w ∈ fields, IsWord isFieldChar w) :
    ∀ t ∈ moreFieldTokens fields, IsSolid t :=
  forall_mem_moreFieldTokens (isSolid_mark (by decide)) fun w hw => isSolid_field (h w hw)

lemma ends_moreFieldTokens (h : p ',' = false) (fields : List String) :
    Ends p (moreFieldTokens fields) := by
  cases fields with
  | nil => simp [Ends, moreFieldTokens]
  | cons w fields => exact ends_mark h

/-- As many fields are read as there are, if there is fuel enough. -/
lemma moreFields_of_spaced {fields : List String} {fuel : ℕ} (hfuel : fields.length ≤ fuel)
    (h : Spaced (moreFieldTokens fields) cs) (hw : ∀ w ∈ fields, IsWord isFieldChar w) :
    moreFields fuel cs = (fields, []) := by
  induction fields generalizing cs fuel with
  | nil =>
    cases h
    cases fuel with
    | zero => rfl
    | succ fuel => simp [moreFields, skipBlanks, mark?]
  | cons w fields ih =>
    obtain ⟨hword, hwords⟩ := List.forall_mem_cons.1 hw
    cases fuel with
    | zero => simp at hfuel
    | succ fuel =>
      obtain ⟨as, hmark, has⟩ := mark?_of_spaced (c := ',') h (by decide)
      obtain ⟨bs, hfield, hbs⟩ := word?_of_spaced has hword (fun _ hc => hc)
        (isSolid_moreFieldTokens hwords) (ends_moreFieldTokens (by decide) fields)
      have hmore := ih (Nat.le_of_succ_le_succ hfuel) hbs hwords
      simp [moreFields, hmark, hfield, hmore]

lemma Spaced.length_le (h : Spaced ts cs) (hsolid : ∀ t ∈ ts, IsSolid t) :
    ts.length ≤ cs.length := by
  induction h with
  | nil => simp
  | @cons blanks token rest ts _ _ ih =>
    have htoken := List.length_pos_of_ne_nil (hsolid token (by simp)).ne_nil
    have hrest := ih fun t ht => hsolid t (by simp [ht])
    simp only [List.length_cons, List.length_append]
    omega

lemma length_le_moreFieldTokens (fields : List String) :
    fields.length ≤ (moreFieldTokens fields).length := by
  induction fields with
  | nil => simp
  | cons w fields ih =>
    simp only [moreFieldTokens, List.flatMap_cons, List.length_append, List.length_cons] at ih ⊢
    omega

lemma fields?_of_spaced {fields : List String} (h : Spaced (fieldTokens fields) cs)
    (hne : fields ≠ []) (hw : ∀ w ∈ fields, IsWord isFieldChar w) :
    fields? cs = some (fields, []) := by
  cases fields with
  | nil => exact absurd rfl hne
  | cons w fields =>
    obtain ⟨hword, hwords⟩ := List.forall_mem_cons.1 hw
    have hsolid := isSolid_moreFieldTokens hwords
    obtain ⟨as, hmark, has⟩ := mark?_of_spaced (c := '|') h (by decide)
    obtain ⟨bs, hfield, hbs⟩ := word?_of_spaced has hword (fun _ hc => hc) hsolid
      (ends_moreFieldTokens (by decide) fields)
    have hmore := moreFields_of_spaced
      ((length_le_moreFieldTokens fields).trans (hbs.length_le hsolid)) hbs hwords
    simp [fields?, hmark, hfield, hmore]

lemma optional_fields? {o : Option (List String)} (h : Spaced (o.elim [] fieldTokens) cs)
    (ho : ∀ fs ∈ o, fs ≠ [] ∧ ∀ w ∈ fs, IsWord isFieldChar w) :
    optional fields? cs = (o, []) := by
  cases o with
  | some fs => simp [optional, fields?_of_spaced h (ho fs rfl).1 (ho fs rfl).2]
  | none =>
    cases h
    rfl

/-! ### Expressions -/

lemma isSolid_propertyToken {isColumn : Bool} (h : IsWord isPropertyChar w) :
    IsSolid (propertyToken isColumn w) := by
  have hchar : ∀ c ∈ propertyToken isColumn w, Text.isBlank c = false := by
    have hword : ∀ c ∈ w.toList, Text.isBlank c = false := fun c hc =>
      isBlank_text_of_isFieldChar (isFieldChar_of_isPropertyChar (h.2 c hc))
    cases isColumn with
    | false => exact hword
    | true => exact List.forall_mem_cons.2 ⟨by decide, hword⟩
  refine isSolid_of_forall ?_ hchar
  cases isColumn with
  | false => exact h.ne_nil
  | true => simp [propertyToken]

lemma ends_fieldTokens (h : p '|' = false) (o : Option (List String)) :
    Ends p (o.elim [] fieldTokens) := by
  cases o with
  | none => simp [Ends]
  | some fields => cases fields <;> exact ends_mark h

lemma IsLexical.isSolid_tokens (hx : x.IsLexical) : ∀ t ∈ x.tokens, IsSolid t :=
  forall_mem_tokens (isSolid_mark (by decide)) (isSolid_mark (by decide)) (isSolid_mark (by decide))
    (fun t ht => (hx.typeName t ht).isSolid fun _ hc =>
      isFieldChar_of_isPropertyChar (isPropertyChar_of_isTypeChar hc))
    (isSolid_propertyToken hx.property) (fun f hf => (hx.filter f hf).isSolid)
    fun fs hfs w hw => isSolid_field ((hx.fields fs hfs).2 w hw)

/-- Behind the property, a brace or a bar starts the next token. -/
lemma IsLexical.ends_tailTokens (hx : x.IsLexical) (hbrace : p '\x7b' = false)
    (hbar : p '|' = false) : Ends p x.tailTokens := by
  unfold tailTokens
  cases hfilter : x.filter with
  | none => exact ends_fieldTokens hbar x.fields
  | some f =>
    obtain ⟨content, -, hf⟩ := (hx.filter f hfilter).exists_toList
    rw [Option.elim_some, List.singleton_append, hf]
    exact ends_mark hbrace

/-- A rendering of an expression is read as the expression. -/
theorem ofChars?_complete (hx : x.IsLexical) (h : Spaced x.tokens cs) :
    ofChars? cs = some x := by
  have hsolid : ∀ t ∈ propertyToken x.isColumn x.property :: x.tailTokens, IsSolid t :=
    fun t ht => hx.isSolid_tokens t (List.mem_append_right _ ht)
  have htail : ∀ t ∈ x.fields.elim [] fieldTokens, IsSolid t := fun t ht =>
    hsolid t (List.mem_cons_of_mem _ (List.mem_append_right _ ht))
  have htype : Ends isTypeChar x.tailTokens := hx.ends_tailTokens (by decide) (by decide)
  have hmark : Ends (· == '#') x.tailTokens := hx.ends_tailTokens (by decide) (by decide)
  have hproperty : Ends isPropertyChar x.tailTokens :=
    hx.ends_tailTokens (by decide) (by decide)
  have hbrace : Ends (· == '\x7b') (x.fields.elim [] fieldTokens) :=
    ends_fieldTokens (by decide) x.fields
  obtain ⟨rest₁, h₁, hspaced₁⟩ := optional_typeName? h hx.typeName hx.property hsolid htype hmark
  obtain ⟨rest₂, h₂, hspaced₂⟩ := property?_of_spaced hspaced₁ hx.property hsolid hproperty
  obtain ⟨rest₃, h₃, hspaced₃⟩ := optional_filter? hspaced₂ hx.filter htail hbrace
  have h₄ := optional_fields? hspaced₃ hx.fields
  simp only [ofChars?, h₁, h₂, h₃, h₄, Option.bind_eq_bind, Option.bind_some]
  rfl

end

end RelationExpression

/-! ### Fields -/

open RelationExpression

section

variable {e : Entity} {w : String} {ws : List String} {x : RelationExpression} {err : Error}

namespace RelationField

variable {f : RelationField} {fs : List RelationField}

/-- A word of a field list describes a field of the entity: all of them, or the one of a key of the
grammar, other than the related documents, that the entity resolves. -/
inductive Describes (e : Entity) : String → RelationField → Prop where
  /-- All fields. -/
  | everything : Describes e "*" everything
  /-- The field of a key. -/
  | named {w : String} {k : FieldKey} {p : Predicate} (hkey : FieldKey.IsKeyText w.toList)
      (hread : FieldKey.ofText? w = some k) (hne : k ≠ .relations)
      (hp : k.resolveColumn e false = .ok p) :
      Describes e w (named w (Members.getD p.origin "data_container")
        (Members.getD p.origin "key") p.text)

lemma isFieldChar_of_isKeyChar {c : Char} (h : FieldKey.IsKeyChar c) : isFieldChar c = true := by
  rcases h with h | h
  · simp only [FieldKey.isPathChar, Bool.or_eq_true, beq_iff_eq] at h
    simp [isFieldChar, isPropertyChar, isTypeChar, h]
  · simp only [List.mem_cons, List.not_mem_nil, or_false] at h
    rcases h with rfl | rfl | rfl <;> decide

lemma Describes.isWord (h : Describes e w f) : IsWord isFieldChar w := by
  cases h with
  | everything => exact ⟨by decide, by simp [isFieldChar]⟩
  | named hkey =>
    refine ⟨?_, fun c hc => isFieldChar_of_isKeyChar (hkey.isKeyChar c hc)⟩
    rintro rfl
    cases hkey with
    | path hpath =>
      have hcomponent := FieldKey.isPathText_iff.1 hpath [] (by decide)
      exact absurd hcomponent (by decide)

/-- All columns are spelled with a dollar sign in keys. -/
lemma not_isKeyText_star : ¬ FieldKey.IsKeyText "*".toList := by
  intro h
  cases h with
  | path hpath =>
    have hcomponent := FieldKey.isPathText_iff.1 hpath ['*'] (by decide)
    exact absurd hcomponent (by decide)

lemma Describes.ofWord_eq (h : Describes e w f) : ofWord e w = .ok f := by
  cases h with
  | everything => rfl
  | @named _ k p hkey hread hne hp =>
    have hstar : w ≠ "*" := by
      rintro rfl
      exact not_isKeyText_star hkey
    have hparse : FieldKey.parse (.text w) = .ok k := (FieldKey.parse_eq_ok_iff rfl).2 hread
    rw [ofWord, if_neg (by simpa using hstar), hparse]
    cases k with
    | relations => exact absurd rfl hne
    | _ => simp [bind, Except.bind, hp]

lemma describes_of_ofWord (hw : IsWord isFieldChar w) (h : ofWord e w = .ok f) :
    Describes e w f := by
  unfold ofWord at h
  split_ifs at h with hstar
  · obtain rfl : w = "*" := by simpa using hstar
    obtain rfl : everything = f := by simpa using h
    exact .everything
  · obtain ⟨k, hparse, h⟩ := Result.bind_eq_ok_iff.1 h
    have hread := (FieldKey.parse_eq_ok_iff rfl).1 hparse
    have hkey : FieldKey.IsKeyText w.toList := by
      refine (FieldKey.exists_ofText?_iff.1 ⟨k, hread⟩).resolve_right ?_
      rintro ⟨ds, -, -, hline⟩
      exact absurd (hw.2 '\n' (by simp [hline])) (by decide)
    have hne : k ≠ .relations := by
      rintro rfl
      simp at h
    have hresolved : ∃ p, k.resolveColumn e false = .ok p ∧
        f = named w (Members.getD p.origin "data_container")
          (Members.getD p.origin "key") p.text := by
      cases k with
      | relations => exact absurd rfl hne
      | _ =>
        obtain ⟨p, hp, h⟩ := Result.bind_eq_ok_iff.1 h
        exact ⟨p, hp, (Except.ok.inj h).symm⟩
    obtain ⟨p, hp, rfl⟩ := hresolved
    exact .named hkey hread hne hp

/-- Keys of an entity fail to resolve for want of a column only. -/
lemma resolveColumn_error_kind {k : FieldKey} (hread : k.IsRead)
    (hcontainer : '$' ∉ e.container.toList) (h : k.resolveColumn e false = .error err) :
    err.kind? = some .key := by
  rcases FieldKey.exists_denotes_or e false k with ⟨text, origin, hdenotes⟩ | herror
  · -- a fragment without a dollar sign needs no parameters, so it is never refused
    have hdollar : '$' ∉ text.toList := by
      cases hdenotes with
      | path =>
        exact FieldKey.no_dollar_navigate hcontainer .json (FieldKey.inert_of_isRead hread)
      | all | relations => decide
      | column => exact FieldKey.no_dollar_of_isRead hread (Or.inl rfl)
      | timestamp => exact FieldKey.no_dollar_of_isRead hread (Or.inr rfl)
      | milliseconds _ hepoch => simp at hepoch
    rw [hdenotes.resolveColumn_eq,
      Predicate.make_of_count (countPlaceholders_of_no_dollar hdollar)] at h
    simp at h
  · obtain rfl := Except.error.inj (herror.symm.trans h)
    rfl

lemma ofWord_error_kind (hcontainer : '$' ∉ e.container.toList) (h : ofWord e w = .error err) :
    err.kind? = some .key := by
  unfold ofWord at h
  split_ifs at h
  rcases Result.bind_eq_error_iff.1 h with hparse | ⟨k, hparse, h⟩
  · exact FieldKey.parse_error_kind hparse
  · have hread : k.IsRead := FieldKey.isRead_of_parse (by simp) hparse
    cases k with
    | relations =>
      obtain rfl := Except.error.inj h
      rfl
    | _ =>
      rcases Result.bind_eq_error_iff.1 h with hresolve | ⟨p, -, h⟩
      · exact resolveColumn_error_kind hread hcontainer hresolve
      · simp at h

/-- Every word describes a field if and only if the words describe fields in order. -/
lemma exists_describes_iff :
    (∃ fs, List.Forall₂ (Describes e) ws fs) ↔ ∀ w ∈ ws, ∃ f, Describes e w f := by
  induction ws with
  | nil => simp
  | cons w ws ih =>
    rw [List.forall_mem_cons, ← ih]
    constructor
    · rintro ⟨_, hfs⟩
      cases hfs with
      | cons hf hfs => exact ⟨⟨_, hf⟩, _, hfs⟩
    · rintro ⟨⟨f, hf⟩, fs, hfs⟩
      exact ⟨f :: fs, .cons hf hfs⟩

lemma ofWords_eq (h : List.Forall₂ (Describes e) ws fs) : ofWords e ws = .ok fs := by
  induction h with
  | nil => rfl
  | cons hw _ ih => simp [ofWords, hw.ofWord_eq, ih, bind, Except.bind]

lemma forall₂_ofWords (h : ofWords e ws = .ok fs) :
    List.Forall₂ (fun w f => ofWord e w = .ok f) ws fs :=
  Result.forall₂_of_each (g := ofWords e) rfl (fun _ _ => rfl) h

lemma describes_of_ofWords (hws : ∀ w ∈ ws, IsWord isFieldChar w) (h : ofWords e ws = .ok fs) :
    List.Forall₂ (Describes e) ws fs :=
  ((List.forall₂_and_left _ _).2 ⟨hws, forall₂_ofWords h⟩).imp fun _ _ hw =>
    describes_of_ofWord hw.1 hw.2

lemma ofWords_error_kind (hcontainer : '$' ∉ e.container.toList)
    (h : ofWords e ws = .error err) : err.kind? = some .key := by
  induction ws with
  | nil => simp [ofWords] at h
  | cons w ws ih =>
    rcases Result.bind_eq_error_iff.1 h with hw | ⟨f, -, h⟩
    · exact ofWord_error_kind hcontainer hw
    · rcases Result.bind_eq_error_iff.1 h with hws | ⟨fs, -, h⟩
      · exact ih hws
      · simp at h

end RelationField

/-! ### Relations -/

namespace Relation

variable {r : Relation} {v : Value} {s : String}

/-- All parts of an expression are of their kinds, no tab stands in its filter, and its fields are
those of an entity. -/
structure IsRelationOf (e : Entity) (x : RelationExpression) : Prop where
  typeName : ∀ t ∈ x.typeName, IsWord isTypeChar t
  property : IsWord isPropertyChar x.property
  filter : ∀ f ∈ x.filter, IsFilter f ∧ '\t' ∉ f.toList
  fields : ∀ fs ∈ x.fields, fs ≠ [] ∧ ∀ w ∈ fs, ∃ f, RelationField.Describes e w f

/-- The relation is the one that an expression describes: its property is a column, or one of the
data container, with the filter behind it, and without a field list it has all fields. -/
structure IsDescribedBy (e : Entity) (x : RelationExpression) (r : Relation) : Prop where
  typeName : r.typeName = x.typeName
  property : r.property =
    (if x.isColumn then "" else e.container ++ ".") ++ x.property ++ x.filter.getD ""
  fields : List.Forall₂ (RelationField.Describes e) (x.fields.getD ["*"]) r.fields

lemma IsRelationOf.isLexical (h : IsRelationOf e x) : x.IsLexical where
  typeName := h.typeName
  property := h.property
  filter := fun f hf => (h.filter f hf).1
  fields := fun fs hfs => ⟨(h.fields fs hfs).1, fun w hw => by
    obtain ⟨f, hf⟩ := (h.fields fs hfs).2 w hw
    exact hf.isWord⟩

lemma IsRelationOf.exists_fields (h : IsRelationOf e x) :
    ∃ fs, List.Forall₂ (RelationField.Describes e) (x.fields.getD ["*"]) fs := by
  rw [RelationField.exists_describes_iff]
  cases hfields : x.fields with
  | none => simpa using ⟨_, RelationField.Describes.everything (e := e)⟩
  | some ws => exact (h.fields ws hfields).2

lemma ofExpression_eq {fs : List RelationField}
    (h : List.Forall₂ (RelationField.Describes e) (x.fields.getD ["*"]) fs) :
    ∃ r, ofExpression e x = .ok r ∧ IsDescribedBy e x r := by
  refine ⟨_, by rw [ofExpression, RelationField.ofWords_eq h]; rfl, rfl, ?_, h⟩
  dsimp only
  split <;> simp [String.append_assoc]

/-- No token holds a tab. -/
lemma IsRelationOf.no_tab (h : IsRelationOf e x) : ∀ t ∈ x.tokens, '\t' ∉ t := by
  have hword : ∀ {w : String}, (∀ c ∈ w.toList, isFieldChar c = true) → '\t' ∉ w.toList :=
    fun hw hmem => absurd (hw _ hmem) (by decide)
  have hproperty : '\t' ∉ x.property.toList :=
    hword fun c hc => isFieldChar_of_isPropertyChar (h.property.2 c hc)
  refine forall_mem_tokens (by decide) (by decide) (by decide) (fun t ht => ?_) ?_
    (fun f hf => (h.filter f hf).2) fun fs hfs w hw => ?_
  · exact hword fun c hc =>
      isFieldChar_of_isPropertyChar (isPropertyChar_of_isTypeChar ((h.typeName t ht).2 c hc))
  · cases x.isColumn <;> simpa [propertyToken] using hproperty
  · exact hword ((h.isLexical.fields fs hfs).2 w hw).2

lemma isRelationOf_of_ofWords {fs : List RelationField} (hx : x.IsLexical)
    (htab : ∀ t ∈ x.tokens, '\t' ∉ t)
    (h : RelationField.ofWords e (x.fields.getD ["*"]) = .ok fs) : IsRelationOf e x where
  typeName := hx.typeName
  property := hx.property
  filter := fun f hf => ⟨hx.filter f hf, htab _ (by simp [tokens, tailTokens, Option.mem_def.1 hf])⟩
  fields := fun ws hws => by
    obtain ⟨hne, hwords⟩ := hx.fields ws hws
    rw [Option.mem_def.1 hws] at h
    exact ⟨hne, RelationField.exists_describes_iff.1
      ⟨fs, RelationField.describes_of_ofWords hwords h⟩⟩

/-- A text is read by what is left of it without blanks at its ends. -/
lemma ofText?_of_isRendering (h : IsRelationOf e x)
    (hs : x.IsRendering s.toList ∨ x.IsRendering (Text.stripChars s.toList)) :
    ofText? s = some x := by
  have hstrip : x.IsRendering (Text.stripChars s.toList) := by
    rcases hs with hs | hs
    · rwa [(hs.stripped h.isLexical.isSolid_tokens).stripChars_eq]
    · exact hs
  exact ofChars?_complete h.isLexical (hstrip.spaced.expandTabs h.no_tab 0)

lemma parse_eq_of_ofText? (hs : v.asText? = some s) (h : ofText? s = some x) :
    parse e v = ofExpression e x := by
  simp [parse, hs, h]

/-- The relation of an entity is read from every rendering of an expression, as the one that the
expression describes.  Every other text without tabs is refused as a malformed key. -/
theorem parse_follows_grammar (hs : v.asText? = some s) :
    (∀ x, IsRelationOf e x →
      x.IsRendering s.toList ∨ x.IsRendering (Text.stripChars s.toList) →
        ∃ r, parse e v = .ok r ∧ IsDescribedBy e x r) ∧
    ('\t' ∉ s.toList → (∀ x, IsRelationOf e x → ¬ x.IsRendering (Text.stripChars s.toList)) →
      ∃ err, parse e v = .error err ∧
        ('$' ∉ e.container.toList → err.kind? = some .key)) := by
  refine ⟨fun x hx hrendering => ?_, fun htab hno => ?_⟩
  · obtain ⟨fs, hfs⟩ := hx.exists_fields
    rw [parse_eq_of_ofText? hs (ofText?_of_isRendering hx hrendering)]
    exact ofExpression_eq hfs
  · have htab' : '\t' ∉ Text.stripChars s.toList := fun h => htab (Text.mem_of_mem_stripChars h)
    cases hx : ofText? s with
    | none => exact ⟨.malformedRelation v, by simp [parse, hs, hx], fun _ => rfl⟩
    | some x =>
      rw [parse_eq_of_ofText? hs hx]
      have hchars : ofChars? (Text.stripChars s.toList) = some x := by
        rwa [ofText?, expandTabs_eq_self htab'] at hx
      have hrendering := isRendering_of_ofChars? (Text.stripped_stripChars _) hchars
      have hlexical := (ofChars?_sound hchars).1
      cases hfields : RelationField.ofWords e (x.fields.getD ["*"]) with
      | error err =>
        exact ⟨err, by simp [ofExpression, hfields, bind, Except.bind],
          fun hcontainer => RelationField.ofWords_error_kind hcontainer hfields⟩
      | ok fs =>
        exact absurd hrendering (hno x (isRelationOf_of_ofWords hlexical
          (fun t ht hmem => htab' (hrendering.spaced.mem ht hmem)) hfields))

/-- A relation with all parts is read, and one without a property is refused. -/
theorem parse_userOwner :
    (∃ r, parse .document (.text "User # owner{age > 3}|name , $id") = .ok r ∧
      IsDescribedBy .document
        ⟨some "User", false, "owner", some "\x7bage > 3\x7d", some ["name", "$id"]⟩ r) ∧
      ∃ err, parse .document (.text "User#") = .error err ∧ err.kind? = some .key := by
  have hname : ∃ f, RelationField.Describes .document "name" f :=
    ⟨_, .named (.path ⟨["name".toList], by decide, by decide, by decide⟩) rfl (by simp)
      (Predicate.make_of_count (s := "(content -> 'name'::text)")
        (countPlaceholders_of_no_dollar (by decide)) _)⟩
  have hid : ∃ f, RelationField.Describes .document "$id" f :=
    ⟨_, .named (.column (by decide)) rfl (by simp)
      (Predicate.make_of_count (s := "id") (countPlaceholders_of_no_dollar (by decide)) _)⟩
  have hspace : AllBlank [' '] := by simp [AllBlank, isBlank]
  have hnone : ∀ x, IsRelationOf .document x → ¬ x.IsRendering (Text.stripChars "User#".toList) :=
    fun x hx hrendering => by
      have hread := ofText?_of_isRendering hx (Or.inr hrendering)
      have hunread : ofText? "User#" = none := by decide
      simp [hunread] at hread
  refine ⟨(parse_follows_grammar rfl).1 _ ⟨?_, ?_, ?_, ?_⟩ (Or.inl ?_), ?_⟩
  · simp [IsWord, isTypeChar]
  · simp [IsWord, isPropertyChar, isTypeChar]
  · rintro f hf
    obtain rfl : "\x7bage > 3\x7d" = f := by simpa using hf
    exact ⟨⟨"age > 3", by simp [IsWord, isFilterChar], rfl⟩, by decide⟩
  · rintro fs hfs
    obtain rfl : ["name", "$id"] = fs := by simpa using hfs
    exact ⟨by simp, by simp [hname, hid]⟩
  · exact ⟨"User".toList, _, _, rfl, .cons [' '] _ hspace <| .cons [' '] _ hspace <|
      .cons [] _ allBlank_nil <| .cons [] _ allBlank_nil <| .cons [] _ allBlank_nil <|
      .cons [' '] _ hspace <| .cons [' '] _ hspace .nil, by decide⟩
  · obtain ⟨err, herr, hkind⟩ := (parse_follows_grammar (e := .document) (v := .text "User#")
      rfl).2 (by decide) hnone
    exact ⟨err, herr, hkind (by decide)⟩

end Relation

end

end DocumentSql

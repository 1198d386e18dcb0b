/-
Operands of casts.

A cast that is written behind an expression binds to the last operand of it.  It reaches the whole
expression if that stands in parentheses, or is a dotted name, one group in parentheses, or one
call of a function (`IsOperand`).

Groups are told from the grammar of balanced texts (`Nested`), in which a parenthesis in quotes
is none.  A text that begins with a parenthesis is a group and what stands behind it, in one way
only (`Nested.group_unique`).  Whether a parenthesis closes at the end of a text is decided by
counting all parentheses, though, those in quotes too (`closesAtEnd_iff`): with an opening one in
quotes, two groups are taken for one.  Names are not examined part by part, either, and NOT is
taken for a function.  These are the ways in which a cast misses a part of the expression, and the
only ones (`apply_covers_iff`).
-/
import DocumentSql.Proofs.Cast.Plain
import DocumentSql.Proofs.Sql.Grammar
import DocumentSql.Proofs.Text.Digit

namespace DocumentSql

namespace Text

/-- The first occurrence of a character splits a text in one way. -/
lemma split_unique {as bs rest rest' : List Char} {d : Char} (has : d ∉ as) (hbs : d ∉ bs)
    (h : as ++ d :: rest = bs ++ d :: rest') : as = bs ∧ rest = rest' := by
  induction as generalizing bs with
  | nil =>
    cases bs with
    | nil => simpa using h
    | cons b bs =>
      obtain ⟨rfl, -⟩ := List.cons.inj h
      simp at hbs
  | cons a as ih =>
    cases bs with
    | nil =>
      obtain ⟨rfl, -⟩ := List.cons.inj h
      simp at has
    | cons b bs =>
      obtain ⟨rfl, htail⟩ := List.cons.inj h
      obtain ⟨rfl, rfl⟩ := ih (List.not_mem_of_not_mem_cons has)
        (List.not_mem_of_not_mem_cons hbs) htail
      exact ⟨rfl, rfl⟩

end Text

namespace Sql

/-! ### Balanced texts -/

/-- The character opens and closes nothing, with the quotes that are heeded. -/
def IsPlain (quotes : List Quote) (c : Char) : Prop :=
  c ≠ '(' ∧ c ≠ ')' ∧ ∀ q ∈ quotes, c ≠ q.char

/-- Quoted texts are closed, and the parentheses outside of them are balanced. -/
inductive Nested (quotes : List Quote) : List Char → Prop where
  /-- The empty text. -/
  | nil : Nested quotes []
  /-- A character that opens and closes nothing. -/
  | plain {c : Char} {cs : List Char} (hc : IsPlain quotes c) (hcs : Nested quotes cs) :
      Nested quotes (c :: cs)
  /-- A quoted text. -/
  | quoted {q : Quote} {quoted cs : List Char} (hq : q ∈ quotes) (hquoted : q.char ∉ quoted)
      (hcs : Nested quotes cs) : Nested quotes (q.char :: (quoted ++ q.char :: cs))
  /-- A group in parentheses. -/
  | group {inner cs : List Char} (hinner : Nested quotes inner) (hcs : Nested quotes cs) :
      Nested quotes ('(' :: (inner ++ ')' :: cs))

namespace Nested

variable {quotes : List Quote} {c : Char} {as bs cs inner inner' rest rest' : List Char}

lemma quote_ne (q : Quote) : q.char ≠ '(' ∧ q.char ≠ ')' := by
  cases q <;> decide

/-- No balanced text goes on with a closing parenthesis. -/
lemma ne_close (h : Nested quotes cs) : cs.head? ≠ some ')' := by
  cases h with
  | nil => simp
  | plain hc => simpa using hc.2.1
  | @quoted q => simpa using (quote_ne q).2
  | group => simp

lemma of_plain (hc : IsPlain quotes c) (h : Nested quotes (c :: cs)) : Nested quotes cs := by
  cases h with
  | plain _ hcs => exact hcs
  | quoted hq => exact absurd rfl (hc.2.2 _ hq)
  | group => exact absurd rfl hc.1

lemma of_append_plain (has : ∀ c ∈ as, IsPlain quotes c) (h : Nested quotes (as ++ cs)) :
    Nested quotes cs := by
  induction as with
  | nil => exact h
  | cons a as ih =>
    obtain ⟨ha, has⟩ := List.forall_mem_cons.1 has
    exact ih has (h.of_plain ha)

/-- A text that opens a group closes it. -/
lemma exists_group (h : Nested quotes ('(' :: cs)) :
    ∃ inner rest, Nested quotes inner ∧ cs = inner ++ ')' :: rest := by
  generalize htext : '(' :: cs = text at h
  cases h with
  | nil => simp at htext
  | plain hc => exact absurd (List.cons.inj htext).1.symm hc.1
  | @quoted q => exact absurd (List.cons.inj htext).1.symm (quote_ne q).1
  | group hinner => exact ⟨_, _, hinner, (List.cons.inj htext).2⟩

/-- A group ends at one place. -/
theorem group_unique (h : Nested quotes inner) (h' : Nested quotes inner')
    (heq : inner ++ ')' :: rest = inner' ++ ')' :: rest') : inner = inner' ∧ rest = rest' := by
  induction h generalizing inner' rest rest' with
  | nil =>
    cases inner' with
    | nil => simpa using heq
    | cons c cs =>
      obtain ⟨rfl, -⟩ := List.cons.inj heq
      exact absurd rfl h'.ne_close
  | @plain c cs hc hcs ih =>
    cases inner' with
    | nil => exact absurd (List.cons.inj heq).1 hc.2.1
    | cons c' cs' =>
      obtain ⟨rfl, htail⟩ := List.cons.inj heq
      obtain ⟨rfl, rfl⟩ := ih (h'.of_plain hc) htail
      exact ⟨rfl, rfl⟩
  | @quoted q quoted cs hq hquoted hcs ih =>
    cases h' with
    | nil => exact absurd (List.cons.inj heq).1 (quote_ne q).2
    | plain hc' => exact absurd (List.cons.inj heq).1.symm (hc'.2.2 q hq)
    | group => exact absurd (List.cons.inj heq).1 (quote_ne q).1
    | @quoted q' quoted' cs' hq' hquoted' hcs' =>
      simp only [List.append_assoc, List.cons_append, List.cons.injEq] at heq
      obtain ⟨hchar, htail⟩ := heq
      rw [← hchar] at hquoted' htail ⊢
      obtain ⟨rfl, hbehind⟩ := Text.split_unique hquoted hquoted' htail
      obtain ⟨rfl, rfl⟩ := ih hcs' hbehind
      exact ⟨rfl, rfl⟩
  | @group inside cs hinside hcs ih ih' =>
    cases h' with
    | nil => simp at heq
    | plain hc' => exact absurd (List.cons.inj heq).1.symm hc'.1
    | @quoted q' => exact absurd (List.cons.inj heq).1.symm (quote_ne q').1
    | @group inside' cs' hinside' hcs' =>
      simp only [List.append_assoc, List.cons_append, List.cons.injEq, true_and] at heq
      obtain ⟨rfl, hbehind⟩ := ih hinside' heq
      obtain ⟨rfl, rfl⟩ := ih' hcs' hbehind
      exact ⟨rfl, rfl⟩

lemma append_plain (as : List Char) (has : ∀ c ∈ as, IsPlain quotes c) (h : Nested quotes cs) :
    Nested quotes (as ++ cs) := by
  induction as with
  | nil => exact h
  | cons a as ih =>
    obtain ⟨ha, has⟩ := List.forall_mem_cons.1 has
    exact .plain ha (ih has)

/-- Without quotes in the text, as many parentheses close as open. -/
lemma count_eq (h : Nested quotes cs) (hno : ∀ q ∈ quotes, q.char ∉ cs) :
    cs.count '(' = cs.count ')' := by
  induction h with
  | nil => rfl
  | plain hc _ ih =>
    have htail := ih fun q hq hmem => hno q hq (by simp [hmem])
    simp [List.count_cons_of_ne hc.1, List.count_cons_of_ne hc.2.1, htail]
  | quoted hq => exact absurd (by simp) (hno _ hq)
  | group _ _ ih ih' =>
    have hinner := ih fun q hq hmem => hno q hq (by simp [hmem])
    have hbehind := ih' fun q hq hmem => hno q hq (by simp [hmem])
    simp [hinner, hbehind]
    omega

end Nested

end Sql

open Sql (Quote Nested IsPlain)

namespace Cast

/-! ### Operands -/

/-- The text is an identifier. -/
def isIdentifier : List Char → Bool
  | [] => false
  | c :: cs => TypeName.isStart c && cs.all TypeName.isWordChar

/-- The text is identifiers with dots between them. -/
def IsDottedName (cs : List Char) : Prop := ∀ part ∈ Text.splitAll '.' cs, isIdentifier part = true

/-- The text can name a function: it is a dotted name, but not NOT, the one operator that is a word
in front of its operand. -/
def IsFunctionName (cs : List Char) : Prop :=
  IsDottedName cs ∧ cs.map Char.toLower ≠ "not".toList

/-- The text is one group in parentheses: the last character closes the first. -/
def IsSingleGroup (quotes : List Quote) (cs : List Char) : Prop :=
  ∃ inner, Nested quotes inner ∧ cs = '(' :: (inner ++ [')'])

/-- A cast behind the text is a cast of the whole text. -/
inductive IsOperand (quotes : List Quote) : List Char → Prop where
  /-- A dotted name. -/
  | name {cs : List Char} (h : IsDottedName cs) : IsOperand quotes cs
  /-- One group in parentheses. -/
  | group {cs : List Char} (h : IsSingleGroup quotes cs) : IsOperand quotes cs
  /-- One call of a function. -/
  | call {name arguments : List Char} (hname : IsFunctionName name)
      (harguments : IsSingleGroup quotes arguments) : IsOperand quotes (name ++ arguments)

/-- The result is the expression under a cast to a type that reaches the whole of it. -/
def Covers (quotes : List Quote) (expr name result : String) : Prop :=
  result = "(" ++ expr ++ ")::" ++ name ∨
    result = expr ++ "::" ++ name ∧ IsOperand quotes expr.toList

/-! ### What is mistaken for operands -/

/-- The text begins like a name and goes on with characters of names and dots. -/
def LooksLikeName (cs : List Char) : Prop :=
  ∃ c rest, cs = c :: rest ∧ TypeName.isStart c = true ∧ ∀ d ∈ rest, isNameChar d = true

/-- If all parentheses are counted, the text is one group: it begins with an opening one, more open
than close anywhere in it, and as many at its end. -/
structure LooksLikeGroup (cs : List Char) : Prop where
  opens : ∃ rest, cs = '(' :: rest
  open_inside : ∀ as bs, cs = as ++ bs → as ≠ [] → bs ≠ [] → as.count ')' < as.count '('
  closed : cs.count '(' = cs.count ')'

/-- The text looks like one group, but the group at its start ends before the text does. -/
def IsFalseGroup (quotes : List Quote) (cs : List Char) : Prop :=
  LooksLikeGroup cs ∧
    ∃ inner behind, Nested quotes inner ∧ behind ≠ [] ∧ cs = '(' :: (inner ++ ')' :: behind)

/-- The text is taken for a dotted name, for a group or for a call, but is none. -/
inductive IsMistaken (quotes : List Quote) : List Char → Prop where
  /-- It looks like a name, but its parts are no identifiers. -/
  | name {cs : List Char} (h : LooksLikeName cs) (hno : ¬ IsDottedName cs) :
      IsMistaken quotes cs
  /-- A line end stands behind what looks like a name. -/
  | nameLine {cs : List Char} (h : LooksLikeName cs) : IsMistaken quotes (cs ++ ['\n'])
  /-- It looks like a group, but goes on behind the group. -/
  | group {cs : List Char} (h : IsFalseGroup quotes cs) : IsMistaken quotes cs
  /-- What looks like a call has no function, or goes on behind the call. -/
  | call {name arguments : List Char} (hname : LooksLikeName name)
      (harguments : LooksLikeGroup arguments)
      (hno : ¬ IsFunctionName name ∨ IsFalseGroup quotes arguments) :
      IsMistaken quotes (name ++ arguments)

section

variable {quotes : List Quote} {cs ds as bs : List Char} {c : Char}

/-! ### Counting parentheses -/

/-- More parentheses are open in front of each character of the text than close there, when some
are open at its start. -/
def StaysOpen (depth : ℤ) (cs : List Char) : Prop :=
  ∀ as bs, cs = as ++ bs → bs ≠ [] → (as.count ')' : ℤ) < depth + as.count '('

lemma staysOpen_cons {depth : ℤ} : StaysOpen depth (c :: cs) ↔ 0 < depth ∧
    StaysOpen (depth + (if c = '(' then 1 else 0) - if c = ')' then 1 else 0) cs := by
  constructor
  · intro h
    refine ⟨by simpa using h [] (c :: cs) rfl (by simp), fun as bs hsplit hbs => ?_⟩
    have hcons := h (c :: as) bs (by rw [hsplit, List.cons_append]) hbs
    simp only [List.count_cons, beq_iff_eq] at hcons
    push_cast at hcons
    split_ifs at hcons ⊢ <;> omega
  · rintro ⟨hdepth, h⟩ as bs hsplit hbs
    cases as with
    | nil => simpa using hdepth
    | cons a as =>
      obtain ⟨rfl, rfl⟩ := List.cons.inj hsplit
      have htail := h as bs rfl hbs
      simp only [List.count_cons, beq_iff_eq]
      push_cast
      split_ifs at htail ⊢ <;> omega

/-- The count of parentheses comes to zero at the end of the text, and not before. -/
lemma closesAtEnd_iff {depth : ℤ} (hdepth : 0 < depth) :
    closesAtEnd depth cs = true ↔
      StaysOpen depth cs ∧ depth + cs.count '(' = cs.count ')' := by
  induction cs generalizing depth with
  | nil => simp [closesAtEnd, hdepth.ne']
  | cons c cs ih =>
    rw [staysOpen_cons, and_iff_right hdepth]
    by_cases hopen : c = '('
    · subst hopen
      have hstep : closesAtEnd depth ('(' :: cs) = closesAtEnd (depth + 1) cs := rfl
      rw [hstep, ih (by omega)]
      simp
      omega
    · by_cases hclose : c = ')'
      · subst hclose
        have hstep : closesAtEnd depth (')' :: cs) =
            if depth - 1 == 0 then cs.isEmpty else closesAtEnd (depth - 1) cs := rfl
        rw [hstep]
        by_cases hlast : depth = 1
        · -- the group closes here, so nothing may stand behind it
          subst hlast
          cases cs with
          | nil => simp [StaysOpen]
          | cons d ds => simp [staysOpen_cons]
        · rw [if_neg (by simp; omega), ih (by omega)]
          simp
          omega
      · simp [closesAtEnd, hopen, hclose, ih hdepth]

lemma isGroup_iff : isGroup cs = true ↔ LooksLikeGroup cs := by
  constructor
  · intro h
    unfold isGroup at h
    split at h
    · next rest =>
      obtain ⟨hopen, hclosed⟩ := (closesAtEnd_iff one_pos).1 (show closesAtEnd 1 rest = true from h)
      refine ⟨⟨rest, rfl⟩, fun as bs hsplit has hbs => ?_, by simp; omega⟩
      cases as with
      | nil => exact absurd rfl has
      | cons a as =>
        obtain ⟨rfl, rfl⟩ := List.cons.inj hsplit
        have hcount := hopen as bs rfl hbs
        simp
        omega
    · simp at h
  · rintro ⟨⟨rest, rfl⟩, hopen, hclosed⟩
    refine (closesAtEnd_iff one_pos).2 ⟨fun as bs hsplit hbs => ?_, ?_⟩
    · have hcount := hopen ('(' :: as) bs (by rw [hsplit, List.cons_append]) (by simp) hbs
      simp at hcount
      omega
    · simp at hclosed
      omega

/-! ### Names -/

lemma isNameChar_of_isStart (h : TypeName.isStart c = true) : isNameChar c = true := by
  simp [isNameChar, TypeName.isWordChar, h]

lemma isPlain_of_isNameChar (h : isNameChar c = true) : IsPlain quotes c := by
  have hne : ∀ d, isNameChar d = false → c ≠ d := by
    rintro d hd rfl
    simp [hd] at h
  exact ⟨hne '(' rfl, hne ')' rfl, fun q _ => by cases q <;> exact hne _ rfl⟩

namespace LooksLikeName

lemma isNameChar (h : LooksLikeName cs) : ∀ c ∈ cs, Cast.isNameChar c = true := by
  obtain ⟨c, rest, rfl, hc, hrest⟩ := h
  exact List.forall_mem_cons.2 ⟨isNameChar_of_isStart hc, hrest⟩

lemma isPlain (h : LooksLikeName cs) : ∀ c ∈ cs, IsPlain quotes c := fun c hc =>
  isPlain_of_isNameChar (h.isNameChar c hc)

lemma not_mem (h : LooksLikeName cs) : '(' ∉ cs := fun hmem =>
  absurd (h.isNameChar _ hmem) (by decide)

end LooksLikeName

/-- What is read of a text as a name is what looks like one, as far as it goes. -/
lemma afterName?_eq_some (h : afterName? cs = some ds) :
    ∃ name, LooksLikeName name ∧ cs = name ++ ds := by
  unfold afterName? at h
  split at h
  · next c rest =>
    split at h
    · next hc =>
      obtain rfl : rest.dropWhile isNameChar = ds := by simpa using h
      refine ⟨c :: rest.takeWhile isNameChar, ⟨c, _, rfl, hc, fun d hd => ?_⟩, by simp⟩
      exact List.mem_takeWhile_imp hd
    · simp at h
  · simp at h

lemma afterName?_append (h : LooksLikeName cs) (hds : ∀ d ∈ ds.head?, isNameChar d = false) :
    afterName? (cs ++ ds) = some ds := by
  obtain ⟨c, rest, rfl, hc, hrest⟩ := h
  rw [List.cons_append, afterName?, if_pos hc, Text.dropWhile_append_of_head hrest hds]

lemma isName_iff :
    isName cs = true ↔ LooksLikeName cs ∨ ∃ name, LooksLikeName name ∧ cs = name ++ ['\n'] := by
  constructor
  · intro h
    unfold isName at h
    split at h
    · next ds hds =>
      obtain ⟨name, hname, rfl⟩ := afterName?_eq_some hds
      obtain rfl | rfl : ds = [] ∨ ds = ['\n'] := by simpa using h
      · exact Or.inl (by simpa using hname)
      · exact Or.inr ⟨name, hname, rfl⟩
    · simp at h
  · rintro (h | ⟨name, h, rfl⟩)
    · have hafter : afterName? (cs ++ []) = some [] := afterName?_append h (by simp)
      rw [List.append_nil] at hafter
      simp [isName, hafter]
    · have hafter : afterName? (name ++ ['\n']) = some ['\n'] :=
        afterName?_append h (by simp; rfl)
      simp [isName, hafter]

lemma isCall_iff : isCall cs = true ↔
    ∃ name arguments, LooksLikeName name ∧ LooksLikeGroup arguments ∧ cs = name ++ arguments := by
  constructor
  · intro h
    unfold isCall at h
    split at h
    · next ds hds =>
      obtain ⟨name, hname, rfl⟩ := afterName?_eq_some hds
      exact ⟨name, ds, hname, isGroup_iff.1 h, rfl⟩
    · simp at h
  · rintro ⟨name, arguments, hname, harguments, rfl⟩
    obtain ⟨rest, rfl⟩ := harguments.opens
    have hafter : afterName? (name ++ '(' :: rest) = some ('(' :: rest) :=
      afterName?_append hname (by simp; rfl)
    simp [isCall, hafter, isGroup_iff.2 harguments]

lemma isIdentifier_iff : isIdentifier cs = true ↔
    ∃ c rest, cs = c :: rest ∧ TypeName.isStart c = true ∧
      ∀ d ∈ rest, TypeName.isWordChar d = true := by
  cases cs <;> simp [isIdentifier]

lemma IsDottedName.looksLikeName (h : IsDottedName cs) : LooksLikeName cs := by
  have hchar : ∀ d ∈ cs, isNameChar d = true := by
    intro d hd
    rcases Text.mem_splitAll_or_eq '.' hd with rfl | ⟨part, hpart, hmem⟩
    · decide
    · obtain ⟨c, rest, rfl, hc, hrest⟩ := isIdentifier_iff.1 (h part hpart)
      rcases List.mem_cons.1 hmem with rfl | hmem
      · exact isNameChar_of_isStart hc
      · simp [isNameChar, hrest d hmem]
  cases cs with
  | nil =>
    have hempty := h [] (by simp [Text.splitAll])
    simp [isIdentifier] at hempty
  | cons c cs =>
    refine ⟨c, cs, rfl, ?_, fun d hd => hchar d (by simp [hd])⟩
    rw [IsDottedName, Text.splitAll] at h
    split at h
    · have hempty := h [] (by simp)
      simp [isIdentifier] at hempty
    · split at h
      · have hsingle := h [c] (by simp)
        simpa [isIdentifier] using hsingle
      · next part parts _ =>
        have hfirst := h (c :: part) (by simp)
        simp only [isIdentifier, Bool.and_eq_true] at hfirst
        exact hfirst.1

/-! ### Operands and what is taken for them -/

/-- The text is written under a cast as it is. -/
def IsBare (cs : List Char) : Prop := isName cs = true ∨ isGroup cs = true ∨ isCall cs = true

lemma operand_eq (expr : String) :
    IsBare expr.toList ∧ operand expr = expr ∨
      ¬ IsBare expr.toList ∧ operand expr = "(" ++ expr ++ ")" := by
  unfold operand IsBare
  dsimp only
  split
  · next h => exact Or.inl ⟨by simpa [or_assoc] using h, rfl⟩
  · next h => exact Or.inr ⟨by simpa [or_assoc] using h, rfl⟩

lemma IsMistaken.isBare (h : IsMistaken quotes cs) : IsBare cs := by
  cases h with
  | name hname => exact Or.inl (isName_iff.2 (Or.inl hname))
  | nameLine hname => exact Or.inl (isName_iff.2 (Or.inr ⟨_, hname, rfl⟩))
  | group hgroup => exact Or.inr (Or.inl (isGroup_iff.2 hgroup.1))
  | call hname harguments =>
    exact Or.inr (Or.inr (isCall_iff.2 ⟨_, _, hname, harguments, rfl⟩))

/-- What looks like a group is one, or goes on behind it. -/
lemma LooksLikeGroup.isSingleGroup (h : LooksLikeGroup cs) (hnested : Nested quotes cs)
    (hfalse : ¬ IsFalseGroup quotes cs) : IsSingleGroup quotes cs := by
  obtain ⟨rest, rfl⟩ := h.opens
  obtain ⟨inner, behind, hinner, rfl⟩ := hnested.exists_group
  by_cases hbehind : behind = []
  · exact ⟨inner, hinner, by rw [hbehind]⟩
  · exact absurd ⟨h, inner, behind, hinner, hbehind, rfl⟩ hfalse

/-- One group does not go on behind itself. -/
lemma IsSingleGroup.not_isFalseGroup (h : IsSingleGroup quotes cs) :
    ¬ IsFalseGroup quotes cs := by
  rintro ⟨-, inner', behind, hinner', hbehind, hcs'⟩
  obtain ⟨inner, hinner, hcs⟩ := h
  obtain ⟨-, htail⟩ := List.cons.inj (hcs.symm.trans hcs')
  exact hbehind (hinner.group_unique hinner' htail).2.symm

/-- Groups are told apart wrongly with quotes in the text only. -/
theorem IsFalseGroup.exists_quote (h : IsFalseGroup quotes cs) : ∃ q ∈ quotes, q.char ∈ cs := by
  obtain ⟨hlooks, inner, behind, hinner, hbehind, rfl⟩ := h
  by_contra! hno
  have heven := hinner.count_eq fun q hq hmem => hno q hq (by simp [hmem])
  have huneven := hlooks.open_inside ('(' :: (inner ++ [')'])) behind (by simp) (by simp) hbehind
  simp at huneven
  omega

lemma IsSingleGroup.head (h : IsSingleGroup quotes cs) : ∃ rest, cs = '(' :: rest := by
  obtain ⟨inner, -, rfl⟩ := h
  exact ⟨_, rfl⟩

/-- A name and a group behind it are told apart in one way. -/
lemma name_group_unique {name name' : List Char} (hname : LooksLikeName name)
    (hname' : LooksLikeName name') (hds : ∃ rest, ds = '(' :: rest)
    (hbs : ∃ rest, bs = '(' :: rest) (heq : name ++ ds = name' ++ bs) :
    name = name' ∧ ds = bs := by
  obtain ⟨rest, rfl⟩ := hds
  obtain ⟨rest', rfl⟩ := hbs
  obtain ⟨hsame, hrest⟩ := Text.split_unique hname.not_mem hname'.not_mem heq
  exact ⟨hsame, by rw [hrest]⟩

/-- No operand is mistaken for one. -/
lemma IsOperand.not_isMistaken (h : IsOperand quotes cs) : ¬ IsMistaken quotes cs := by
  -- what holds a parenthesis is no name, with or without a line end
  have hline : ∀ {name : List Char}, LooksLikeName name → '(' ∉ name ++ ['\n'] := by
    intro name hname hmem
    exact hname.not_mem (by simpa using hmem)
  cases h with
  | name hdotted =>
    have hname := hdotted.looksLikeName
    intro hmistaken
    cases hmistaken with
    | name _ hno => exact hno hdotted
    | nameLine => exact absurd (hname.isNameChar '\n' (by simp)) (by decide)
    | group hgroup =>
      obtain ⟨rest, rfl⟩ := hgroup.1.opens
      exact hname.not_mem (by simp)
    | call _ harguments =>
      obtain ⟨rest, rfl⟩ := harguments.opens
      exact hname.not_mem (by simp)
  | group hsingle =>
    obtain ⟨rest, hrest⟩ := hsingle.head
    intro hmistaken
    cases hmistaken with
    | name hname => exact hname.not_mem (by simp [hrest])
    | nameLine hname => exact hline hname (by simp [hrest])
    | group hgroup => exact hsingle.not_isFalseGroup hgroup
    | call hname =>
      obtain ⟨c, cs, rfl, hc, -⟩ := hname
      obtain ⟨rfl, -⟩ := List.cons.inj hrest
      exact absurd hc (by decide)
  | @call name arguments hfunction hsingle =>
    have hname := hfunction.1.looksLikeName
    obtain ⟨rest, hrest⟩ := hsingle.head
    intro hmistaken
    generalize htext : name ++ arguments = text at hmistaken
    cases hmistaken with
    | name hname' => exact hname'.not_mem (by simp [← htext, hrest])
    | nameLine hname' => exact hline hname' (by simp [← htext, hrest])
    | group hgroup =>
      obtain ⟨rest', hrest'⟩ := hgroup.1.opens
      obtain ⟨c, cs, rfl, hc, -⟩ := hname
      obtain ⟨rfl, -⟩ := List.cons.inj (htext.trans hrest')
      exact absurd hc (by decide)
    | call hname' harguments' hno =>
      obtain ⟨rfl, rfl⟩ := name_group_unique hname hname' ⟨rest, hrest⟩ harguments'.opens htext
      exact hno.elim (· hfunction) hsingle.not_isFalseGroup

/-- What is written as it is and mistaken for nothing is an operand. -/
lemma IsBare.isOperand (h : IsBare cs) (hnested : Nested quotes cs)
    (hno : ¬ IsMistaken quotes cs) : IsOperand quotes cs := by
  rcases h with h | h | h
  · rcases isName_iff.1 h with hname | ⟨name, hname, rfl⟩
    · exact .name (by_contra fun hdotted => hno (.name hname hdotted))
    · exact absurd (.nameLine hname) hno
  · exact .group ((isGroup_iff.1 h).isSingleGroup hnested fun hfalse => hno (.group hfalse))
  · obtain ⟨name, arguments, hname, harguments, rfl⟩ := isCall_iff.1 h
    have hfunction : IsFunctionName name :=
      by_contra fun hfunction => hno (.call hname harguments (Or.inl hfunction))
    have hgroup : IsSingleGroup quotes arguments :=
      harguments.isSingleGroup (hnested.of_append_plain hname.isPlain) fun hfalse =>
        hno (.call hname harguments (Or.inr hfalse))
    exact .call hfunction hgroup

lemma covers_operand_iff {expr name : String} (hnested : Nested quotes expr.toList) :
    Covers quotes expr name (operand expr ++ "::" ++ name) ↔ ¬ IsMistaken quotes expr.toList := by
  rcases operand_eq expr with ⟨hbare, heq⟩ | ⟨hbare, heq⟩
  · have hne : expr ++ "::" ++ name ≠ "(" ++ expr ++ ")::" ++ name := by
      intro heq
      have hlength := congrArg String.length heq
      simp only [String.length_append] at hlength
      have hmarks : "::".length = 2 ∧ "(".length = 1 ∧ ")::".length = 3 := by decide
      omega
    rw [heq, Covers, or_iff_right hne, and_iff_right rfl]
    exact ⟨IsOperand.not_isMistaken, hbare.isOperand hnested⟩
  · rw [heq]
    refine iff_of_true (Or.inl ?_) fun hmistaken => hbare hmistaken.isBare
    simp [String.append_assoc]

/-! ### Casts to types -/

/-- The value is a cast that writes the name of a type behind an expression: a cast to a type, or
the one to text, if the expression holds no navigation and is no text already. -/
def PutsBehind (v : Value) (expr name : String) : Prop :=
  parse v = .ok (.type name) ∨
    parse v = .ok (.kind .text) ∧ name = "text" ∧
      (∀ op ∈ [" -> ", " #> "], ¬ op.toList <:+: expr.toList) ∧
      ∀ suffix ∈ ["::text", "::text)"], ¬ suffix.toList <:+ expr.toList

lemma replaceLast?_eq_none {part replacement : List Char} (h : ¬ part <:+: cs) :
    Text.replaceLast? part replacement cs = none := by
  unfold Text.replaceLast?
  cases hcut : Text.cutLast part cs with
  | none => rfl
  | some cut =>
    obtain ⟨before, after⟩ := cut
    exact absurd ⟨before, after, (cutLast_eq_some hcut).symm⟩ h

lemma PutsBehind.apply_eq {v : Value} {expr name : String} (h : PutsBehind v expr name) :
    apply v expr = .ok (operand expr ++ "::" ++ name) := by
  rcases h with htype | ⟨htext, rfl, hops, hsuffixes⟩
  · simp [apply, htype, Except.map, applyTo]
  · have hnavigation : textNavigation? expr.toList = none := by
      rw [textNavigation?, replaceLast?_eq_none (hops " -> " (by simp)),
        replaceLast?_eq_none (hops " #> " (by simp))]
    have hsuffix : endsInText expr.toList = false := by
      have hcast := hsuffixes "::text" (by simp)
      have hgroup := hsuffixes "::text)" (by simp)
      rw [← List.isSuffixOf_iff_suffix, Bool.not_eq_true] at hcast hgroup
      rw [endsInText, hcast, hgroup]
      rfl
    simp [apply, htext, Except.map, applyTo, asText, hnavigation, hsuffix, String.append_assoc]

/-- A balanced expression stands in front of the name of the type, in parentheses or not.  The cast
reaches the whole of it, unless it is mistaken for an operand. -/
theorem apply_covers_iff {v : Value} {expr name : String} (hput : PutsBehind v expr name)
    (hnested : Nested quotes expr.toList) :
    ∃ result, apply v expr = .ok result ∧
      (result = "(" ++ expr ++ ")::" ++ name ∨ result = expr ++ "::" ++ name) ∧
      (Covers quotes expr name result ↔ ¬ IsMistaken quotes expr.toList) := by
  refine ⟨_, hput.apply_eq, ?_, covers_operand_iff hnested⟩
  rcases operand_eq expr with ⟨-, heq⟩ | ⟨-, heq⟩
  · exact Or.inr (by rw [heq])
  · exact Or.inl (by rw [heq]; simp [String.append_assoc])

/-- A call with a parenthesis in a literal is put in parentheses. -/
theorem apply_covers_lower :
    ∃ result, apply (.text "date") "lower(a || ')')" = .ok result ∧
      (result = "(" ++ "lower(a || ')')" ++ ")::" ++ "date" ∨
        result = "lower(a || ')')" ++ "::" ++ "date") ∧
      (Covers [.literal] "lower(a || ')')" "date" result ↔
        ¬ IsMistaken [.literal] "lower(a || ')')".toList) := by
  have hliteral : Nested [.literal] "')'".toList :=
    @Nested.quoted _ .literal [')'] [] (by simp) (by decide) .nil
  have harguments : Nested [.literal] "a || ')'".toList :=
    hliteral.append_plain "a || ".toList (by simp [IsPlain, Quote.char])
  exact apply_covers_iff (Or.inl rfl) ((Nested.group harguments .nil).append_plain "lower".toList
    (by simp [IsPlain, Quote.char]))

/-- Two groups with a parenthesis in a literal each are taken for one, and the cast is one of the
second group. -/
theorem twoGroups_mistaken :
    Nested [.literal] "('(') || (')')".toList ∧
      parse (.text "date") = .ok (.type "date") ∧
      apply (.text "date") "('(') || (')')" = .ok "('(') || (')')::date" ∧
      ¬ Covers [.literal] "('(') || (')')" "date" "('(') || (')')::date" := by
  have hopen : Nested [.literal] "'('".toList :=
    @Nested.quoted _ .literal ['('] [] (by simp) (by decide) .nil
  have hclose : Nested [.literal] "')'".toList :=
    @Nested.quoted _ .literal [')'] [] (by simp) (by decide) .nil
  have hbehind : Nested [.literal] " || (')')".toList :=
    (Nested.group hclose .nil).append_plain " || ".toList (by simp [IsPlain, Quote.char])
  refine ⟨.group hopen hbehind, rfl, rfl, ?_⟩
  rintro (heq | ⟨-, hoperand⟩)
  · exact absurd heq (by decide)
  · have hfalse : IsFalseGroup [.literal] "('(') || (')')".toList :=
      ⟨isGroup_iff.1 (by decide), _, _, hopen, by simp, rfl⟩
    exact hoperand.not_isMistaken (.group hfalse)

end

end Cast

end DocumentSql

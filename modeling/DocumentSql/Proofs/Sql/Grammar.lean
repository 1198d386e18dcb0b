/-
Conditions read back by the rules of SQL.

Parentheses come first, and AND binds tighter than OR.  A text is cut at the words OR, and then at
the words AND, that stand outside of parentheses and quotes; what is left is a condition in
parentheses, which is read in the same way, or an atom.  The atoms of a text are known beforehand
and taken in order: a condition that is the next atom as a whole is read as that atom, whatever
words stand in it.

A text with balanced parentheses and quotes is one group when it stands in parentheses
(`lexemes_parenthesized`).  So conditions in parentheses with one operator between them are read as
what the operator makes of their values (`Operand.isRead_join`).
-/
import DocumentSql.Sql.Predicate
import Mathlib

namespace DocumentSql

/-- What an operator makes of truth values. -/
def Predicate.Operator.eval : Predicate.Operator → List Bool → Bool
  | .and, bs => bs.all id
  | .or, bs => bs.any id

namespace Sql

open Predicate (Operator)

/-! ### Parentheses and quotes -/

/-- The quotes of SQL. -/
inductive Quote where
  /-- The quote of literals. -/
  | literal
  /-- The quote of names. -/
  | name
deriving DecidableEq

/-- The character at both ends of a quoted text. -/
def Quote.char : Quote → Char
  | literal => '\''
  | name => '"'

/-- Where a reader stands: how many parentheses are open, and in which quotes. -/
structure Level where
  /-- The number of open parentheses. -/
  depth : ℕ
  /-- The quotes around the reader, if there are any. -/
  quote : Option Quote
deriving DecidableEq

namespace Level

/-- Outside of parentheses and quotes. -/
def top : Level := ⟨0, none⟩

/-- The level behind a character. There is none behind a parenthesis that closes nothing. -/
def next (l : Level) (c : Char) : Option Level :=
  match l.quote with
  | some q => some (if c = q.char then ⟨l.depth, none⟩ else l)
  | none =>
    if c = '(' then some ⟨l.depth + 1, none⟩
    else if c = ')' then
      match l.depth with
      | 0 => none
      | d + 1 => some ⟨d, none⟩
    else if c = Quote.literal.char then some ⟨l.depth, some .literal⟩
    else if c = Quote.name.char then some ⟨l.depth, some .name⟩
    else some l

/-- The level behind a text. -/
def after (l : Level) : List Char → Option Level
  | [] => some l
  | c :: cs => (l.next c).bind fun l' => l'.after cs

lemma after_append (l : Level) (as bs : List Char) :
    l.after (as ++ bs) = (l.after as).bind fun l' => l'.after bs := by
  induction as generalizing l with
  | nil => rfl
  | cons a as ih =>
    rw [List.cons_append, after, after]
    cases l.next a with
    | none => rfl
    | some l' => exact ih l'

/-- One more parenthesis is open. -/
def deeper (l : Level) : Level := ⟨l.depth + 1, l.quote⟩

lemma next_deeper {l l' : Level} {c : Char} (h : l.next c = some l') :
    l.deeper.next c = some l'.deeper := by
  obtain ⟨d, _ | q⟩ := l
  · simp only [next, deeper] at h ⊢
    split_ifs at h ⊢ with hopen hclose
    · obtain rfl := Option.some.inj h
      rfl
    · cases d with
      -- at the top the parenthesis closes nothing, so there is no level behind it
      | zero => simp at h
      | succ d =>
        obtain rfl := Option.some.inj h
        rfl
    all_goals
      obtain rfl := Option.some.inj h
      rfl
  · obtain rfl : (if c = q.char then ⟨d, none⟩ else ⟨d, some q⟩) = l' := Option.some.inj h
    simp only [next, deeper]
    split <;> rfl

end Level

/-- The parentheses and quotes of the text are balanced. -/
def WellNested (cs : List Char) : Prop := Level.top.after cs = some .top

instance (cs : List Char) : Decidable (WellNested cs) := inferInstanceAs (Decidable (_ = _))

/-! ### Characters that open and close nothing -/

/-- The character is neither a parenthesis nor a quote. -/
def isNeutral (c : Char) : Bool := c != '(' && c != ')' && c != '\'' && c != '"'

lemma ne_of_isNeutral {c : Char} (h : isNeutral c = true) :
    c ≠ '(' ∧ c ≠ ')' ∧ c ≠ '\'' ∧ c ≠ '"' := by
  simpa [isNeutral, and_assoc] using h

lemma Level.next_neutral {c : Char} (h : isNeutral c = true) (l : Level) :
    l.next c = some l := by
  obtain ⟨hopen, hclose, hliteral, hname⟩ := ne_of_isNeutral h
  obtain ⟨d, _ | q⟩ := l
  · simp [next, hopen, hclose, hliteral, hname, Quote.char]
  · cases q <;> simp [next, hliteral, hname, Quote.char]

lemma Level.after_neutral {cs : List Char} (h : ∀ c ∈ cs, isNeutral c = true) (l : Level) :
    l.after cs = some l := by
  induction cs with
  | nil => rfl
  | cons c cs ih =>
    rw [after, next_neutral (h c List.mem_cons_self), Option.bind_some,
      ih fun d hd => h d (List.mem_cons_of_mem c hd)]

/-- Neutral characters in a text do not matter. -/
lemma Level.after_append_neutral {bs : List Char} (h : ∀ c ∈ bs, isNeutral c = true) (l : Level)
    (as cs : List Char) : l.after (as ++ bs ++ cs) = l.after (as ++ cs) := by
  rw [List.append_assoc, after_append, after_append]
  cases l.after as with
  | none => rfl
  | some l' => rw [Option.bind_some, Option.bind_some, after_append, after_neutral h,
      Option.bind_some]

lemma wellNested_of_neutral {cs : List Char} (h : ∀ c ∈ cs, isNeutral c = true) : WellNested cs :=
  Level.after_neutral h .top

/-- Neutral characters between quotes are balanced. -/
lemma wellNested_quoted {cs : List Char} (h : ∀ c ∈ cs, isNeutral c = true) :
    WellNested ('\'' :: (cs ++ ['\''])) := by
  have hinside : (⟨0, some .literal⟩ : Level).after (cs ++ ['\'']) = some .top := by
    rw [Level.after_append, Level.after_neutral h]
    rfl
  exact hinside

/-! ### WellNested texts -/

lemma WellNested.append {as bs : List Char} (ha : WellNested as) (hb : WellNested bs) :
    WellNested (as ++ bs) := by
  rw [WellNested, Level.after_append, ha]
  exact hb

/-- The text in parentheses. -/
def parenthesized (cs : List Char) : List Char := '(' :: (cs ++ [')'])

lemma after_deeper {l l' : Level} {cs : List Char} (h : l.after cs = some l') :
    l.deeper.after cs = some l'.deeper := by
  induction cs generalizing l with
  | nil =>
    obtain rfl := Option.some.inj h
    rfl
  | cons c cs ih =>
    obtain ⟨m, hm, h⟩ := Option.bind_eq_some_iff.1 h
    rw [Level.after, Level.next_deeper hm]
    exact ih h

lemma WellNested.parenthesized {cs : List Char} (h : WellNested cs) :
    WellNested (parenthesized cs) := by
  have hinner : Level.top.deeper.after (cs ++ [')']) = some .top := by
    rw [Level.after_append, after_deeper h]
    rfl
  exact hinner

/-! ### Lexemes -/

/-- What a condition consists of, outside of parentheses. -/
inductive Lexeme where
  /-- A word. -/
  | word (cs : List Char)
  /-- What stands in parentheses. -/
  | group (cs : List Char)
  /-- Any other character. -/
  | mark (c : Char)
deriving DecidableEq

namespace Lexeme

/-- A character of a word. -/
def isWordChar (c : Char) : Bool := c.isAlphanum || c == '_' || c == '$' || 128 ≤ c.toNat

/-- The text of a lexeme. -/
def chars : Lexeme → List Char
  | word cs => cs
  | group cs => parenthesized cs
  | mark c => [c]

/-- The lexeme is a blank. -/
def isBlank : Lexeme → Bool
  | mark c => c == ' ' || c == '\t' || c == '\r' || c == '\n'
  | _ => false

/-- The lexeme is the name of the operator, in any case. -/
def isOperator (op : Operator) : Lexeme → Bool
  | word cs => cs.map Char.toUpper == op.name.toList
  | _ => false

/-- One more character at the start of a word. -/
def pushWord (c : Char) : List Lexeme → List Lexeme
  | word cs :: ls => word (c :: cs) :: ls
  | ls => word [c] :: ls

/-- One more character at the start of a group. -/
def pushGroup (c : Char) : List Lexeme → List Lexeme
  | group cs :: ls => group (c :: cs) :: ls
  | ls => ls

/-- One more character at the start, between two levels. -/
def push (l l' : Level) (c : Char) (ls : List Lexeme) : List Lexeme :=
  match l.depth, l'.depth with
  | 0, 0 => if l.quote.isNone && isWordChar c then pushWord c ls else mark c :: ls
  | 0, _ + 1 => ls
  | _ + 1, 0 => group [] :: ls
  | _ + 1, _ + 1 => pushGroup c ls

end Lexeme

/-- The lexemes of a text that is balanced when it is read from a level. -/
def lexemes (l : Level) : List Char → Option (List Lexeme)
  | [] => if l = .top then some [] else none
  | c :: cs => (l.next c).bind fun l' => (lexemes l' cs).map (Lexeme.push l l' c)

lemma foldr_pushGroup (cs : List Char) (ls : List Lexeme) :
    cs.foldr Lexeme.pushGroup (.group [] :: ls) = .group cs :: ls := by
  induction cs with
  | nil => rfl
  | cons c cs ih => rw [List.foldr_cons, ih, Lexeme.pushGroup]

/-- Inside of parentheses a text adds its characters to a group. -/
lemma lexemes_deeper {l l' : Level} {cs : List Char} (h : l.after cs = some l')
    (rest : List Char) : lexemes l.deeper (cs ++ rest) =
      (lexemes l'.deeper rest).map fun ls => cs.foldr Lexeme.pushGroup ls := by
  induction cs generalizing l with
  | nil =>
    obtain rfl := Option.some.inj h
    simp
  | cons c cs ih =>
    obtain ⟨m, hm, h⟩ := Option.bind_eq_some_iff.1 h
    rw [List.cons_append, lexemes, Level.next_deeper hm, Option.bind_some, ih h, Option.map_map]
    rfl

/-- A balanced text in parentheses is a group. -/
theorem lexemes_parenthesized {cs : List Char} (h : WellNested cs) (rest : List Char) :
    lexemes .top (parenthesized cs ++ rest) =
      (lexemes .top rest).map (.group cs :: ·) := by
  have hopen : lexemes .top (parenthesized cs ++ rest) =
      lexemes Level.top.deeper (cs ++ ')' :: rest) := by
    rw [parenthesized, List.cons_append, List.append_assoc, List.singleton_append, lexemes]
    change (lexemes Level.top.deeper (cs ++ ')' :: rest)).map (fun ls => ls) = _
    exact Option.map_id'
  have hclose : lexemes Level.top.deeper (')' :: rest) =
      (lexemes .top rest).map (.group [] :: ·) := rfl
  rw [hopen, lexemes_deeper h, hclose, Option.map_map]
  simp only [Function.comp_def, foldr_pushGroup]

/-! ### Reading -/

/-- An atom: its text, and whether it is true. -/
abbrev Atom := List Char × Bool

/-- The lexemes without the blanks around them. -/
def trim (ls : List Lexeme) : List Lexeme := (ls.dropWhile Lexeme.isBlank).rdropWhile Lexeme.isBlank

/-- The lexemes cut at an operator. -/
def operands (op : Operator) (ls : List Lexeme) : List (List Lexeme) :=
  (ls.splitOnP (Lexeme.isOperator op)).map trim

/-- The value of the next atom, if the text is that atom, and the atoms behind it. -/
def takeAtom (cs : List Char) : List Atom → Option (Bool × List Atom)
  | [] => none
  | (text, value) :: atoms => if cs = text then some (value, atoms) else none

section

variable {α : Type} (read : α → List Atom → Option (Bool × List Atom))

/-- The values of what is read one behind the other, and the atoms behind all of it. -/
def readEach : List α → List Atom → Option (List Bool × List Atom)
  | [], atoms => some ([], atoms)
  | a :: as, atoms => do
    let (b, atoms) ← read a atoms
    let (bs, atoms) ← readEach as atoms
    some (b :: bs, atoms)

/-- What an operator makes of the values of what is read one behind the other. -/
def readJoined (op : Operator) (as : List α) (atoms : List Atom) : Option (Bool × List Atom) :=
  (readEach read as atoms).map fun (bs, atoms) => (op.eval bs, atoms)

end

/-- The value of an operand: it is the next atom, or a condition in parentheses. -/
def readOperand (inner : List Char → List Atom → Option (Bool × List Atom)) (ls : List Lexeme)
    (atoms : List Atom) : Option (Bool × List Atom) :=
  match takeAtom (ls.flatMap Lexeme.chars) atoms with
  | some r => some r
  | none =>
    match ls with
    | [.group cs] => inner cs atoms
    | _ => none

/-- The value of operands with AND between them. -/
def readTerm (inner : List Char → List Atom → Option (Bool × List Atom)) (ls : List Lexeme)
    (atoms : List Atom) : Option (Bool × List Atom) :=
  readJoined (readOperand inner) .and (operands .and ls) atoms

/-- The value of a condition whose parentheses are nested less deeply than a bound, and the atoms
behind those of the condition. -/
def readCondition : ℕ → List Char → List Atom → Option (Bool × List Atom)
  | 0, _, _ => none
  | n + 1, cs, atoms =>
    match takeAtom cs atoms with
    | some r => some r
    | none => (lexemes .top cs).bind fun ls =>
      readJoined (readTerm (readCondition n)) .or (operands .or ls) atoms

/-- The value of a text that consists of the atoms, and of nothing else than parentheses and
operators besides them. -/
def conditionValue (cs : List Char) (atoms : List Atom) : Option Bool :=
  match readCondition (cs.length + 1) cs atoms with
  | some (b, []) => some b
  | _ => none

example : conditionValue "a OR (b) AND c".toList
    [("a".toList, true), ("b".toList, false), ("c".toList, false)] = some true := by
  decide

/-! ### Operands with an operator between them -/

/-- The operator between operands. -/
def separator (op : Operator) : List Char := ' ' :: (op.name.toList ++ [' '])

/-- Groups with an operator between them. -/
def chained (op : Operator) (css : List (List Char)) : List Lexeme :=
  [.mark ' ', .word op.name.toList, .mark ' '].intercalate (css.map fun cs => [.group cs])

lemma chained_cons_cons (op : Operator) (cs ds : List Char) (css : List (List Char)) :
    chained op (cs :: ds :: css) =
      .group cs :: .mark ' ' :: .word op.name.toList :: .mark ' ' :: chained op (ds :: css) := by
  simp [chained, List.intercalate_cons_cons]

lemma lexemes_separator (op : Operator) (rest : List Char) :
    lexemes .top (separator op ++ rest) = (lexemes .top rest).map fun ls =>
      .mark ' ' :: .word op.name.toList :: .mark ' ' :: ls := by
  have hstep : ∀ c cs, Level.top.next c = some .top →
      lexemes .top (c :: cs) = (lexemes .top cs).map (Lexeme.push .top .top c) := fun c cs hc => by
    rw [lexemes, hc, Option.bind_some]
  cases op with
  | and =>
    rw [show separator .and ++ rest = ' ' :: 'A' :: 'N' :: 'D' :: ' ' :: rest from rfl]
    repeat rw [hstep _ _ (by decide)]
    simp only [Option.map_map]
    rfl
  | or =>
    rw [show separator .or ++ rest = ' ' :: 'O' :: 'R' :: ' ' :: rest from rfl]
    repeat rw [hstep _ _ (by decide)]
    simp only [Option.map_map]
    rfl

/-- WellNested texts in parentheses, with an operator between them, are groups with the operator
between them. -/
lemma lexemes_chain (op : Operator) {css : List (List Char)} (hcss : ∀ cs ∈ css, WellNested cs) :
    lexemes .top ((separator op).intercalate (css.map parenthesized)) = some (chained op css) := by
  induction css with
  | nil => rfl
  | cons cs css ih =>
    have hcs := hcss cs List.mem_cons_self
    cases css with
    | nil =>
      have hsingle := lexemes_parenthesized hcs []
      rw [List.append_nil] at hsingle
      simp [hsingle, chained, lexemes]
    | cons ds css =>
      rw [List.map_cons, List.map_cons, List.intercalate_cons_cons, List.append_assoc,
        lexemes_parenthesized hcs, lexemes_separator, ← List.map_cons,
        ih fun es hes => hcss es (List.mem_cons_of_mem cs hes), chained_cons_cons]
      rfl

lemma isOperator_word (op op' : Operator) :
    Lexeme.isOperator op (.word op'.name.toList) = decide (op = op') := by
  cases op <;> cases op' <;> decide

/-- Groups are cut at the operator between them. -/
lemma operands_chained (op : Operator) {css : List (List Char)} (hcss : css ≠ []) :
    operands op (chained op css) = css.map fun cs => [.group cs] := by
  induction css with
  | nil => exact absurd rfl hcss
  | cons cs css ih =>
    cases css with
    | nil => rfl
    | cons ds css =>
      have hfirst : ∀ l ∈ [.group cs, .mark ' '], Lexeme.isOperator op l = false := by
        simp [Lexeme.isOperator]
      have hword : Lexeme.isOperator op (.word op.name.toList) = true := by
        simp [isOperator_word]
      -- the group and the blank behind it end at the operator; its own blank starts the next piece
      have hcut := List.splitOnP_append_cons_of_forall_mem hfirst _ hword
        (.mark ' ' :: chained op (ds :: css))
      have hrest := ih (List.cons_ne_nil ds css)
      rw [operands] at hrest
      rw [chained_cons_cons, operands,
        show ∀ ls : List Lexeme, .group cs :: .mark ' ' :: ls = [.group cs, .mark ' '] ++ ls from
          fun ls => rfl, hcut, List.map_cons, List.splitOnP_cons_eq_if_modifyHead,
        if_neg (by simp [Lexeme.isOperator]), List.map_cons, ← hrest]
      congr 1
      cases List.splitOnP (Lexeme.isOperator op) (chained op (ds :: css)) with
      | nil => rfl
      | cons piece pieces => rfl

lemma mem_chained {op : Operator} {css : List (List Char)} {l : Lexeme}
    (h : l ∈ chained op css) : l = .mark ' ' ∨ l = .word op.name.toList ∨ ∃ cs, l = .group cs := by
  induction css with
  | nil => simp [chained] at h
  | cons cs css ih =>
    cases css with
    | nil =>
      obtain rfl : l = .group cs := by simpa [chained] using h
      exact Or.inr (Or.inr ⟨cs, rfl⟩)
    | cons ds css =>
      rw [chained_cons_cons] at h
      simp only [List.mem_cons] at h
      rcases h with rfl | rfl | rfl | rfl | h
      · exact Or.inr (Or.inr ⟨cs, rfl⟩)
      · exact Or.inl rfl
      · exact Or.inr (Or.inl rfl)
      · exact Or.inl rfl
      · exact ih h

lemma chained_eq_concat (op : Operator) {css : List (List Char)} (hcss : css ≠ []) :
    ∃ ls cs, chained op css = ls ++ [.group cs] := by
  induction css with
  | nil => exact absurd rfl hcss
  | cons cs css ih =>
    cases css with
    | nil => exact ⟨[], cs, rfl⟩
    | cons ds css =>
      obtain ⟨ls, es, hls⟩ := ih (List.cons_ne_nil ds css)
      rw [chained_cons_cons, hls]
      exact ⟨.group cs :: .mark ' ' :: .word op.name.toList :: .mark ' ' :: ls, es, rfl⟩

lemma trim_chained (op : Operator) (css : List (List Char)) :
    trim (chained op css) = chained op css := by
  cases css with
  | nil => rfl
  | cons cs css =>
    have hhead : (chained op (cs :: css)).dropWhile Lexeme.isBlank = chained op (cs :: css) := by
      cases css <;> rfl
    obtain ⟨ls, es, hls⟩ := chained_eq_concat op (List.cons_ne_nil cs css)
    rw [trim, hhead, hls, List.rdropWhile_concat_neg]
    simp [Lexeme.isBlank]

/-- Another operator cuts nothing. -/
lemma operands_chained_of_ne {op op' : Operator} (h : op' ≠ op) (css : List (List Char)) :
    operands op' (chained op css) = [chained op css] := by
  have hnone : ∀ l ∈ chained op css, Lexeme.isOperator op' l = false := by
    intro l hl
    rcases mem_chained hl with rfl | rfl | ⟨cs, rfl⟩
    · rfl
    · simp [isOperator_word, h]
    · rfl
  rw [operands, List.splitOnP_eq_singleton hnone, List.map_singleton, trim_chained]

/-- A text with the atoms that it consists of, and its value. -/
structure Operand where
  /-- The text. -/
  text : List Char
  /-- The atoms, in order. -/
  atoms : List Atom
  /-- The value. -/
  value : Bool

namespace Operand

/-- The text is balanced and begins with an atom no longer than the text, and it is read as its
value, whatever atoms follow. -/
structure IsRead (o : Operand) : Prop where
  wellNested : WellNested o.text
  first : ∃ a ∈ o.atoms.head?, a.1.length ≤ o.text.length
  read : ∀ n rest, o.text.length ≤ n →
    readCondition (n + 1) o.text (o.atoms ++ rest) = some (o.value, rest)

/-- An atom on its own. -/
def atom (cs : List Char) (b : Bool) : Operand := ⟨cs, [(cs, b)], b⟩

/-- Operands in parentheses, with an operator between them. -/
def join (op : Operator) (os : List Operand) : Operand where
  text := (separator op).intercalate (os.map fun o => parenthesized o.text)
  atoms := os.flatMap (·.atoms)
  value := op.eval (os.map (·.value))

lemma isRead_atom {cs : List Char} (h : WellNested cs) (b : Bool) : (atom cs b).IsRead where
  wellNested := h
  first := ⟨(cs, b), rfl, le_rfl⟩
  read n rest _ := by
    rw [readCondition]
    simp [atom, takeAtom]

variable {op : Operator} {o : Operand} {os : List Operand}

/-- A longer text is not the first atom. -/
lemma IsRead.takeAtom_eq_none (h : o.IsRead) {cs : List Char}
    (hlength : o.text.length < cs.length) (rest : List Atom) :
    takeAtom cs (o.atoms ++ rest) = none := by
  obtain ⟨a, ha, hbound⟩ := h.first
  cases hatoms : o.atoms with
  | nil => simp [hatoms] at ha
  | cons b atoms =>
    obtain rfl : b = a := by simpa [hatoms] using ha
    have hne : cs ≠ b.1 := by
      rintro rfl
      omega
    simp [takeAtom, hne]

lemma text_join (op : Operator) (os : List Operand) : (join op os).text =
    (separator op).intercalate (os.map fun o => parenthesized o.text) := rfl

lemma length_parenthesized (cs : List Char) : (parenthesized cs).length = cs.length + 2 := by
  simp [parenthesized]

lemma length_le_join (op : Operator) (h : o ∈ os) :
    o.text.length + 2 ≤ (join op os).text.length := by
  rw [text_join]
  induction os with
  | nil => simp at h
  | cons p os ih =>
    cases os with
    | nil =>
      obtain rfl : o = p := by simpa using h
      simp [length_parenthesized]
    | cons q os =>
      rw [List.map_cons, List.map_cons, List.intercalate_cons_cons, List.length_append,
        List.length_append, length_parenthesized]
      rcases List.mem_cons.1 h with rfl | h
      · omega
      · have hrest := ih h
        rw [List.map_cons] at hrest
        omega

lemma wellNested_join (op : Operator) (hos : ∀ o ∈ os, o.IsRead) :
    WellNested (join op os).text := by
  have hsep : WellNested (separator op) := by cases op <;> decide
  rw [text_join]
  induction os with
  | nil => exact (by decide : WellNested [])
  | cons o os ih =>
    have hfirst := (hos o List.mem_cons_self).wellNested.parenthesized
    cases os with
    | nil => simpa using hfirst
    | cons p os =>
      rw [List.map_cons, List.map_cons, List.intercalate_cons_cons]
      exact (hfirst.append hsep).append (ih fun q hq => hos q (List.mem_cons_of_mem o hq))

/-- In parentheses an operand is read in the same way. -/
lemma IsRead.readOperand (h : o.IsRead) {n : ℕ} (hn : o.text.length ≤ n) (rest : List Atom) :
    readOperand (readCondition (n + 1)) [.group o.text] (o.atoms ++ rest) =
      some (o.value, rest) := by
  have hatom : takeAtom ([.group o.text].flatMap Lexeme.chars) (o.atoms ++ rest) = none :=
    h.takeAtom_eq_none (by simp [Lexeme.chars, length_parenthesized]) rest
  rw [Sql.readOperand, hatom]
  exact h.read n rest hn

lemma readEach_map {α : Type} {read : α → List Atom → Option (Bool × List Atom)}
    {f : Operand → α}
    (h : ∀ o ∈ os, ∀ rest, read (f o) (o.atoms ++ rest) = some (o.value, rest))
    (rest : List Atom) :
    readEach read (os.map f) (os.flatMap (·.atoms) ++ rest) = some (os.map (·.value), rest) := by
  induction os with
  | nil => rfl
  | cons o os ih =>
    rw [List.map_cons, List.flatMap_cons, List.append_assoc, readEach, h o List.mem_cons_self]
    simp [ih fun p hp => h p (List.mem_cons_of_mem o hp)]

lemma eval_singleton (op : Operator) (b : Bool) : op.eval [b] = b := by
  cases op <;> simp [Operator.eval]

lemma readJoined_singleton {α : Type} (read : α → List Atom → Option (Bool × List Atom))
    (op : Operator) (a : α) (atoms : List Atom) : readJoined read op [a] atoms = read a atoms := by
  rw [readJoined, readEach]
  cases read a atoms with
  | none => rfl
  | some r => simp [readEach, eval_singleton]

lemma IsRead.readTerm (h : o.IsRead) {n : ℕ} (hn : o.text.length ≤ n) (rest : List Atom) :
    readTerm (readCondition (n + 1)) [.group o.text] (o.atoms ++ rest) = some (o.value, rest) := by
  rw [Sql.readTerm, show operands .and [.group o.text] = [[.group o.text]] from rfl,
    readJoined_singleton]
  exact h.readOperand hn rest

/-- Operands in parentheses, with one operator between them, are read as what the operator makes
of their values. -/
theorem isRead_join (op : Operator) (hos : ∀ o ∈ os, o.IsRead) (hlength : 2 ≤ os.length) :
    (join op os).IsRead := by
  have hne : os ≠ [] := by
    rintro rfl
    simp at hlength
  obtain ⟨o, os', hcons⟩ := List.exists_cons_of_ne_nil hne
  have hmem : o ∈ os := hcons ▸ List.mem_cons_self
  have hlonger := length_le_join op hmem
  have hatoms : (join op os).atoms = o.atoms ++ os'.flatMap (·.atoms) := by
    rw [join, hcons, List.flatMap_cons]
  refine ⟨wellNested_join op hos, ?_, fun n rest hn => ?_⟩
  · obtain ⟨a, ha, hbound⟩ := (hos o hmem).first
    refine ⟨a, ?_, by omega⟩
    rw [hatoms, List.head?_append, Option.mem_def.1 ha]
    rfl
  · -- the first atom is shorter, so the text is cut at its operators
    obtain ⟨m, rfl⟩ : ∃ m, n = m + 1 := ⟨n - 1, by omega⟩
    have hatom : takeAtom (join op os).text ((join op os).atoms ++ rest) = none := by
      rw [hatoms, List.append_assoc]
      exact (hos o hmem).takeAtom_eq_none (by omega) _
    have hlexemes : lexemes .top (join op os).text = some (chained op (os.map (·.text))) := by
      rw [text_join, show (fun p : Operand => parenthesized p.text) =
        parenthesized ∘ (·.text) from rfl, ← List.map_map]
      refine lexemes_chain op fun cs hcs => ?_
      obtain ⟨p, hp, rfl⟩ := List.mem_map.1 hcs
      exact (hos p hp).wellNested
    have hcut : operands op (chained op (os.map (·.text))) = os.map fun p => [.group p.text] := by
      rw [operands_chained op (by simpa using hne), List.map_map]
      rfl
    have hbound : ∀ p ∈ os, p.text.length ≤ m := fun p hp => by
      have := length_le_join op hp
      omega
    rw [readCondition, hatom]
    simp only [hlexemes, Option.bind_some]
    -- there is no OR to cut a conjunction at, while the operands of a disjunction hold no AND
    cases op with
    | and =>
      rw [operands_chained_of_ne (by decide), readJoined_singleton, Sql.readTerm, hcut, readJoined,
        join, readEach_map fun p hp => (hos p hp).readOperand (hbound p hp)]
      rfl
    | or =>
      rw [hcut, readJoined, join, readEach_map fun p hp => (hos p hp).readTerm (hbound p hp)]
      rfl

/-- What is read as an operand has its value, if nothing follows. -/
lemma IsRead.conditionValue_eq (h : o.IsRead) :
    conditionValue o.text o.atoms = some o.value := by
  have hread := h.read o.text.length [] le_rfl
  rw [List.append_nil] at hread
  rw [conditionValue, hread]

end Operand

end Sql

end DocumentSql

/-
Expressions of SQL, read from their text.

A text is cut into symbols: names and key words, literals, placeholders, operators and
parentheses.  The symbols are read by what binds them, from the tightest to the loosest: casts
behind an operand, the arrow of a navigation, the sign of equality, and the tests IS NULL and
IS TRUE; parentheses come first.

A text in parentheses is read on its own (`IsGroup`), so larger expressions are read from the
groups that they consist of (`IsGroup.enclosed`, `IsGroup.read?_append`).  A navigation is such a
group, whatever names it follows (`isGroup_navigate`).
-/
import DocumentSql.Proofs.Key.Plain

namespace DocumentSql.Sql

/-! ### Symbols -/

/-- A symbol of an expression. -/
inductive Symbol where
  /-- A name or key word. -/
  | word (cs : List Char)
  /-- A literal, without its quotes. -/
  | literal (cs : List Char)
  /-- A placeholder, by its digits. -/
  | mark (ds : List Char)
  /-- An operator. -/
  | operator (cs : List Char)
  /-- A parenthesis that opens. -/
  | opening
  /-- A parenthesis that closes. -/
  | closing
deriving DecidableEq

/-- The symbol that a reader stands in, by what was read of it. -/
inductive Pending where
  /-- None. -/
  | nothing
  /-- A name or key word. -/
  | word (cs : List Char)
  /-- A literal that is still open. -/
  | literal (cs : List Char)
  /-- A literal behind a quote: it ends here, unless one more quote follows. -/
  | quoted (cs : List Char)
  /-- A placeholder. -/
  | mark (ds : List Char)
  /-- An operator. -/
  | operator (cs : List Char)

/-- A character of an operator. -/
def isOperatorChar (c : Char) : Bool :=
  c == '-' || c == '>' || c == '#' || c == '=' || c == ':'

namespace Pending

/-- The symbol with one more character, if the character belongs to it. -/
def continued? (c : Char) : Pending → Option Pending
  | nothing => none
  | word cs => if FieldKey.isNameChar c then some (word (cs ++ [c])) else none
  | literal cs => some (if c == '\'' then quoted cs else literal (cs ++ [c]))
  | quoted cs => if c == '\'' then some (literal (cs ++ [c])) else none
  | mark ds => if c.isDigit then some (mark (ds ++ [c])) else none
  | operator cs => if isOperatorChar c then some (operator (cs ++ [c])) else none

/-- The symbol, when it ends here. An open literal does not. -/
def ended? : Pending → Option (List Symbol)
  | nothing => some []
  | word cs => some [.word cs]
  | literal _ => none
  | quoted cs => some [.literal cs]
  | mark ds => some [.mark ds]
  | operator cs => some [.operator cs]

/-- What a character begins: the symbols that it makes at once, and the one that it opens. -/
def begun? (c : Char) : Option (List Symbol × Pending) :=
  if c == ' ' then some ([], nothing)
  else if c == '(' then some ([.opening], nothing)
  else if c == ')' then some ([.closing], nothing)
  else if c == '\'' then some ([], literal [])
  else if c == '$' then some ([], mark [])
  else if isOperatorChar c then some ([], operator [c])
  else if FieldKey.isNameChar c then some ([], word [c])
  else none

/-- The symbols that are complete with one more character, and the one that the reader then
stands in. -/
def next? (p : Pending) (c : Char) : Option (List Symbol × Pending) :=
  match p.continued? c with
  | some p' => some ([], p')
  | none => p.ended?.bind fun before => (begun? c).map fun (ss, p') => (before ++ ss, p')

end Pending

/-- The symbols of a text behind what was read of one. -/
def symbolsFrom (p : Pending) : List Char → Option (List Symbol)
  | [] => p.ended?
  | c :: cs => (p.next? c).bind fun next => (symbolsFrom next.2 cs).map (next.1 ++ ·)

/-! ### Expressions -/

/-- The types of casts. -/
inductive SqlType where
  /-- Texts. -/
  | text
  /-- Decimal numbers. -/
  | numeric
  /-- Truth values. -/
  | boolean
  /-- JSON values. -/
  | jsonb
deriving DecidableEq

/-- The type that a word names. -/
def SqlType.ofWord? (cs : List Char) : Option SqlType :=
  if cs = "text".toList then some text
  else if cs = "numeric".toList then some numeric
  else if cs = "boolean".toList then some boolean
  else if cs = "jsonb".toList then some jsonb
  else none

/-- An expression. -/
inductive Expr where
  /-- A column. -/
  | column (name : List Char)
  /-- A literal. -/
  | literal (cs : List Char)
  /-- The parameter of a placeholder. -/
  | param (n : ℕ)
  /-- An expression cast to a type. -/
  | cast (e : Expr) (type : SqlType)
  /-- The member of a JSON value under a name. -/
  | member (access : Access) (e name : Expr)
  /-- What a JSON value holds along a path. -/
  | along (access : Access) (e path : Expr)
  /-- The equality of two expressions. -/
  | equal (e f : Expr)
  /-- The expression has no value. -/
  | isNull (e : Expr)
  /-- The expression is true. -/
  | isTrue (e : Expr)
deriving DecidableEq

/-- The navigation of an arrow. -/
def arrow? (cs : List Char) : Option (Expr → Expr → Expr) :=
  if cs = (Access.member .json).toList then some (.member .json)
  else if cs = (Access.member .text).toList then some (.member .text)
  else if cs = (Access.path .json).toList then some (.along .json)
  else if cs = (Access.path .text).toList then some (.along .text)
  else none

/-- An expression, and the symbols behind it. -/
abbrev Reading := Expr × List Symbol

/-- An expression with the casts behind it. -/
def readCasts? (e : Expr) : List Symbol → Option Reading
  | .operator [':', ':'] :: .word cs :: ss =>
    match SqlType.ofWord? cs with
    | some type => readCasts? (.cast e type) ss
    | none => none
  | ss => some (e, ss)

/-- An operand with the casts behind it; the reader of what stands in parentheses is given. -/
def readOperand? (inner : List Symbol → Option Reading) : List Symbol → Option Reading
  | .word cs :: ss => readCasts? (.column cs) ss
  | .literal cs :: ss => readCasts? (.literal cs) ss
  | .mark ds :: ss => readCasts? (.param (Text.digitsValue 0 ds)) ss
  | .opening :: ss =>
    match inner ss with
    | some (e, .closing :: rest) => readCasts? e rest
    | _ => none
  | _ => none

/-- An operand with the navigation behind it. -/
def readArrow? (inner : List Symbol → Option Reading) : Reading → Option Reading
  | (e, .operator cs :: rest) =>
    match arrow? cs with
    | some navigation => (readOperand? inner rest).map fun (f, rest) => (navigation e f, rest)
    | none => some (e, .operator cs :: rest)
  | (e, rest) => some (e, rest)

/-- A navigation with the equality behind it. -/
def readEquality? (inner : List Symbol → Option Reading) : Reading → Option Reading
  | (e, .operator ['='] :: rest) =>
    ((readOperand? inner rest).bind (readArrow? inner)).map fun (f, rest) => (.equal e f, rest)
  | (e, rest) => some (e, rest)

/-- An equality with the test behind it. -/
def readTest : Reading → Reading
  | (e, .word ['I', 'S'] :: .word ['N', 'U', 'L', 'L'] :: rest) => (.isNull e, rest)
  | (e, .word ['I', 'S'] :: .word ['T', 'R', 'U', 'E'] :: rest) => (.isTrue e, rest)
  | (e, rest) => (e, rest)

/-- An operand with all that stands behind it. -/
def readBehind? (inner : List Symbol → Option Reading) (first : Option Reading) : Option Reading :=
  ((first.bind (readArrow? inner)).bind (readEquality? inner)).map readTest

/-- An expression at the start of the symbols, with parentheses up to a depth. -/
def readExpr? : ℕ → List Symbol → Option Reading
  | 0, _ => none
  | depth + 1, ss => readBehind? (readExpr? depth) (readOperand? (readExpr? depth) ss)

/-- The expression that a text is. There are no more pairs of parentheses than symbols. -/
def Expr.read? (s : String) : Option Expr :=
  match symbolsFrom .nothing s.toList with
  | some ss =>
    match readExpr? (ss.length + 1) ss with
    | some (e, []) => some e
    | _ => none
  | none => none

/-! ### Symbols of texts with names in them -/

section

variable {p p' : Pending} {before ss : List Symbol} {c : Char} {cs : List Char}

lemma symbolsFrom_continued (h : p.continued? c = some p') (cs : List Char) :
    symbolsFrom p (c :: cs) = symbolsFrom p' cs := by
  simp [symbolsFrom, Pending.next?, h]

lemma symbolsFrom_begun (h : Pending.begun? c = some (ss, p')) (cs : List Char) :
    symbolsFrom .nothing (c :: cs) = (symbolsFrom p' cs).map (ss ++ ·) := by
  simp [symbolsFrom, Pending.next?, Pending.continued?, Pending.ended?, h]

/-- A symbol that ends in front of a character stands before all that the character begins. -/
lemma symbolsFrom_ended (h : p.continued? c = none) (hended : p.ended? = some before)
    (cs : List Char) :
    symbolsFrom p (c :: cs) = (symbolsFrom .nothing (c :: cs)).map (before ++ ·) := by
  have hnothing : Pending.nothing.continued? c = none := rfl
  rw [symbolsFrom, symbolsFrom, Pending.next?, Pending.next?, h, hended, hnothing]
  cases hbegun : Pending.begun? c with
  | none => simp [Pending.ended?]
  | some begun => cases hrest : symbolsFrom begun.2 cs <;> simp [Pending.ended?, hrest]

/-- Characters that belong to the symbol that a reader stands in are read into it. -/
lemma symbolsFrom_run {kind : List Char → Pending}
    (h : ∀ c ∈ cs, ∀ read, (kind read).continued? c = some (kind (read ++ [c])))
    (read rest : List Char) :
    symbolsFrom (kind read) (cs ++ rest) = symbolsFrom (kind (read ++ cs)) rest := by
  induction cs generalizing read with
  | nil => simp
  | cons c cs ih =>
    rw [List.cons_append, symbolsFrom_continued (h c List.mem_cons_self read),
      ih fun d hd => h d (List.mem_cons_of_mem c hd), List.append_assoc, List.singleton_append]

/-- A symbol that its first character begins, and what stands behind it. -/
lemma symbolsFrom_symbol {kind : List Char → Pending} {d : Char}
    (hbegun : Pending.begun? c = some ([], kind [c]))
    (h : ∀ c ∈ cs, ∀ read, (kind read).continued? c = some (kind (read ++ [c])))
    (hlast : (kind (c :: cs)).continued? d = none)
    (hended : (kind (c :: cs)).ended? = some before) (rest : List Char) :
    symbolsFrom .nothing (c :: (cs ++ d :: rest)) =
      (symbolsFrom .nothing (d :: rest)).map (before ++ ·) := by
  rw [symbolsFrom_begun hbegun, symbolsFrom_run h, List.singleton_append,
    symbolsFrom_ended hlast hended, Option.map_map]
  rfl

/-- A character of a name begins a word. -/
lemma begun?_of_isNameChar (h : FieldKey.isNameChar c = true) :
    Pending.begun? c = some ([], .word [c]) := by
  have hne : ∀ d, FieldKey.isNameChar d = false → c ≠ d := by
    rintro d hd rfl
    simp [h] at hd
  have hoperator : isOperatorChar c = false := by
    simp [isOperatorChar, hne '-' (by decide), hne '>' (by decide), hne '#' (by decide),
      hne '=' (by decide), hne ':' (by decide)]
  simp [Pending.begun?, hne ' ' (by decide), hne '(' (by decide), hne ')' (by decide),
    hne '\'' (by decide), hne '$' (by decide), hoperator, h]

/-- A name with a blank behind it is one word. -/
lemma symbolsFrom_name (hne : cs ≠ []) (h : ∀ c ∈ cs, FieldKey.isNameChar c = true)
    (rest : List Char) : symbolsFrom .nothing (cs ++ ' ' :: rest) =
      (symbolsFrom .nothing (' ' :: rest)).map (.word cs :: ·) := by
  obtain ⟨c, ds, rfl⟩ := List.exists_cons_of_ne_nil hne
  exact symbolsFrom_symbol (begun?_of_isNameChar (h c List.mem_cons_self))
    (fun d hd read => if_pos (h d (List.mem_cons_of_mem c hd))) rfl rfl rest

lemma begun?_of_isOperatorChar (h : isOperatorChar c = true) :
    Pending.begun? c = some ([], .operator [c]) := by
  simp only [isOperatorChar, Bool.or_eq_true, beq_iff_eq] at h
  rcases h with (((rfl | rfl) | rfl) | rfl) | rfl <;> rfl

/-- Characters of operators with a blank behind them are one operator. -/
lemma symbolsFrom_operator (hne : cs ≠ []) (h : ∀ c ∈ cs, isOperatorChar c = true)
    (rest : List Char) : symbolsFrom .nothing (cs ++ ' ' :: rest) =
      (symbolsFrom .nothing (' ' :: rest)).map (.operator cs :: ·) := by
  obtain ⟨c, ds, rfl⟩ := List.exists_cons_of_ne_nil hne
  exact symbolsFrom_symbol (begun?_of_isOperatorChar (h c List.mem_cons_self))
    (fun d hd read => if_pos (h d (List.mem_cons_of_mem c hd))) rfl rfl rest

/-- A text without quotes is one literal in quotes. -/
lemma symbolsFrom_quoted (h : '\'' ∉ cs) {rest : List Char} (hrest : rest.head? ≠ some '\'') :
    symbolsFrom .nothing ('\'' :: (cs ++ '\'' :: rest)) =
      (symbolsFrom .nothing rest).map (.literal cs :: ·) := by
  have hrun : ∀ c ∈ cs, ∀ read,
      Pending.continued? c (.literal read) = some (.literal (read ++ [c])) := by
    intro c hc read
    have hne : c ≠ '\'' := fun heq => h (heq ▸ hc)
    simp [Pending.continued?, hne]
  have hbegun : Pending.begun? '\'' = some ([], .literal []) := rfl
  have hclosed : Pending.continued? '\'' (.literal cs) = some (.quoted cs) := rfl
  have hended : symbolsFrom (.quoted cs) rest =
      (symbolsFrom .nothing rest).map ([.literal cs] ++ ·) := by
    cases rest with
    | nil => rfl
    | cons d ds =>
      have hd : d ≠ '\'' := by simpa using hrest
      exact symbolsFrom_ended (by simp [Pending.continued?, hd]) rfl ds
  rw [symbolsFrom_begun hbegun, symbolsFrom_run hrun, List.nil_append,
    symbolsFrom_continued hclosed, hended, Option.map_map]
  rfl

lemma next?_closing (h : p.next? ')' = some (before, p')) : p' = .nothing ∨ p'.ended? = none := by
  cases p with
  | literal read =>
    obtain ⟨-, rfl⟩ := Prod.mk.inj (Option.some.inj h)
    exact Or.inr rfl
  | _ =>
    obtain ⟨-, rfl⟩ := Prod.mk.inj (Option.some.inj h)
    exact Or.inl rfl

/-- A parenthesis that closes ends every symbol but an open literal. -/
lemma symbolsFrom_closing (h : symbolsFrom p (cs ++ [')']) = some ss) (rest : List Char) :
    symbolsFrom p (cs ++ ')' :: rest) = (symbolsFrom .nothing rest).map (ss ++ ·) := by
  induction cs generalizing p ss with
  | nil =>
    rw [List.nil_append, symbolsFrom] at h ⊢
    obtain ⟨⟨before, p'⟩, hnext, hss⟩ := Option.bind_eq_some_iff.1 h
    obtain ⟨after, hafter, rfl⟩ := Option.map_eq_some_iff.1 hss
    rw [symbolsFrom] at hafter
    rcases next?_closing hnext with rfl | hopen
    · obtain rfl : [] = after := Option.some.inj hafter
      rw [hnext]
      simp
    · simp [hopen] at hafter
  | cons c cs ih =>
    rw [List.cons_append, symbolsFrom] at h ⊢
    obtain ⟨⟨before, p'⟩, hnext, hss⟩ := Option.bind_eq_some_iff.1 h
    obtain ⟨after, hafter, rfl⟩ := Option.map_eq_some_iff.1 hss
    rw [hnext, Option.bind_some, ih hafter, Option.map_map]
    simp [Function.comp_def]

end

/-! ### Groups in parentheses -/

/-- The text is an expression in parentheses: its symbols do not depend on what stands behind it,
and those between the parentheses are read as the expression. -/
def IsGroup (s : String) (e : Expr) : Prop :=
  ∃ cs ss, s.toList = cs ++ [')'] ∧
    symbolsFrom .nothing s.toList = some (.opening :: (ss ++ [.closing])) ∧
    ∀ depth rest, ss.length < depth →
      readExpr? depth (ss ++ .closing :: rest) = some (e, .closing :: rest)

lemma readExpr?_opening {e : Expr} {depth : ℕ} {ss rest : List Symbol}
    (h : readExpr? depth ss = some (e, .closing :: rest)) :
    readExpr? (depth + 1) (.opening :: ss) = readBehind? (readExpr? depth) (readCasts? e rest) := by
  rw [readExpr?, readOperand?, h]

/-- A group with more behind it, in parentheses. -/
lemma IsGroup.enclosed {s : String} {e f : Expr} (h : IsGroup s e) (t : String)
    (ts : List Symbol) (ht : symbolsFrom .nothing (t.toList ++ [')']) = some (ts ++ [.closing]))
    (hread : ∀ inner rest, readBehind? inner (readCasts? e (ts ++ .closing :: rest)) =
      some (f, .closing :: rest)) : IsGroup ("(" ++ s ++ t ++ ")") f := by
  obtain ⟨cs, ss, hcs, hss, he⟩ := h
  have hopening : Pending.begun? '(' = some ([.opening], .nothing) := rfl
  refine ⟨'(' :: (s.toList ++ t.toList), .opening :: (ss ++ .closing :: ts), by simp, ?_, ?_⟩
  · have hlist : ("(" ++ s ++ t ++ ")").toList = '(' :: (cs ++ ')' :: (t.toList ++ [')'])) := by
      simp [hcs]
    rw [hcs] at hss
    rw [hlist, symbolsFrom_begun hopening, symbolsFrom_closing hss, ht]
    simp
  · intro depth rest hdepth
    obtain ⟨depth, rfl⟩ := Nat.exists_eq_succ_of_ne_zero (by omega : depth ≠ 0)
    simp only [List.length_cons, List.length_append] at hdepth
    rw [List.cons_append, List.append_assoc, List.cons_append,
      readExpr?_opening (he depth _ (by omega))]
    exact hread _ _

/-- A group with more behind it. -/
lemma IsGroup.read?_append {s : String} {e f : Expr} (h : IsGroup s e) {t : String}
    {ts : List Symbol} (ht : symbolsFrom .nothing t.toList = some ts)
    (hread : ∀ inner, readBehind? inner (readCasts? e ts) = some (f, [])) :
    Expr.read? (s ++ t) = some f := by
  obtain ⟨cs, ss, hcs, hss, he⟩ := h
  have hsymbols : symbolsFrom .nothing (s ++ t).toList =
      some (.opening :: (ss ++ .closing :: ts)) := by
    rw [hcs] at hss
    rw [String.toList_append, hcs, List.append_assoc, List.singleton_append,
      symbolsFrom_closing hss, ht]
    simp
  have hdepth : ss.length < (.opening :: (ss ++ .closing :: ts) : List Symbol).length := by
    simp only [List.length_cons, List.length_append]
    omega
  simp only [Expr.read?, hsymbols]
  rw [readExpr?_opening (he _ ts hdepth), hread]

/-! ### Navigations -/

/-- A column, an arrow and a literal with more behind it, in parentheses. -/
lemma isGroup_navigation {container op literal : String} (hcontainer : IsPlainName container)
    (hop : op.toList ≠ [] ∧ ∀ c ∈ op.toList, isOperatorChar c = true)
    (hliteral : '\'' ∉ literal.toList) (t : String) (ts : List Symbol) {e : Expr}
    (hhead : (t.toList ++ [')']).head? ≠ some '\'')
    (ht : symbolsFrom .nothing (t.toList ++ [')']) = some (ts ++ [.closing]))
    (hread : ∀ inner rest, readBehind? inner (readOperand? inner (.word container.toList ::
      .operator op.toList :: .literal literal.toList :: (ts ++ .closing :: rest))) =
        some (e, .closing :: rest)) :
    IsGroup ("(" ++ container ++ " " ++ op ++ " '" ++ literal ++ "'" ++ t ++ ")") e := by
  have hne : container.toList ≠ [] := by
    intro hnil
    simp [IsPlainName, hnil, isPlainName] at hcontainer
  have hopening : Pending.begun? '(' = some ([.opening], .nothing) := rfl
  have hblank : Pending.begun? ' ' = some ([], .nothing) := rfl
  refine ⟨("(" ++ container ++ " " ++ op ++ " '" ++ literal ++ "'" ++ t).toList,
    .word container.toList :: .operator op.toList :: .literal literal.toList :: ts,
    by simp, ?_, ?_⟩
  · have hlist : ("(" ++ container ++ " " ++ op ++ " '" ++ literal ++ "'" ++ t ++ ")").toList =
        '(' :: (container.toList ++ ' ' :: (op.toList ++ ' ' :: '\'' ::
          (literal.toList ++ '\'' :: (t.toList ++ [')'])))) := by
      simp
    rw [hlist, symbolsFrom_begun hopening, symbolsFrom_name hne hcontainer.isNameChar,
      symbolsFrom_begun hblank, symbolsFrom_operator hop.1 hop.2, symbolsFrom_begun hblank,
      symbolsFrom_quoted hliteral hhead, ht]
    rfl
  · intro depth rest hdepth
    obtain ⟨depth, rfl⟩ := Nat.exists_eq_succ_of_ne_zero (by omega : depth ≠ 0)
    exact hread (readExpr? depth) rest

/-- The expression that a navigation from a column is. -/
def Expr.navigation (container : String) (access : Access) : List String → Expr
  | [name] => .member access (.column container.toList) (.cast (.literal name.toList) .text)
  | path => .along access (.column container.toList)
      (.literal ("\x7b" ++ String.intercalate "," path ++ "\x7d").toList)

lemma isOperatorChar_access (access : Access) :
    (access.member.toList ≠ [] ∧ ∀ c ∈ access.member.toList, isOperatorChar c = true) ∧
      access.path.toList ≠ [] ∧ ∀ c ∈ access.path.toList, isOperatorChar c = true := by
  cases access <;> simp [Access.member, Access.path, isOperatorChar]

/-- A navigation from a column is read as such, whatever names its path has. -/
theorem isGroup_navigate {container : String} (hcontainer : IsPlainName container)
    (access : Access) {path : List String} (hpath : ∀ part ∈ path, Inert part) :
    IsGroup (navigate container access path) (.navigation container access path) := by
  obtain ⟨hmember, hfollow⟩ := isOperatorChar_access access
  have halong : IsGroup ("(" ++ container ++ " " ++ access.path ++ " '\x7b" ++
      String.intercalate "," path ++ "\x7d')") (.along access (.column container.toList)
        (.literal ("\x7b" ++ String.intercalate "," path ++ "\x7d").toList)) := by
    have hnames := ((by decide : Inert ",").intercalate hpath).no_quote
    generalize String.intercalate "," path = names at hnames ⊢
    have hliteral : '\'' ∉ ("\x7b" ++ names ++ "\x7d").toList := by simp [hnames]
    have htext : "(" ++ container ++ " " ++ access.path ++ " '\x7b" ++ names ++ "\x7d')" =
        "(" ++ container ++ " " ++ access.path ++ " '" ++ ("\x7b" ++ names ++ "\x7d") ++ "'" ++
          "" ++ ")" := by
      rw [← String.toList_inj]
      simp
    rw [htext]
    exact isGroup_navigation hcontainer hfollow hliteral "" [] (by decide) rfl
      fun _ _ => by cases access <;> rfl
  rcases path with _ | ⟨name, _ | ⟨second, path⟩⟩
  · exact halong
  · have htext : navigate container access [name] =
        "(" ++ container ++ " " ++ access.member ++ " '" ++ name ++ "'" ++ "::text" ++ ")" := by
      rw [← String.toList_inj]
      simp [navigate]
    rw [htext]
    exact isGroup_navigation hcontainer hmember (hpath name (by simp)).no_quote "::text"
      [.operator [':', ':'], .word ['t', 'e', 'x', 't']] (by decide) rfl
      fun _ _ => by cases access <;> rfl
  · exact halong

example : Expr.read? "((content -> 'age'::text))::jsonb = $1::jsonb" = some (.equal
    (.cast (.navigation "content" .json ["age"]) .jsonb) (.cast (.param 1) .jsonb)) := by
  rfl

end DocumentSql.Sql

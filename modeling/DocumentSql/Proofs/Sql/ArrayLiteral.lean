/-
Array literals of SQL.

The text of an array of texts has the elements in braces, with commas between them.  An element
stands in quotes, or as it is: then the blanks around it are dropped, and the word NULL, in capitals
or not, is no text but nothing.  Behind a backslash any character stands for itself.  Arrays of
arrays are not read.

An element without characters of such a meaning is read up to the blanks behind it (`IsBare`), and
a list of such elements is read element by element (`array?_intercalate`).
-/
import Mathlib

namespace DocumentSql.Sql

/-! ### The reader -/

/-- A blank of an array literal. -/
def isArrayBlank (c : Char) : Bool :=
  c == ' ' || c == '\t' || c == '\n' || c == '\r' || c == '\x0b' || c == '\x0c'

/-- A character that separates or encloses elements. -/
def isArrayDelimiter (c : Char) : Bool := c == ',' || c == '\x7b' || c == '\x7d'

/-- The word NULL, in capitals or not. -/
def isNullWord (cs : List Char) : Bool := cs.map Char.toLower == ['n', 'u', 'l', 'l']

/-- The element that a reader stands in, by what was read of it. -/
inductive Element where
  /-- None. -/
  | nothing
  /-- An element without quotes. The blanks behind it belong to it if more follows. -/
  | bare (cs blanks : List Char) (escaped : Bool)
  /-- An element without quotes, behind a backslash. -/
  | bareEscape (cs : List Char)
  /-- An element in quotes that is still open. -/
  | quoted (cs : List Char)
  /-- An element in quotes, behind a backslash. -/
  | quotedEscape (cs : List Char)
  /-- An element whose quotes are closed. -/
  | closed (cs : List Char)

namespace Element

/-- The element with one more character, if the character belongs to it. -/
def continued? (c : Char) : Element → Option Element
  | nothing =>
    if isArrayBlank c then some nothing
    else if c == '"' then some (quoted [])
    else if c == '\\' then some (bareEscape [])
    else if isArrayDelimiter c then none
    else some (bare [c] [] false)
  | bare cs blanks escaped =>
    if isArrayBlank c then some (bare cs (blanks ++ [c]) escaped)
    else if c == '\\' then some (bareEscape (cs ++ blanks))
    else if isArrayDelimiter c || c == '"' then none
    else some (bare (cs ++ blanks ++ [c]) [] escaped)
  | bareEscape cs => some (bare (cs ++ [c]) [] true)
  | quoted cs =>
    if c == '"' then some (closed cs)
    else if c == '\\' then some (quotedEscape cs)
    else some (quoted (cs ++ [c]))
  | quotedEscape cs => some (quoted (cs ++ [c]))
  | closed cs => if isArrayBlank c then some (closed cs) else none

/-- The element, when it ends here: a text or nothing. -/
def ended? : Element → Option (Option (List Char))
  | bare cs _ escaped => some (if !escaped && isNullWord cs then none else some cs)
  | closed cs => some (some cs)
  | _ => none

end Element

/-- The elements up to the end of the literal, behind what was read of one. -/
def elementsFrom? (e : Element) : List Char → Option (List (Option (List Char)))
  | [] => none
  | c :: cs =>
    match e.continued? c with
    | some e' => elementsFrom? e' cs
    | none => e.ended?.bind fun x =>
      if c == ',' then (elementsFrom? .nothing cs).map (x :: ·)
      else if c == '\x7d' && cs.all isArrayBlank then some [x]
      else none

/-- The elements of an array literal. -/
def array? (cs : List Char) : Option (List (Option (List Char))) :=
  match cs.dropWhile isArrayBlank with
  | '\x7b' :: cs =>
    match cs.dropWhile isArrayBlank with
    | '\x7d' :: rest => if rest.all isArrayBlank then some [] else none
    | _ => elementsFrom? .nothing cs
  | _ => none

/-! ### Elements without quotes -/

/-- A character that stands for itself in an element without quotes. -/
def isBareChar (c : Char) : Bool :=
  !isArrayBlank c && !isArrayDelimiter c && c != '"' && c != '\\'

/-- What a text without quotes stands for as an element. -/
def bareElement (cs : List Char) : Option (List Char) := if isNullWord cs then none else some cs

lemma bareElement_eq_some_iff {cs ds : List Char} :
    bareElement cs = some ds ↔ isNullWord cs = false ∧ cs = ds := by
  unfold bareElement
  cases isNullWord cs <;> simp

/-- Different texts are different elements, but for the word NULL. -/
lemma bareElement_eq_iff {cs ds : List Char} : bareElement cs = bareElement ds ↔
    cs = ds ∨ isNullWord cs = true ∧ isNullWord ds = true := by
  unfold bareElement
  by_cases hcs : isNullWord cs = true
  · by_cases hds : isNullWord ds = true
    · simp [hcs, hds]
    · have hne : cs ≠ ds := fun heq => hds (heq ▸ hcs)
      simp [hcs, hds, hne]
  · simp only [hcs, Bool.false_eq_true, if_false, false_and, or_false]
    split
    · next hds => simp only [reduceCtorEq, false_iff]; exact fun heq => hcs (heq ▸ hds)
    · exact Option.some_inj

/-- The text is an element without quotes that may have blanks behind it. -/
def IsBare (part : List Char) (x : Option (List Char)) : Prop :=
  ∃ cs blanks, part = cs ++ blanks ∧ cs ≠ [] ∧ (∀ c ∈ cs, isBareChar c = true) ∧
    (∀ c ∈ blanks, isArrayBlank c = true) ∧ x = bareElement cs

section

variable {c : Char} {cs blanks read : List Char} {escaped : Bool}

lemma isBareChar_iff : isBareChar c = true ↔
    isArrayBlank c = false ∧ isArrayDelimiter c = false ∧ c ≠ '"' ∧ c ≠ '\\' := by
  simp [isBareChar, and_assoc]

lemma continued?_nothing (h : isBareChar c = true) :
    Element.nothing.continued? c = some (.bare [c] [] false) := by
  obtain ⟨hblank, hdelimiter, hquote, hslash⟩ := isBareChar_iff.1 h
  simp [Element.continued?, hblank, hdelimiter, hquote, hslash]

lemma continued?_bare (h : isBareChar c = true) :
    (Element.bare cs blanks escaped).continued? c =
      some (.bare (cs ++ blanks ++ [c]) [] escaped) := by
  obtain ⟨hblank, hdelimiter, hquote, hslash⟩ := isBareChar_iff.1 h
  simp [Element.continued?, hblank, hdelimiter, hquote, hslash]

lemma elementsFrom?_continued {e e' : Element} (h : e.continued? c = some e') (cs : List Char) :
    elementsFrom? e (c :: cs) = elementsFrom? e' cs := by
  rw [elementsFrom?, h]

lemma elementsFrom?_run (h : ∀ c ∈ cs, isBareChar c = true) (read rest : List Char) :
    elementsFrom? (.bare read [] escaped) (cs ++ rest) =
      elementsFrom? (.bare (read ++ cs) [] escaped) rest := by
  induction cs generalizing read with
  | nil => simp
  | cons c cs ih =>
    rw [List.cons_append, elementsFrom?_continued (continued?_bare (h c List.mem_cons_self)),
      ih fun d hd => h d (List.mem_cons_of_mem c hd)]
    simp

lemma elementsFrom?_blanks (h : ∀ c ∈ cs, isArrayBlank c = true) (blanks rest : List Char) :
    elementsFrom? (.bare read blanks escaped) (cs ++ rest) =
      elementsFrom? (.bare read (blanks ++ cs) escaped) rest := by
  induction cs generalizing blanks with
  | nil => simp
  | cons c cs ih =>
    have hblank : (Element.bare read blanks escaped).continued? c =
        some (.bare read (blanks ++ [c]) escaped) := by
      simp [Element.continued?, h c List.mem_cons_self]
    rw [List.cons_append, elementsFrom?_continued hblank,
      ih fun d hd => h d (List.mem_cons_of_mem c hd)]
    simp

/-- An element without quotes is read up to the delimiter behind it. -/
lemma elementsFrom?_isBare {part : List Char} {x : Option (List Char)} (h : IsBare part x)
    (hc : isArrayDelimiter c = true) (rest : List Char) :
    ∃ e, elementsFrom? .nothing (part ++ c :: rest) = elementsFrom? e (c :: rest) ∧
      e.continued? c = none ∧ e.ended? = some x := by
  obtain ⟨cs, blanks, rfl, hne, hcs, hblanks, rfl⟩ := h
  obtain ⟨d, ds, rfl⟩ := List.exists_cons_of_ne_nil hne
  refine ⟨.bare (d :: ds) blanks false, ?_, ?_, by simp [Element.ended?, bareElement]⟩
  · rw [List.append_assoc, List.cons_append,
      elementsFrom?_continued (continued?_nothing (hcs d List.mem_cons_self)),
      elementsFrom?_run fun c hc => hcs c (List.mem_cons_of_mem d hc),
      elementsFrom?_blanks hblanks]
    rfl
  · have hplain : isArrayBlank c = false ∧ c ≠ '\\' := by
      simp only [isArrayDelimiter, Bool.or_eq_true, beq_iff_eq] at hc
      rcases hc with (rfl | rfl) | rfl <;> decide
    simp [Element.continued?, hplain, hc]

/-- The elements are read one by one: each ends at the comma behind it, and the last one at the
brace. -/
lemma elementsFrom?_intercalate {parts : List (List Char)} {xs : List (Option (List Char))}
    (hne : parts ≠ []) (h : List.Forall₂ IsBare parts xs) :
    elementsFrom? .nothing (List.intercalate [','] parts ++ ['\x7d']) = some xs := by
  induction h with
  | nil => exact absurd rfl hne
  | @cons part x parts xs hpart hparts ih =>
    cases hparts with
    | nil =>
      obtain ⟨e, hread, hcontinued, hended⟩ :=
        elementsFrom?_isBare hpart (by decide : isArrayDelimiter '\x7d' = true) []
      rw [List.intercalate_singleton, hread, elementsFrom?, hcontinued, hended]
      rfl
    | cons hnext hrest =>
      obtain ⟨e, hread, hcontinued, hended⟩ :=
        elementsFrom?_isBare hpart (by decide : isArrayDelimiter ',' = true)
          (List.intercalate [','] (_ :: _) ++ ['\x7d'])
      rw [List.intercalate_cons_cons, List.append_assoc, List.append_assoc, List.singleton_append,
        hread, elementsFrom?, hcontinued, hended]
      simp only [Option.bind_some, beq_self_eq_true, if_true]
      rw [ih (by simp)]
      rfl

lemma array?_cons (h : isBareChar c = true) (cs : List Char) :
    array? ('\x7b' :: c :: cs) = elementsFrom? .nothing (c :: cs) := by
  obtain ⟨hblank, hdelimiter, -⟩ := isBareChar_iff.1 h
  have hbrace : c ≠ '\x7d' := by
    rintro rfl
    simp [isArrayDelimiter] at hdelimiter
  have hopen : List.dropWhile isArrayBlank ('\x7b' :: c :: cs) = '\x7b' :: c :: cs := rfl
  have hfirst : List.dropWhile isArrayBlank (c :: cs) = c :: cs := by simp [hblank]
  rw [array?, hopen]
  simp only [hfirst]
  split
  · next heq => exact absurd (List.cons.inj heq).1 hbrace
  · rfl

/-- A list of elements without quotes is read back. -/
theorem array?_intercalate {parts : List (List Char)} {xs : List (Option (List Char))}
    (hne : parts ≠ []) (h : List.Forall₂ IsBare parts xs) :
    array? ('\x7b' :: (List.intercalate [','] parts ++ ['\x7d'])) = some xs := by
  have hread := elementsFrom?_intercalate hne h
  obtain ⟨c, cs, hcs, hc⟩ :
      ∃ c cs, List.intercalate [','] parts = c :: cs ∧ isBareChar c = true := by
    cases h with
    | nil => exact absurd rfl hne
    | @cons part x parts xs hpart _ =>
      obtain ⟨ds, blanks, rfl, hds, hbare, -⟩ := hpart
      obtain ⟨c, ds, rfl⟩ := List.exists_cons_of_ne_nil hds
      cases parts with
      | nil => exact ⟨c, ds ++ blanks, by simp, hbare c List.mem_cons_self⟩
      | cons _ _ =>
        rw [List.intercalate_cons_cons]
        exact ⟨c, _, rfl, hbare c List.mem_cons_self⟩
  rw [hcs, List.cons_append] at hread ⊢
  rw [array?_cons hc, hread]

end

example : array? "\x7b a ,\"b,\\\"c\",nUll, \"NULL\"\x7d".toList =
    some [some ['a'], some ['b', ',', '"', 'c'], none, some ['N', 'U', 'L', 'L']] := by
  rfl

end DocumentSql.Sql

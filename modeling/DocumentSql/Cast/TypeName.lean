/-
Names of SQL types, as callers give them for a cast.

A name is one or several words, with a size in parentheses and a pair of brackets for an array
where wanted. Letters count without regard to case, which lets a few letters beyond ASCII pass,
and digits of a size may be of any script.
-/
import DocumentSql.Text.Case
import DocumentSql.Text.Digit
import DocumentSql.Text.Cut

namespace DocumentSql.TypeName

/-- A character that may begin the name. -/
def isStart (c : Char) : Bool := Text.isLatinAnyCase c || c == '_'

/-- A character of a word. -/
def isWordChar (c : Char) : Bool := isStart c || c.isDigit

/-- The text is one or several words with single blanks between them, the first of which begins
with no digit. -/
def areWords (cs : List Char) : Bool :=
  (Text.splitAll ' ' cs).all (fun w => !w.isEmpty) &&
    match cs with
    | [] => false
    | c :: _ => isStart c

/-- The text behind digits at its start. -/
def afterDigits? (cs : List Char) : Option (List Char) :=
  if (cs.takeWhile Text.isDigit).isEmpty then none else some (cs.dropWhile Text.isDigit)

/-- The text without a blank at its start. -/
def dropBlank : List Char → List Char
  | ' ' :: cs => cs
  | cs => cs

/-- The text behind a size: one or two numbers in parentheses. -/
def afterSize? (cs : List Char) : Option (List Char) := do
  let cs ← Text.after? ['('] cs
  let cs ← afterDigits? cs
  let cs ← match Text.after? [','] cs with
    | some more => afterDigits? (dropBlank more)
    | none => some cs
  Text.after? [')'] cs

/-- The text is the name of a type. -/
def isValid (cs : List Char) : Bool :=
  let inWords (c : Char) : Bool := isWordChar c || c == ' '
  let rest := cs.dropWhile inWords
  let tail := (afterSize? rest).getD rest
  areWords (cs.takeWhile inWords) && (tail.isEmpty || tail == ['[', ']'])

end DocumentSql.TypeName

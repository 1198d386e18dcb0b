/-
Placeholders in SQL texts.

A placeholder is a dollar sign, bare or with a number, that no word character follows; one that
stands inside a quoted literal does not count. A literal runs from a quote to the next single
quote, two quotes standing for one inside it; when it is not closed that way it ends at the
first quote of its last pair, and without a pair the quote is an ordinary character.

`tokens` reads a text into its placeholders and the characters around them. Numbering, and
any other way to write the placeholders, are functions on this reading.
-/
import DocumentSql.Text.Digit
import DocumentSql.Text.Word

namespace DocumentSql.Sql

/-- A part of an SQL text. -/
inductive Token where
  /-- A character outside every placeholder. -/
  | plain (c : Char)
  /-- A placeholder with the digits of its number. -/
  | mark (digits : List Char)
deriving DecidableEq

namespace Token

/-- The part is a placeholder. -/
def isMark : Token → Bool
  | plain _ => false
  | mark _ => true

/-- The characters of the part. -/
def chars : Token → List Char
  | plain c => [c]
  | mark digits => '$' :: digits

end Token

/-- The rest of a literal behind its opening quote, up to and with its closing quote. -/
def literalRest? : List Char → Option (List Char)
  | [] => none
  | '\'' :: '\'' :: cs =>
    match literalRest? cs with
    | some rest => some ('\'' :: '\'' :: rest)
    | none => some ['\'']
  | '\'' :: _ => some ['\'']
  | c :: cs => (literalRest? cs).map (c :: ·)

/-- The digits of a placeholder behind its dollar sign, unless a word character follows
them. -/
def markDigits? (cs : List Char) : Option (List Char) :=
  match cs.dropWhile Text.isDigit with
  | [] => some (cs.takeWhile Text.isDigit)
  | c :: _ => if Text.isWord c then none else some (cs.takeWhile Text.isDigit)

/-- The parts of a text of which the first `copied` characters belong to a literal, or the first
`passed` characters to a placeholder that has been read. -/
def tokensFrom (copied passed : Nat) : List Char → List Token
  | [] => []
  | c :: cs =>
    match passed, copied with
    | passed + 1, _ => tokensFrom 0 passed cs
    | 0, copied + 1 => .plain c :: tokensFrom copied 0 cs
    | 0, 0 =>
      if c = '\'' then
        .plain c :: tokensFrom ((literalRest? cs).getD []).length 0 cs
      else if c = '$' then
        match markDigits? cs with
        | some digits => .mark digits :: tokensFrom 0 digits.length cs
        | none => .plain c :: tokensFrom 0 0 cs
      else .plain c :: tokensFrom 0 0 cs

/-- The placeholders of a text and the characters around them. -/
def tokens (cs : List Char) : List Token := tokensFrom 0 0 cs

/-- The number of placeholders of a text. -/
def countPlaceholders (s : String) : Nat := (tokens s.toList).countP Token.isMark

/-- The digits of an integer. -/
def intDigits (n : Int) : List Char :=
  if n < 0 then '-' :: Nat.toDigits 10 n.natAbs else Nat.toDigits 10 n.natAbs

/-- The text of the parts, its placeholders numbered behind a given number. -/
def render (offset : Int) : List Token → List Char
  | [] => []
  | .plain c :: ts => c :: render offset ts
  | .mark _ :: ts => '$' :: (intDigits (offset + 1) ++ render (offset + 1) ts)

/-- The text with its placeholders numbered from left to right, behind a given number. -/
def renumber (s : String) (offset : Int) : String :=
  String.ofList (render offset (tokens s.toList))

@[simp] theorem tokens_nil : tokens [] = [] := rfl

@[simp] theorem countPlaceholders_empty : countPlaceholders "" = 0 := rfl

@[simp] theorem renumber_empty (offset : Int) : renumber "" offset = "" := rfl

end DocumentSql.Sql

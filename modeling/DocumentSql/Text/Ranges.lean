/-
Sets of characters given by closed ranges of code points.

The classes of characters that the rules of this library mention (digits, word characters,
blanks, printable characters, identifiers) are all of this form: a test for the ASCII
characters, and a table of ranges for the others.
-/

namespace DocumentSql.Text

/-- The code point of `c` lies in one of the closed ranges. -/
def within (ranges : List (Nat × Nat)) (c : Char) : Bool :=
  ranges.any fun r => r.1 ≤ c.toNat && c.toNat ≤ r.2

/-- `c` is an ASCII character. -/
def isAscii (c : Char) : Bool := c.toNat < 128

/-- A class of characters given by a test for the ASCII characters and by ranges for the
others. -/
def inClass (ascii : Char → Bool) (ranges : List (Nat × Nat)) (c : Char) : Bool :=
  if isAscii c then ascii c else within ranges c

/-- On an ASCII character only the ASCII test decides. -/
theorem inClass_of_isAscii {ascii : Char → Bool} {ranges : List (Nat × Nat)} {c : Char}
    (h : isAscii c = true) : inClass ascii ranges c = ascii c := by
  simp [inClass, h]

end DocumentSql.Text

/-
Cutting texts: at a separator, at every separator, after a given beginning, at the last
occurrence of a part; and writing numbers in texts.
-/

namespace DocumentSql.Text

/-- The text before the first occurrence of a separator, and the text behind it, if it
occurs. -/
def cutAt (sep : Char) : List Char → List Char × Option (List Char)
  | [] => ([], none)
  | c :: cs =>
    if c == sep then ([], some cs)
    else let (before, after) := cutAt sep cs; (c :: before, after)

/-- The parts of a text between the occurrences of a separator. -/
def splitAll (sep : Char) : List Char → List (List Char)
  | [] => [[]]
  | c :: cs =>
    if c == sep then [] :: splitAll sep cs
    else match splitAll sep cs with
      | [] => [[c]]
      | part :: parts => (c :: part) :: parts

/-- The parts of a text between the occurrences of a separator. -/
def split (sep : Char) (s : String) : List String :=
  (splitAll sep s.toList).map String.ofList

/-- The texts joined with a separator. -/
def joinWith (sep : String) (parts : List String) : String := String.intercalate sep parts

/-- What follows the given beginning of a text. -/
def after? : List Char → List Char → Option (List Char)
  | [], cs => some cs
  | _ :: _, [] => none
  | p :: ps, c :: cs => if p == c then after? ps cs else none

/-- What precedes and what follows the last occurrence of a part. -/
def cutLast (part : List Char) : List Char → Option (List Char × List Char)
  | [] => if part.isEmpty then some ([], []) else none
  | c :: cs =>
    match cutLast part cs with
    | some (before, after) => some (c :: before, after)
    | none => (after? part (c :: cs)).map ([], ·)

/-- The text with the last occurrence of a part replaced. -/
def replaceLast? (part replacement s : List Char) : Option (List Char) :=
  (cutLast part s).map fun (before, after) => before ++ replacement ++ after

/-- A number in lower-case hexadecimal digits, filled up with zeros to a width. -/
def hex (width n : Nat) : List Char :=
  let digits := Nat.toDigits 16 n
  List.replicate (width - digits.length) '0' ++ digits

/-- A number in decimal digits, filled up with zeros to a width. -/
def padded (width n : Nat) : String :=
  let digits := Nat.toDigits 10 n
  String.ofList (List.replicate (width - digits.length) '0' ++ digits)

/-! ### Small facts -/

theorem splitAll_ne_nil (sep : Char) (cs : List Char) : splitAll sep cs ≠ [] := by
  cases cs with
  | nil => simp [splitAll]
  | cons c cs =>
    unfold splitAll
    split
    · simp
    · split <;> simp

theorem after?_append (p cs : List Char) : after? p (p ++ cs) = some cs := by
  induction p with
  | nil => rfl
  | cons x p ih => simp [after?, ih]

theorem after?_eq_some {p cs rest : List Char} (h : after? p cs = some rest) :
    cs = p ++ rest := by
  induction p generalizing cs with
  | nil => simpa [after?] using h
  | cons x p ih =>
    cases cs with
    | nil => simp [after?] at h
    | cons c cs =>
      simp only [after?] at h
      split at h
      · next hx => simp only [beq_iff_eq] at hx; subst hx; simp [ih h]
      · simp at h

end DocumentSql.Text

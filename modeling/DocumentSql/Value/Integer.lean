/-
The integers that values stand for: numbers are cut toward zero, and texts are read as
numerals.
-/
import DocumentSql.Value.Basic
import DocumentSql.Number.Numeral

namespace DocumentSql

/-- Why a value stands for no integer. -/
inductive IntegerFault where
  /-- The value is no number and no numeral. -/
  | noNumber
  /-- The value has no bound. -/
  | unbounded
deriving DecidableEq

namespace Value

/-- The value of a hexadecimal digit. -/
def hexDigit (c : Char) : Nat :=
  if c.isDigit then c.toNat - 48 else c.toLower.toNat - 87

/-- The number that the digits of an identifier write. -/
def uuidNumber (s : String) : Nat :=
  (s.toList.filter (· != '-')).foldl (fun n c => n * 16 + hexDigit c) 0

/-- An integer, or the fault that there is none. -/
def orNoNumber (n : Option Int) : Except IntegerFault Int :=
  match n with
  | some n => .ok n
  | none => .error .noNumber

/-- The integer that a value stands for. -/
def toInteger : Value → Except IntegerFault Int
  | bool b => .ok (if b then 1 else 0)
  | int n => .ok n
  | float (.infinite _) => .error .unbounded
  | float x => orNoNumber x.truncate?
  | decimal (.infinite _) => .error .unbounded
  | decimal d => orNoNumber d.truncate?
  | text s => orNoNumber (Numeral.integer? s)
  | bytes bs =>
    if bs.all (· < 128) then
      orNoNumber (Numeral.integer? (String.ofList (bs.map fun b => Char.ofNat b.toNat)))
    else .error .noNumber
  | uuid s => .ok (uuidNumber s)
  | scalar _ plain => plain.toInteger
  | array _ plain => plain.toInteger
  | _ => .error .noNumber

end Value

end DocumentSql

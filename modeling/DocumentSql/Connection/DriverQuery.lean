/-
Statements in the style of the driver.

The driver takes `%s` where this library writes `$n`, and its arguments in the order of their
occurrence; a parameter that is referenced again is repeated. Where arguments are handed over, a
percent sign is written twice.
-/
import DocumentSql.Sql.Placeholder
import DocumentSql.Error
import DocumentSql.Number.Numeral
import DocumentSql.Value.Collection

namespace DocumentSql

/-- A statement for the driver. -/
structure DriverQuery where
  /-- The text. -/
  text : String
  /-- The arguments, if the text takes any. -/
  arguments : Option (List Value)
deriving Inhabited

namespace DriverQuery

/-- The numbers of the placeholders, nothing for a bare one. -/
def marks : List Sql.Token → List (Option Nat)
  | [] => []
  | .plain _ :: ts => marks ts
  | .mark [] :: ts => none :: marks ts
  | .mark (d :: ds) :: ts => some (Text.digitsValue 0 (d :: ds)) :: marks ts

/-- How many digits of a number are read: those of a numeral, and never fewer than the number of
the last parameter has. -/
def readDigits (count : Nat) : Nat := max Numeral.digitLimit (Nat.toDigits 10 count).length

/-- The part is a placeholder whose number has more digits than are read. -/
def isUnreadable (count : Nat) : Sql.Token → Bool
  | .plain _ => false
  | .mark digits => decide (readDigits count < digits.length)

/-- The text in the style of the driver. -/
def render : List Sql.Token → List Char
  | [] => []
  | .plain c :: ts => if c = '%' then '%' :: '%' :: render ts else c :: render ts
  | .mark _ :: ts => '%' :: 's' :: render ts

/-- The parameter that a number refers to; zero refers to the last one. -/
def argument (params : List Value) (n : Nat) : Result Value :=
  let position := if n == 0 then params.length - 1 else n - 1
  match params[position]? with
  | some v => .ok v
  | none => .error (.fault .outOfRange)

/-- The parameters that numbers refer to, in order. -/
def argumentsOf (params : List Value) : List Nat → Result (List Value)
  | [] => .ok []
  | n :: ns => do
    let v ← argument params n
    let vs ← argumentsOf params ns
    .ok (v :: vs)

/-- The statement for the driver of a text with parameters. -/
def ofParams (text : String) (params : List Value) : Result DriverQuery :=
  let params := params.map Value.normalize
  let tokens := Sql.tokens text.toList
  let found := marks tokens
  let numbers := found.filterMap id
  if tokens.any (isUnreadable params.length) then .error (.fault .wrongValue)
  else if numbers.isEmpty then .ok ⟨text, none⟩
  else if numbers.length != found.length || numbers.any (· > params.length) then
    .error (.placeholdersUnmatched text params.length)
  else do
    let arguments ← argumentsOf params numbers
    .ok ⟨String.ofList (render tokens), some arguments⟩

/-- The statement for the driver of a text with a collection of parameters. -/
def make (text : String) (params : Value) : Result DriverQuery :=
  match params.elements? with
  | some vs => ofParams text vs
  | none => .error (.fault .wrongType)

end DriverQuery

end DocumentSql

/-
Kinds of casts: how the value of a data field is read before it is compared.
-/

namespace DocumentSql

/-- The cast of a resolved key. -/
inductive CastKind where
  /-- No cast: a column has its own type. -/
  | direct
  /-- A number. -/
  | numeric
  /-- A truth value. -/
  | boolean
  /-- A text. -/
  | text
deriving DecidableEq, Inhabited

namespace CastKind

/-- The name of a kind. -/
def name : CastKind → String
  | direct => "direct"
  | numeric => "numeric"
  | boolean => "boolean"
  | text => "text"

/-- The kind with a given name. -/
def ofName? : String → Option CastKind
  | "direct" => some direct
  | "numeric" => some numeric
  | "boolean" => some boolean
  | "text" => some text
  | _ => none

/-- The name of its constructor in capitals, as messages show it. -/
def label : CastKind → String
  | direct => "DIRECT"
  | numeric => "NUMERIC"
  | boolean => "BOOLEAN"
  | text => "TEXT"

@[simp] theorem ofName?_name (k : CastKind) : ofName? k.name = some k := by cases k <;> rfl

end CastKind

end DocumentSql

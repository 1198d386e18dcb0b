/-
Reading logical keys.

A key is `$*`, or a dollar sign with a column name of ASCII letters, digits and underscores, or a
path of components separated by dots, of ASCII letters, digits, underscores and hyphens. One line
end behind a column name or path is let through.
-/
import DocumentSql.Error
import DocumentSql.Text.Cut

namespace DocumentSql

namespace FieldKey

/-- A letter of ASCII or an underscore. -/
def isNameStart (c : Char) : Bool := c.isAlpha || c == '_'

/-- A letter or digit of ASCII or an underscore. -/
def isNameChar (c : Char) : Bool := c.isAlphanum || c == '_'

/-- A character of a component of a path. -/
def isPathChar (c : Char) : Bool := c.isAlphanum || c == '_' || c == '-'

/-- The text without a line end behind it. -/
def dropLineEnd (cs : List Char) : List Char :=
  if cs.getLast? == some '\n' then cs.dropLast else cs

/-- The text is the name of a column. -/
def isColumnName (cs : List Char) : Bool :=
  match dropLineEnd cs with
  | [] => false
  | c :: cs => isNameStart c && cs.all isNameChar

/-- The text is a component of a path. -/
def isComponent (cs : List Char) : Bool := !cs.isEmpty && cs.all isPathChar

/-- The text is a path. -/
def isPath (cs : List Char) : Bool := (Text.splitAll '.' (dropLineEnd cs)).all isComponent

/-- The columns that hold moments. -/
def timestampColumns : List String := ["created", "modified"]

/-- The key that a text names. -/
def ofText? (s : String) : Option FieldKey :=
  match s.toList with
  | '$' :: rest =>
    let name := String.ofList rest
    if name == "*" then some all
    else if name == relationsColumn then some relations
    else if timestampColumns.contains name then some (timestamp name)
    else if isColumnName rest then some (column name)
    else none
  | cs => if isPath cs then some (path (Text.split '.' s)) else none

/-- Why a text is no key. -/
def fault (v : Value) (s : String) : Error :=
  match s.toList with
  | [] => .notAKey v
  | '$' :: _ => .malformedColumnKey v
  | _ => .malformedPathKey v

/-- The key that a value is or names. -/
def parse (v : Value) : Result FieldKey :=
  match v with
  | .key k => .ok k
  | v => match v.asText? with
    | none => .error (.notAKey v)
    | some s => match ofText? s with
      | some k => .ok k
      | none => .error (fault v s)

/-- The keys that values are or name, in order. -/
def parseAll : List Value → Result (List FieldKey)
  | [] => .ok []
  | v :: vs => do
    let k ← parse v
    let ks ← parseAll vs
    .ok (k :: ks)

@[simp] theorem parse_key (k : FieldKey) : parse (.key k) = .ok k := rfl

end FieldKey

end DocumentSql

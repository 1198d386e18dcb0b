/-
Values of SQL expressions.

A column holds JSON as text, and an arrow reads it, follows the path and gives what it finds: as
JSON the token of the value, as text the content of a text, nothing for nothing, and otherwise the
token as well.  Casts read a token, and a test is never without a value.

What is navigated to does not depend on how the path is written: a navigation gives what the
stored value holds at its path (`Expr.eval?_navigation`).
-/
import DocumentSql.Proofs.Json.Reading
import DocumentSql.Proofs.Row.Address
import DocumentSql.Proofs.Sql.Expression

namespace DocumentSql.Sql

/-! ### Values -/

/-- A value of SQL. -/
inductive Datum where
  /-- No value. -/
  | null
  /-- A truth value. -/
  | bool (b : Bool)
  /-- A decimal number. -/
  | numeric (d : Decimal)
  /-- A text. -/
  | text (s : String)
  /-- JSON, as its text. -/
  | json (s : String)
  /-- JSON, as its value. -/
  | jsonb (v : Value)

namespace Datum

/-- The parameter that a value is handed over as. A number is written as its numeral. -/
def ofValue? : Value → Option Datum
  | .null => some null
  | .bool b => some (bool b)
  | .int n => some (numeric (.finite (decide (n < 0)) n.natAbs 0))
  | .float x => (Decimal.ofText? x.text).map numeric
  | .decimal d => some (numeric d)
  | .text s => some (text s)
  | _ => none

/-- A value under a cast. -/
def cast? (type : SqlType) : Datum → Option Datum
  | null => some null
  | text s =>
    match type with
    | .text => some (text s)
    | .numeric => (Decimal.ofText? s).map numeric
    | .boolean =>
      if s = "true" then some (bool true) else if s = "false" then some (bool false) else none
    | .jsonb => (Json.read? s).map jsonb
  | json s =>
    match type with
    | .text => some (text s)
    | .jsonb => (Json.read? s).map jsonb
    | _ => none
  | _ => none

/-- The equality of two values of a type; it has no value when one of them has none. -/
def equal? : Datum → Datum → Option Datum
  | null, _ => some null
  | _, null => some null
  | bool a, bool b => some (bool (a == b))
  | numeric a, numeric b => some (bool (a.numericEq b))
  | text a, text b => some (bool (a == b))
  | jsonb v, jsonb w => some (bool (decide (v.JsonEq w)))
  | _, _ => none

/-- There is no value. -/
def isNull : Datum → Bool
  | null => true
  | _ => false

/-- The value is true, where none counts as false. -/
def isTrue? : Datum → Option Bool
  | bool b => some b
  | null => some false
  | _ => none

/-- What an arrow gives for a JSON value that it reaches. -/
def ofJson? (access : Access) (v : Value) : Option Datum :=
  match access, v with
  | .text, .null => some null
  | .text, .text s => some (text s)
  | .text, v => (Json.write v).toOption.map text
  | .json, v => (Json.write v).toOption.map json

/-- What an arrow gives for a path from a stored value; nothing where the path leads nowhere. -/
def navigate? (access : Access) (path : List String) : Datum → Option Datum
  | null => some null
  | json s => (Json.read? s).bind fun v =>
    match Row.heldAt path v with
    | some w => ofJson? access w
    | none => some null
  | _ => none

/-- The items of the literal of an array. They stand between braces, as they are. -/
def items? (s : String) : Option (List String) :=
  match s.toList with
  | '\x7b' :: cs =>
    if cs.getLast? = some '\x7d' then
      some (if cs.dropLast = [] then [] else (Text.splitAll ',' cs.dropLast).map String.ofList)
    else none
  | _ => none

end Datum

/-! ### Expressions -/

/-- What an expression is evaluated in. -/
structure Env where
  /-- The values of the columns of a row. -/
  column : String → Option Datum
  /-- The parameters of the placeholders. -/
  params : List Value

/-- The value of an expression. There is none when the types of its parts do not fit. -/
def Expr.eval? (env : Env) : Expr → Option Datum
  | column name => env.column (String.ofList name)
  | literal cs => some (.text (String.ofList cs))
  | param n => if n = 0 then none else env.params[n - 1]?.bind Datum.ofValue?
  | cast e type => (e.eval? env).bind (Datum.cast? type)
  | member access e name =>
    match e.eval? env, name.eval? env with
    | some d, some (.text s) => d.navigate? access [s]
    | _, _ => none
  | along access e path =>
    match e.eval? env, path.eval? env with
    | some d, some (.text s) => (Datum.items? s).bind fun path => d.navigate? access path
    | _, _ => none
  | equal e f =>
    match e.eval? env, f.eval? env with
    | some d, some d' => d.equal? d'
    | _, _ => none
  | isNull e => (e.eval? env).map fun d => .bool d.isNull
  | isTrue e => (e.eval? env).bind fun d => d.isTrue?.map .bool

/-- The text is an expression that is true. -/
def Holds (s : String) (env : Env) : Prop :=
  (Expr.read? s).bind (·.eval? env) = some (.bool true)

/-! ### Navigations -/

/-- The items of an array are found in its literal, when no comma stands in them. -/
lemma Datum.items?_intercalate {path : List String} (hpath : ∀ part ∈ path, ',' ∉ part.toList)
    (hlength : path.length ≠ 1) :
    items? ("\x7b" ++ String.intercalate "," path ++ "\x7d") = some path := by
  have hlist : ("\x7b" ++ String.intercalate "," path ++ "\x7d").toList =
      '\x7b' :: ((String.intercalate "," path).toList ++ ['\x7d']) := by
    simp [-String.toList_intercalate]
  rw [items?, hlist]
  simp only [List.getLast?_concat, if_true, List.dropLast_concat]
  rcases path with _ | ⟨first, _ | ⟨second, path⟩⟩
  · rfl
  · exact absurd rfl hlength
  · have hne : (String.intercalate "," (first :: second :: path)).toList ≠ [] := by
      rw [String.intercalate_cons_cons]
      simp [-String.toList_intercalate]
    have hparts : ∀ part ∈ (first :: second :: path).map String.toList, ',' ∉ part := by
      simpa using hpath
    have hcomma : ",".toList = [','] := by decide
    rw [if_neg hne, String.toList_intercalate, hcomma,
      Text.splitAll_intercalate (by simp) hparts, List.map_map]
    simp

/-- A navigation from a column with a stored value gives what the value holds at the path. -/
theorem Expr.eval?_navigation {container stored : String} {doc v : Value} {env : Env}
    (hcolumn : env.column container = some (.json stored)) (hstored : Json.read? stored = some doc)
    {path : List String} (hpath : ∀ part ∈ path, ',' ∉ part.toList)
    (hheld : Row.heldAt path doc = some v) (access : Access) :
    (Expr.navigation container access path).eval? env = Datum.ofJson? access v := by
  have hnavigate : (Datum.json stored).navigate? access path = Datum.ofJson? access v := by
    simp [Datum.navigate?, hstored, hheld]
  have halong : path.length ≠ 1 → (Expr.along access (.column container.toList)
      (.literal ("\x7b" ++ String.intercalate "," path ++ "\x7d").toList)).eval? env =
        Datum.ofJson? access v := by
    intro hlength
    simp only [eval?, String.ofList_toList, hcolumn, Datum.items?_intercalate hpath hlength,
      Option.bind_some, hnavigate]
  rcases path with _ | ⟨name, _ | ⟨second, path⟩⟩
  · exact halong (by simp)
  · simp only [navigation, eval?, String.ofList_toList, hcolumn, Option.bind_some, Datum.cast?,
      hnavigate]
  · exact halong (by simp)

end DocumentSql.Sql

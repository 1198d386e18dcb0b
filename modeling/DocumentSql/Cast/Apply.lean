/-
Applying casts to SQL expressions.

A cast binds to the last operand of an expression, so an expression is put in parentheses unless
it is a name, a group in parentheses or a call. Text is reached by turning the last navigation
operator of the expression into its textual form.
-/
import DocumentSql.Cast.Declared
import DocumentSql.Cast.TypeName
import DocumentSql.Key.Parse
import DocumentSql.Text.Blank

namespace DocumentSql

/-- A cast: one of the kinds, or to a type by its name. -/
inductive Cast where
  /-- One of the kinds. -/
  | kind (k : CastKind)
  /-- To a type by its name. -/
  | type (name : String)
deriving DecidableEq

namespace Cast

/-- The cast is one of the kinds. -/
def isKind : Cast → Bool
  | kind _ => true
  | type _ => false

/-- The name of a cast. -/
def name : Cast → String
  | kind k => k.name
  | type n => n

/-- The cast of a name in lower case: a kind, if it is the name of one. -/
def ofName (name : String) : Cast :=
  match CastKind.ofName? name with
  | some k => kind k
  | none => type name

/-- The cast that a value is or names. Names lose the blanks around them and are taken in lower
case. -/
def parse (v : Value) : Result Cast :=
  match v with
  | .cast k => .ok (kind k)
  | v => match v.asText? with
    | none => .error (.castType v)
    | some s =>
      let cs := Text.stripChars s.toList
      if TypeName.isValid cs then .ok (ofName (String.ofList (Text.lowerLatin cs)))
      else .error (.castType v)

/-- The cast as a value. -/
def toValue : Cast → Value
  | kind k => .cast k
  | type n => .text n

/-! ### Operands -/

/-- The group that opens at the start of a text closes at its end: the number of groups open so
far is given, and no group was closed before. -/
def closesAtEnd (depth : Int) : List Char → Bool
  | [] => false
  | c :: cs =>
    if c == '(' then closesAtEnd (depth + 1) cs
    else if c == ')' then
      if depth - 1 == 0 then cs.isEmpty else closesAtEnd (depth - 1) cs
    else closesAtEnd depth cs

/-- The text is one group in parentheses. -/
def isGroup (cs : List Char) : Bool :=
  match cs with
  | '(' :: _ => closesAtEnd 0 cs
  | _ => false

/-- A character of a dotted name. -/
def isNameChar (c : Char) : Bool := TypeName.isWordChar c || c == '.'

/-- The text begins with a dotted name; the rest behind it. -/
def afterName? (cs : List Char) : Option (List Char) :=
  match cs with
  | c :: rest => if TypeName.isStart c then some (rest.dropWhile isNameChar) else none
  | [] => none

/-- The text is a dotted name; one line end may stand behind it. -/
def isName (cs : List Char) : Bool :=
  match afterName? cs with
  | some rest => rest.isEmpty || rest == ['\n']
  | none => false

/-- The text is a call of a function. -/
def isCall (cs : List Char) : Bool :=
  match afterName? cs with
  | some rest => isGroup rest
  | none => false

/-- The expression, in parentheses unless it binds as tightly as a cast. -/
def operand (expr : String) : String :=
  let cs := expr.toList
  if isName cs || isGroup cs || isCall cs then expr else "(" ++ expr ++ ")"

/-! ### Casts -/

/-- The expression with its last navigation taken as text. -/
def textNavigation? (cs : List Char) : Option (List Char) :=
  match Text.replaceLast? " -> ".toList " ->> ".toList cs with
  | some cs => some cs
  | none => Text.replaceLast? " #> ".toList " #>> ".toList cs

/-- The text ends with a cast to text, inside parentheses or not. -/
def endsInText (cs : List Char) : Bool :=
  "::text".toList.isSuffixOf cs || "::text)".toList.isSuffixOf cs

/-- The expression cast to text. -/
def asText (expr : String) : String :=
  match textNavigation? expr.toList with
  | some cs => String.ofList cs
  | none => if endsInText expr.toList then expr else operand expr ++ "::text"

/-- The expression under a cast. -/
def applyTo (c : Cast) (expr : String) : String :=
  match c with
  | kind .direct => expr
  | kind .boolean => "(((" ++ expr ++ ")::text)::boolean IS TRUE)"
  | kind .numeric => "((" ++ expr ++ ")::text)::numeric"
  | kind .text => asText expr
  | type name => operand expr ++ "::" ++ name

/-- The expression under the cast that a value is or names. -/
def apply (v : Value) (expr : String) : Result String := (parse v).map (·.applyTo expr)

/-- The cast of a key: an explicit one, or the one that the schema decides. -/
def ofKey (e : Entity) (schema : Value) (k : FieldKey) (explicit : Value) : Result Cast :=
  match explicit with
  | .null => (CastKind.ofKey e schema k).map kind
  | v => parse v

/-- The expression of a key under its cast. The name of an explicit cast is checked again when it
is applied. -/
def applyToKey (e : Entity) (schema : Value) (k : FieldKey) (expr : String) (explicit : Value) :
    Result String := do
  let c ← ofKey e schema k explicit
  apply c.toValue expr

/-! ### Index expressions -/

/-- The text is enclosed in parentheses on one line. -/
def isEnclosed (cs : List Char) : Bool :=
  match FieldKey.dropLineEnd cs with
  | '(' :: rest =>
    match rest.reverse with
    | ')' :: inner => !inner.isEmpty && inner.all (· != '\n')
    | _ => false
  | _ => false

/-- The text ends with a cast to a type named by ASCII letters in lower case. -/
def endsInCast (cs : List Char) : Bool :=
  let reversed := (FieldKey.dropLineEnd cs).reverse
  !(reversed.takeWhile Char.isLower).isEmpty &&
    [':', ':'].isPrefixOf (reversed.dropWhile Char.isLower)

/-- The text begins with a textual navigation from a column named by ASCII letters in lower
case. -/
def beginsWithTextAccess (cs : List Char) : Bool :=
  !(cs.takeWhile Char.isLower).isEmpty &&
    " ->> ".toList.isPrefixOf (cs.dropWhile Char.isLower)

/-- The expression as the catalog reports it for an index: in parentheses unless it is a plain
column, and in two pairs for a bare textual navigation with a cast. -/
def indexExpression (expr : String) : String :=
  let cs := expr.toList
  if isEnclosed cs then "(" ++ expr ++ ")"
  else if endsInCast cs then
    if beginsWithTextAccess cs then "((" ++ expr ++ "))" else "(" ++ expr ++ ")"
  else expr

end Cast

end DocumentSql

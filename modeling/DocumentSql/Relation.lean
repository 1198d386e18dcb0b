/-
Relation expressions: which related documents to fetch with a document.

An expression is `[Type#]property[{filter}][|field,field]`. The property is a property of the
data container, or a column with a leading dollar sign; the fields are logical keys, all of them
when they are not given. Blanks may stand between the tokens, but not behind the dollar sign.
-/
import DocumentSql.Key.Navigation
import DocumentSql.Text.Blank
import DocumentSql.Value.Collection

namespace DocumentSql

/-- A parsed relation expression. -/
structure RelationExpression where
  /-- The document type of the related documents. -/
  typeName : Option String
  /-- The property is a column. -/
  isColumn : Bool
  /-- The name of the property. -/
  property : String
  /-- The filter, with its braces. -/
  filter : Option String
  /-- The fields to fetch. -/
  fields : Option (List String)
deriving DecidableEq

namespace RelationExpression

/-! ### Tokens -/

/-- A blank between tokens. -/
def isBlank (c : Char) : Bool := c == ' ' || c == '\t' || c == '\r' || c == '\n'

/-- The text without the blanks at its start. -/
def skipBlanks (cs : List Char) : List Char := cs.dropWhile isBlank

/-- The text with its tabs expanded to blanks up to the next multiple of eight columns, given the
column that is reached. -/
def expandTabs (column : Nat) : List Char → List Char
  | [] => []
  | c :: cs =>
    if c == '\t' then
      List.replicate (8 - column % 8) ' ' ++ expandTabs (column + (8 - column % 8)) cs
    else if c == '\n' || c == '\r' then c :: expandTabs 0 cs
    else c :: expandTabs (column + 1) cs

/-- A character of a type name. -/
def isTypeChar (c : Char) : Bool := c.isAlphanum || c == '_' || c == '-'

/-- A character of a property. -/
def isPropertyChar (c : Char) : Bool := isTypeChar c || c == '.'

/-- A character of a field. -/
def isFieldChar (c : Char) : Bool := isPropertyChar c || c == '$' || c == '*'

/-- The longest word of given characters at the start of a text, if there is one, and the
rest. -/
def word? (isChar : Char → Bool) (cs : List Char) : Option (String × List Char) :=
  match cs.takeWhile isChar with
  | [] => none
  | w => some (String.ofList w, cs.dropWhile isChar)

/-- The text behind a mark at its start. -/
def mark? (mark : Char) : List Char → Option (List Char)
  | [] => none
  | c :: cs => if c == mark then some cs else none

/-! ### Parts -/

/-- The type name with its mark, and the rest. -/
def typeName? (cs : List Char) : Option (String × List Char) := do
  let (name, rest) ← word? isTypeChar (skipBlanks cs)
  let rest ← mark? '#' (skipBlanks rest)
  some (name, rest)

/-- The property, whether it is a column, and the rest. -/
def property? (cs : List Char) : Option (Bool × String × List Char) :=
  let cs := skipBlanks cs
  match mark? '$' cs with
  | some cs => (word? isPropertyChar cs).map fun (name, rest) => (true, name, rest)
  | none => (word? isPropertyChar cs).map fun (name, rest) => (false, name, rest)

/-- A character that may stand in a filter. -/
def isFilterChar (c : Char) : Bool := c != '\x7b' && c != '\x7d'

/-- The filter with its braces, and the rest. -/
def filter? (cs : List Char) : Option (String × List Char) := do
  let rest ← mark? '\x7b' (skipBlanks cs)
  let (content, rest) ← word? isFilterChar rest
  let rest ← mark? '\x7d' rest
  some ("\x7b" ++ content ++ "\x7d", rest)

/-- The fields behind commas, as far as there are any, and the rest. -/
def moreFields : Nat → List Char → List String × List Char
  | 0, cs => ([], cs)
  | fuel + 1, cs =>
    match mark? ',' (skipBlanks cs) with
    | none => ([], cs)
    | some rest => match word? isFieldChar (skipBlanks rest) with
      | none => ([], cs)
      | some (field, rest) =>
        let (fields, rest) := moreFields fuel rest
        (field :: fields, rest)

/-- The field list with its mark, and the rest. -/
def fields? (cs : List Char) : Option (List String × List Char) := do
  let rest ← mark? '|' (skipBlanks cs)
  let (field, rest) ← word? isFieldChar (skipBlanks rest)
  let (fields, rest) := moreFields rest.length rest
  some (field :: fields, rest)

/-- A part that may be left out. -/
def optional {α : Type} (part : List Char → Option (α × List Char)) (cs : List Char) :
    Option α × List Char :=
  match part cs with
  | some (a, rest) => (some a, rest)
  | none => (none, cs)

/-- The relation expression of characters without tabs. -/
def ofChars? (cs : List Char) : Option RelationExpression := do
  let (typeName, rest) := optional typeName? cs
  let (isColumn, property, rest) ← property? rest
  let (filter, rest) := optional filter? rest
  let (fields, rest) := optional fields? rest
  if (skipBlanks rest).isEmpty then some ⟨typeName, isColumn, property, filter, fields⟩ else none

/-- The relation expression that a text is. -/
def ofText? (s : String) : Option RelationExpression :=
  ofChars? (expandTabs 0 (Text.stripChars s.toList))

end RelationExpression

/-! ### Relations of an entity -/

/-- A field of related documents. -/
inductive RelationField where
  /-- All fields. -/
  | everything
  /-- A logical key, the data container if it is a path, the name that it has there, and its
  expression. -/
  | named (name : String) (container key : Value) (query : String)

/-- A relation of an entity, as the procedure of the server reads it. -/
structure Relation where
  /-- The document type of the related documents. -/
  typeName : Option String
  /-- The column, or the path from the data container, with the filter. -/
  property : String
  /-- The fields to fetch. -/
  fields : List RelationField

namespace RelationField

/-- The field as a value. -/
def toValue : RelationField → Value
  | everything => .dict [(.text "query", .text "*")]
  | named name container key query =>
    .dict [(.text "name", .text name), (.text "datakey", container), (.text "key", key),
      (.text "query", .text query)]

/-- The field of an entity that a word of a field list names. -/
def ofWord (e : Entity) (word : String) : Result RelationField :=
  if word == "*" then .ok everything
  else do
    let k ← FieldKey.parse (.text word)
    match k with
    | .relations => .error (.relationsInFieldList word)
    | k => do
      let fragment ← k.resolveColumn e false
      .ok (named word (Members.getD fragment.origin "data_container")
        (Members.getD fragment.origin "key") fragment.text)

/-- The fields that words name, in order. -/
def ofWords (e : Entity) : List String → Result (List RelationField)
  | [] => .ok []
  | w :: ws => do
    let f ← ofWord e w
    let fs ← ofWords e ws
    .ok (f :: fs)

end RelationField

namespace Relation

/-- The relation as a value. -/
def toValue (r : Relation) : Value :=
  .dict ((r.typeName.map fun t => ((.text "type", .text t) : Value × Value)).toList ++
    [(.text "prop", .text r.property), (.text "fields", .list (r.fields.map (·.toValue)))])

/-- The relation of an entity that an expression describes. -/
def ofExpression (e : Entity) (x : RelationExpression) : Result Relation := do
  let property := x.property ++ x.filter.getD ""
  let fields ← RelationField.ofWords e (x.fields.getD ["*"])
  .ok ⟨x.typeName, if x.isColumn then property else e.container ++ "." ++ property, fields⟩

/-- The relation of an entity that a value describes. -/
def parse (e : Entity) (v : Value) : Result Relation :=
  match v.asText? with
  | none => .error (.malformedRelation v)
  | some s => match RelationExpression.ofText? s with
    | none => .error (.malformedRelation v)
    | some x => ofExpression e x

/-- The relations of an entity that values describe, in order. -/
def parseList (e : Entity) : List Value → Result (List Relation)
  | [] => .ok []
  | v :: vs => do
    let r ← parse e v
    let rs ← parseList e vs
    .ok (r :: rs)

/-- The relations of an entity that a text or a collection of texts describes. -/
def parseAll (e : Entity) (documents : Value) : Result (List Relation) :=
  match documents.asText? with
  | some _ => parseList e [documents]
  | none => match documents.elements? with
    | some vs => parseList e vs
    | none => .error (.fault .wrongType)

end Relation

end DocumentSql

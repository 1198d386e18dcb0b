/-
What can go wrong, as causes.

Each way to fail is one constructor with the data that its message quotes. `Error.kind?` is the
class under which callers catch it, `Error.message` is its wording, and `Error.details` are what
it says beside. Compile-time errors arise while statements are built; the kinds below `query` come
from a server.
-/
import DocumentSql.Value.Literal

namespace DocumentSql

/-- The classes of errors. -/
inductive ErrorKind where
  /-- Any error of this library. -/
  | store
  /-- A field reference that is malformed or cannot be resolved. -/
  | key
  /-- A malformed filter. -/
  | predicate
  /-- The target of an update or delete has neither id nor name. -/
  | unidentified
  /-- A document type that is not exactly one. -/
  | type
  /-- An index of the catalog that is not as it was declared. -/
  | index
  /-- The connection to the server is lost. -/
  | connection
  /-- Any error of a query. -/
  | query
  /-- A syntax error. -/
  | querySyntax
  /-- Insufficient privileges. -/
  | access
  /-- A table that does not exist. -/
  | missingTable
  /-- A second entry under a unique key. -/
  | duplicate
  /-- A violated constraint. -/
  | integrity
  /-- A column that does not exist. -/
  | missingColumn
deriving DecidableEq, Inhabited

namespace ErrorKind

/-- The name of a kind. -/
def name : ErrorKind → String
  | store => "DocStoreError"
  | key => "InvalidKey"
  | predicate => "InvalidPredicate"
  | unidentified => "NoIdentifyingKey"
  | type => "UnknownType"
  | index => "IndexVerificationFailed"
  | connection => "LostConnectionError"
  | query => "QueryError"
  | querySyntax => "QuerySyntaxError"
  | access => "AccessError"
  | missingTable => "MissingTableError"
  | duplicate => "DuplicateError"
  | integrity => "IntegrityError"
  | missingColumn => "UnknownAttributeError"

/-- All kinds. -/
def all : List ErrorKind :=
  [store, key, predicate, unidentified, type, index, connection, query, querySyntax, access,
   missingTable, duplicate, integrity, missingColumn]

/-- The kind with a given name. -/
def ofName? (s : String) : Option ErrorKind := all.find? (·.name == s)

/-- The kind and the wider kinds that it belongs to, the narrowest first. -/
def ancestry : ErrorKind → List ErrorKind
  | store => [store]
  | key => [key, store]
  | predicate => [predicate, store]
  | unidentified => [unidentified, store]
  | type => [type, store]
  | index => [index, store]
  | connection => [connection, store]
  | query => [query, store]
  | querySyntax => [querySyntax, query, store]
  | access => [access, query, store]
  | missingTable => [missingTable, query, store]
  | duplicate => [duplicate, query, store]
  | integrity => [integrity, query, store]
  | missingColumn => [missingColumn, query, store]

end ErrorKind

/-- An error of this library as callers see it: its kind and its arguments. -/
structure Report where
  /-- The kind. -/
  kind : ErrorKind
  /-- The message, and further details. -/
  arguments : List Value

namespace Report

/-- The error with further details behind the others. -/
def suggest (r : Report) (more : List Value) : Report :=
  { r with arguments := r.arguments ++ more }

/-- The error in words: nothing, its only argument, or all of them. -/
def text (r : Report) : String :=
  match r.arguments with
  | [] => ""
  | [v] => v.plainText
  | vs => (Value.tuple vs).literal

end Report

/-- The errors that the server's driver tells apart. -/
structure ServerError where
  /-- The class of the error. -/
  className : String
  /-- The message. -/
  message : String
  /-- The code of the server, if the error comes from there. -/
  code : Option String
deriving DecidableEq, Inhabited

/-- What went wrong outside this library's own rules: in the shape of what was handed over, or
in the settings. -/
inductive Fault where
  /-- A value of a class that the place does not take. -/
  | wrongType
  /-- A value that the place does not take, although its class would do. -/
  | wrongValue
  /-- A value without the expected attribute. -/
  | missingAttribute
  /-- A mapping without the expected member. -/
  | missingMember
  /-- A number without end. -/
  | overflow
  /-- A position outside a list. -/
  | outOfRange
  /-- A setting that its field refuses. -/
  | invalidSetting
  /-- An environment variable that cannot be read as a setting. -/
  | unreadableSetting
  /-- A text that is no JSON. -/
  | malformedJson
  /-- Bytes that are no text. -/
  | malformedText
deriving DecidableEq, Inhabited

/-- The ways to fail. -/
inductive Error where
  /-- The value is no text, or an empty one. -/
  | notAKey (key : Value)
  /-- The key has a dollar sign and no column name. -/
  | malformedColumnKey (key : Value)
  /-- The key is no path. -/
  | malformedPathKey (key : Value)
  /-- The relation expression is malformed. -/
  | malformedRelation (expression : Value)
  /-- The field list of a relation names the relations. -/
  | relationsInFieldList (name : String)
  /-- The entity has no column for a key. -/
  | noColumnForKey (entity : String) (key : Value)
  /-- The entity has no column of a name. -/
  | noColumn (entity : String) (column : Value)
  /-- The key has no value that could be compared. -/
  | notComparable (key : String)
  /-- The key has no value that could be passed to a function. -/
  | notPassable (key : String)
  /-- The key cannot be indexed. -/
  | notIndexable (key : String)
  /-- The expression of the key takes parameters, so it cannot be indexed. -/
  | indexWithParameters (key : String)
  /-- The key is computed and not stored. -/
  | computedKey (key : Value)
  /-- The numbers of placeholders and parameters differ. -/
  | placeholderCount (text : String) (placeholders params : Nat)
  /-- The boolean operator is none. -/
  | unknownOperator (operator : Value)
  /-- The type of a cast is malformed. -/
  | castType (type : Value)
  /-- The name of a function is no identifier. -/
  | functionName (name : Value)
  /-- The name of a function is taken. -/
  | functionTaken (name : String)
  /-- No function has the name. -/
  | functionUnknown (name : Value)
  /-- The plain function is not registered. -/
  | functionUnregistered (label : String)
  /-- The value refers to no function. -/
  | functionReference (reference : Value)
  /-- The function cannot be called here. -/
  | functionRemote (name : String)
  /-- The operator takes no return type. -/
  | operatorReturnType (operator : String) (token : Value)
  /-- The value of a key has no JSON text. -/
  | valueUnwritable (key : String) (reason : String)
  /-- The value of a key is of no class that can be compared. -/
  | valueRefused (key : String) (value : Value)
  /-- The call has no function. -/
  | callWithoutFunction
  /-- The arguments of a call have no JSON text. -/
  | argumentsUnwritable (function : String) (reason : String)
  /-- The operator has no operands. -/
  | operatorAlone (token : Value)
  /-- The value is no filter. -/
  | filterRefused (filter : Value)
  /-- The value is no node of a filter. -/
  | nodeRefused (node : Value)
  /-- The way to match is unknown. -/
  | matchRefused (match_ : Value)
  /-- The traits are unknown. -/
  | traitsUnknown (names : List Value)
  /-- The value is no count. -/
  | countRefused (trait : String) (value : Value)
  /-- The count is negative. -/
  | countNegative (trait : String) (value : Int)
  /-- The value names no document type. -/
  | typeRefused (type : Value)
  /-- The entity does not tell document types apart. -/
  | entityUntyped (entity : String)
  /-- The value is no key to order by. -/
  | orderKeyRefused (key : Value)
  /-- The order item is empty. -/
  | orderItemEmpty
  /-- The operator does not order. -/
  | orderOperator (operator : Value)
  /-- The key has no order. -/
  | notOrderable (key : String)
  /-- The key makes no groups. -/
  | notGroupable (key : String)
  /-- The direction of an order is unknown. -/
  | orderDirection (direction : String)
  /-- The method of a query is unknown. -/
  | queryMethod (method : Value)
  /-- The object has neither id nor name. -/
  | unidentified (entity : String)
  /-- The document type is not exactly one. -/
  | typeCount (name : Value) (found : Nat)
  /-- The catalog reports another index than was created. -/
  | indexDiffers (name : String) (actual expected : Value)
  /-- A transaction is open already. -/
  | nestedTransaction
  /-- A schema is given without exactly one document type. -/
  | schemaWithoutType
  /-- The connection was not established. -/
  | connectionFailed (address reason : String)
  /-- The placeholders do not match the parameters. -/
  | placeholdersUnmatched (text : String) (params : Nat)
  /-- The server refused a statement, for a reason that has a kind of its own. -/
  | refusedByServer (report : Report)
  /-- The driver failed otherwise. -/
  | driver (error : ServerError)
  /-- A failure from outside, with its message. -/
  | injected (message : String)
  /-- No entity has the name. -/
  | entityUnknown (name : Value)
  /-- No setting has the key. -/
  | settingUnknown (key : String)
  /-- The setting belongs to the declared ones. -/
  | settingUndeletable (key : String)
  /-- A fault of what was handed over. -/
  | fault (fault : Fault)

namespace Error

/-- What went wrong, in words. A fault has none. -/
def message : Error → String
  | notAKey v => "Invalid key " ++ v.literal
  | malformedColumnKey v => "Invalid column key " ++ v.literal
  | malformedPathKey v => "Invalid keyword " ++ v.literal
  | malformedRelation v => "Invalid relation expression " ++ v.literal
  | relationsInFieldList name => "Relation field list cannot contain " ++ Text.quoted name
  | noColumnForKey entity key => entity ++ " has no column for key " ++ key.literal
  | noColumn entity column => entity ++ " has no column " ++ column.literal
  | notComparable key => "Key " ++ Text.quoted key ++ " cannot be compared in a filter"
  | notPassable key => "Key " ++ Text.quoted key ++ " cannot be passed to a predicate function"
  | notIndexable key => "Cannot index " ++ Text.quoted key
  | indexWithParameters key =>
      "Cannot index " ++ Text.quoted key ++ ": its expression takes parameters"
  | computedKey key => "Key " ++ key.literal ++ " is computed and cannot be stored"
  | placeholderCount text placeholders params =>
      "Predicate " ++ Text.quoted text ++ " has " ++ toString placeholders ++
        " placeholders but " ++ toString params ++ " params"
  | unknownOperator operator => "Unknown boolean operator " ++ operator.literal
  | castType type => "Invalid cast type " ++ type.literal
  | functionName name => "Predicate function name must be an identifier, got " ++ name.literal
  | functionTaken name => "Predicate function " ++ Text.quoted name ++ " is already registered"
  | functionUnknown name => "Predicate function " ++ name.literal ++ " is not registered"
  | functionUnregistered label =>
      "Function " ++ Text.quoted label ++ " is not a registered predicate function"
  | functionReference v => "Invalid predicate function reference " ++ v.literal
  | functionRemote name =>
      "Predicate function " ++ Text.quoted name ++ " has no local implementation"
  | operatorReturnType operator token =>
      "Operator " ++ operator ++ " takes no return type, got " ++ token.literal
  | valueUnwritable key reason =>
      "Value for " ++ Text.quoted key ++ " is not JSON serializable: " ++ reason
  | valueRefused key v => "Invalid value " ++ v.literal ++ " for key " ++ Text.quoted key
  | callWithoutFunction => "BIND filter has no predicate function"
  | argumentsUnwritable function reason =>
      "Arguments of predicate function " ++ Text.quoted function ++
        " are not JSON serializable: " ++ reason
  | operatorAlone token => "Operator " ++ token.literal ++ " has no operands"
  | filterRefused v => "Invalid filter " ++ v.literal
  | nodeRefused v => "Invalid filter node " ++ v.literal
  | matchRefused v => "match must be one of ['all', 'any'], got " ++ v.literal
  | traitsUnknown names => "Unknown search traits " ++ (Value.list names).literal
  | countRefused trait v => "Invalid " ++ trait ++ " " ++ v.literal
  | countNegative trait n => trait ++ " must not be negative, got " ++ toString n
  | typeRefused v => "Invalid document type " ++ v.literal
  | entityUntyped entity => entity ++ " has no document type column"
  | orderKeyRefused v => "Invalid order key " ++ v.literal
  | orderItemEmpty => "Empty order item"
  | orderOperator operator => "Operator " ++ operator.literal ++ " cannot be used for ordering"
  | notOrderable key => "Cannot order by " ++ Text.quoted key
  | notGroupable key => "Cannot group by " ++ Text.quoted key
  | orderDirection direction => "Invalid order direction " ++ Text.quoted direction
  | queryMethod method => "Unknown query method " ++ method.literal
  | unidentified entity => entity ++ " object has no $id or $name"
  | typeCount name found =>
      "Expected exactly one type named " ++ name.literal ++ ", found " ++ toString found
  | indexDiffers name actual expected =>
      "Index " ++ name ++ " was created but the catalog reports " ++ actual.literal ++
        ", expected " ++ expected.literal
  | nestedTransaction => "Nested transactions are not supported."
  | schemaWithoutType => "--type-schema requires exactly one --type"
  | connectionFailed address _ => "Connection failed " ++ address
  | placeholdersUnmatched text params =>
      "Placeholders of " ++ Text.quoted text ++ " do not match " ++ toString params ++ " params"
  | refusedByServer report => ((report.arguments.head?).map Value.plainText).getD ""
  | driver error => error.message
  | injected message => message
  | entityUnknown name => "Unknown entity type " ++ name.literal
  | settingUnknown key => "Unknown setting " ++ Text.quoted key
  | settingUndeletable key => "Setting " ++ Text.quoted key ++ " cannot be deleted"
  | fault _ => ""

/-- What an error says beside its message. -/
def details : Error → List Value
  | unidentified _ => [.text "Fetch the object first or pass its $id"]
  | connectionFailed _ reason => [.text reason]
  | refusedByServer report => report.arguments.drop 1
  | _ => []

/-- The kind of an error, unless it lies outside this library's own rules. -/
def kind? : Error → Option ErrorKind
  | notAKey _ | malformedColumnKey _ | malformedPathKey _ | malformedRelation _
  | relationsInFieldList _ | noColumnForKey .. | noColumn .. | notComparable _ | notPassable _
  | notIndexable _ | indexWithParameters _ | computedKey _ => some .key
  | placeholderCount .. | unknownOperator _ | castType _ | functionName _ | functionTaken _
  | functionUnknown _ | functionUnregistered _ | functionReference _ | functionRemote _
  | operatorReturnType .. | valueUnwritable .. | valueRefused .. | callWithoutFunction
  | argumentsUnwritable .. | operatorAlone _ | filterRefused _ | nodeRefused _ | matchRefused _
  | traitsUnknown _ | countRefused .. | countNegative .. | typeRefused _ | entityUntyped _
  | orderKeyRefused _ | orderItemEmpty | orderOperator _ | notOrderable _ | notGroupable _
  | orderDirection _ | queryMethod _ => some .predicate
  | unidentified _ => some .unidentified
  | typeCount .. => some .type
  | indexDiffers .. => some .index
  | nestedTransaction | schemaWithoutType => some .store
  | connectionFailed .. => some .connection
  | placeholdersUnmatched .. => some .query
  | refusedByServer report => some report.kind
  | driver _ | injected _ | entityUnknown _ | settingUnknown _ | settingUndeletable _
  | fault _ => none

end Error

/-- An answer of this library, or an error. -/
abbrev Result (α : Type) := Except Error α

end DocumentSql

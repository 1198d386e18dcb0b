/-
Rows of an entity.

An object is given in logical form: keys with a leading dollar sign are columns, and plain keys
are properties of the data container. As a row it has one value for each column; the plain keys
are gathered into the data container, over an explicit value of it.
-/
import DocumentSql.Entity
import DocumentSql.Value.Collection
import DocumentSql.Value.Difference

namespace DocumentSql

/-- The values of columns, in order. -/
abbrev Row := List (String × Value)

namespace Row

/-- The value of a column. -/
def get? (r : Row) (column : String) : Option Value :=
  (r.find? (·.1 == column)).map Prod.snd

/-- The row with the value of a column set. A column that is there keeps its place. -/
def put (column : String) (v : Value) : Row → Row
  | [] => [(column, v)]
  | c :: r => if c.1 == column then (column, v) :: r else c :: put column v r

/-! ### From objects -/

/-- The place of a key of an object. -/
inductive Place where
  /-- A column. -/
  | column (name : String)
  /-- A property of the data container. -/
  | property

/-- The place that a key of an object of an entity addresses. -/
def placeOf (e : Entity) (key : Value) : Result Place :=
  match key.asText? with
  | none => .error (.notAKey key)
  | some s =>
    match s.toList with
    | [] => .error (.notAKey key)
    | '$' :: _ =>
      if s == Entity.computedKey then .error (.computedKey key)
      else if e.hasColumn (Entity.unmarked s) then .ok (.column (Entity.unmarked s))
      else .error (.noColumnForKey e.name key)
    | _ => .ok .property

/-- The columns that an object gives and the properties that belong into the data container, in
order and in their plain forms. -/
def partition (e : Entity) : Members → Result (Row × Members)
  | [] => .ok ([], [])
  | (key, v) :: ms => do
    match ← placeOf e key with
    | .column c => do
      let (row, data) ← partition e ms
      .ok ((c, v.normalize) :: row, data)
    | .property => do
      let (row, data) ← partition e ms
      .ok (row, (key, v.normalize) :: data)

/-- The members of an explicit data container; none if it counts as false. -/
def containerMembers (v : Value) : Result Members :=
  if !v.truth then .ok []
  else match v with
    | .dict ms => .ok ms
    | _ => .error (.fault .wrongType)

/-- The row with properties in the data container, over the explicit value that it has there. -/
def withData (e : Entity) (row : Row) (data : Members) : Result Row :=
  if data.isEmpty then .ok row
  else do
    let explicit ← containerMembers ((get? row e.container).getD .null)
    .ok (put e.container (.dict (Members.merge explicit data)) row)

/-- The row of the members of an object. -/
def ofMembers (e : Entity) (ms : Members) : Result Row := do
  let (row, data) ← partition e ms
  withData e row data

/-- The row of an object. -/
def ofObject (e : Entity) (object : Value) : Result Row :=
  match object with
  | .dict ms => ofMembers e ms
  | _ => .error (.fault .missingAttribute)

/-! ### What identifies a row -/

/-- The columns that identify a row, the first one before the second. -/
def identifyingColumns : List String := ["id", "name"]

/-- The column and the value that identify the members of an object. -/
def identifyMembers (e : Entity) (ms : Members) : Result (String × Value) :=
  match identifyingColumns.findSome? fun c =>
    match Members.getText? ms ("$" ++ c) with
    | some v => if !v.isNull && e.hasColumn c then some (c, v.normalize) else none
    | none => none
  with
  | some found => .ok found
  | none => .error (.unidentified e.name)

/-- The column and the value that identify an object. -/
def identify (e : Entity) (object : Value) : Result (String × Value) :=
  match object with
  | .dict ms => identifyMembers e ms
  | _ => .error (.fault .missingAttribute)

/-! ### What a patch changes -/

/-- The members of an object that is merged with another one. -/
def mergeable (object : Value) : Result Members :=
  match object with
  | .dict ms => .ok ms
  | _ => .error (.fault .wrongType)

/-- An object gives a member. -/
def gives (ms : Members) (key : Value) : Bool := (Members.get? ms key).isSome

/-- The key of an object belongs into the data container, and names no column. -/
def isPropertyKey (key : Value) : Bool :=
  match key.asText? with
  | some s => s.toList.head? != some '$'
  | none => false

/-- What an object gives for a property of the data container. -/
def property? (ms : Members) (key : Value) : Option Value :=
  if isPropertyKey key then Members.get? ms key else none

/-- A member of the data container comes from the stored object and not from the patch. -/
def keepsMember (e : Entity) (stored patch : Members) (key : Value) : Bool :=
  (property? patch key).isNone &&
    ((property? stored key).isSome || !gives patch (.text ("$" ++ e.container)))

/-- The values of a member of the data container before and after a patch differ. A member that
the patch does not give is the very value of the stored object. -/
def memberDiffers (e : Entity) (stored patch : Members) (before : Members)
    (m : Value × Value) : Bool :=
  !Value.isPrivateKey m.1 &&
    match Members.get? before m.1 with
    | none => true
    | some v =>
      if keepsMember e stored patch m.1 then
        ((property? stored m.1).getD .null).differsFromItself
      else v.differs m.2

/-- The data containers before and after a patch differ. -/
def containerDiffers (e : Entity) (stored patch : Members) (before after : Value) : Bool :=
  match before, after with
  | .dict ms, .dict ns =>
    ns.any (memberDiffers e stored patch ms) || ms.any (Value.lacksPartner ns)
  | _, _ => before.differs after

/-- The patch addresses a column: by its key, or by a property of the data container. -/
def addresses (e : Entity) (patch : Members) (column : String) : Bool :=
  gives patch (.text ("$" ++ column)) ||
    (column == e.container && patch.any fun m => isPropertyKey m.1)

/-- The values of a column before and after a patch differ. -/
def columnDiffers (e : Entity) (stored patch : Members) (column : String)
    (before after : Value) : Bool :=
  if addresses e patch column then
    if column == e.container then containerDiffers e stored patch before after
    else before.differs after
  else
    match before, after with
    | .dict _, .dict _ =>
      column == e.container && containerDiffers e stored patch before after
    | _, _ => ((Members.getText? stored ("$" ++ column)).getD .null).differsFromItself

/-- The columns whose values differ when a patch is applied to a stored object, with their
new values. The identifier is never among them. -/
def changes (e : Entity) (stored patch : Members) (before after : Row) : Row :=
  after.filter fun c =>
    c.1 != "id" &&
      match get? before c.1 with
      | none => true
      | some v => columnDiffers e stored patch c.1 v c.2

/-- The columns that a patch changes in a stored object. -/
def changedColumns (e : Entity) (stored patch : Value) : Result Row := do
  let before ← ofObject e stored
  let stored ← mergeable stored
  let patch ← mergeable patch
  let after ← ofMembers e (Members.merge stored patch)
  .ok (changes e stored patch before after)

end Row

end DocumentSql

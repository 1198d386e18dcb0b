/-
Settings, and the dotted keys that address them.

Settings fall into two groups and a few values beside them. Values beside the groups are checked
when they are assigned; the fields of a group are checked when a whole group is assigned and not
one by one. A group that is replaced lives on as long as somebody holds it, so settings keep all
groups that they ever had, and the slots of the present ones. Keys that are not declared hold
values of their own.
-/
import DocumentSql.Settings.Field
import DocumentSql.Procedures
import DocumentSql.Log
import DocumentSql.Json.Read

namespace DocumentSql

/-! ### Keys -/

/-- What a dotted key addresses. -/
inductive SettingKey where
  /-- A whole group. -/
  | group (g : SettingGroup)
  /-- A field of a group. -/
  | field (g : SettingGroup) (name : String)
  /-- The level from which on log lines are shown. -/
  | level
  /-- Casts follow the declared types of fields. -/
  | typeAwareness
  /-- The milliseconds after which the server gives a statement up; zero for never. -/
  | timeout
  /-- The key by which results are ordered unless another one is given. -/
  | defaultOrder
  /-- A key that is not declared. -/
  | other (key : String)
deriving DecidableEq

namespace SettingKey

/-- The keys of the values beside the groups, in order. -/
def single : List (String × SettingKey) :=
  [("loglevel", level), ("type_awareness", typeAwareness), ("timeout", timeout),
   ("default_order", defaultOrder)]

/-- What a key with one part addresses. -/
def ofName (name : String) : SettingKey :=
  match SettingGroup.ofName? name with
  | some g => group g
  | none => (single.lookup name).getD (other name)

/-- What a dotted key addresses. -/
def ofText (key : String) : SettingKey :=
  match Text.split '.' key with
  | [name] => ofName name
  | [stem, name] => match SettingGroup.ofName? stem with
    | some g => if g.hasField name then field g name else other key
    | none => other key
  | _ => other key

end SettingKey

/-! ### Settings -/

/-- Settings. -/
structure Settings where
  /-- The environment from which a group takes what is not given to it. -/
  environ : Environ
  /-- All groups that there ever were, by slot. -/
  groups : List GroupContents
  /-- The slot of the database group. -/
  database : Nat
  /-- The slot of the procedures group. -/
  procedures : Nat
  /-- The level from which on log lines are shown. -/
  level : LogLevel
  /-- Casts follow the declared types of fields. -/
  typeAwareness : Bool
  /-- The milliseconds after which the server gives a statement up; zero for never. -/
  timeout : Nat
  /-- The key by which results are ordered unless another one is given. -/
  defaultOrder : String
  /-- The values of keys that are not declared, in order of insertion. -/
  extra : List (String × Value)

/-- What is kept under a key. -/
inductive SettingContent where
  /-- A value. -/
  | plain (v : Value)
  /-- The group in a slot. -/
  | group (slot : Nat)

namespace Settings

/-- The slot of a group. -/
def slot (s : Settings) : SettingGroup → Nat
  | .database => s.database
  | .procedures => s.procedures

/-- The contents of the group in a slot. -/
def contentsAt (s : Settings) (slot : Nat) : GroupContents := (s.groups[slot]?).getD []

/-- The present contents of a group. -/
def contents (s : Settings) (g : SettingGroup) : GroupContents := s.contentsAt (s.slot g)

/-- The value of a field of a group. -/
def field (s : Settings) (g : SettingGroup) (name : String) : Value :=
  ((s.contents g).value? name).getD .null

/-- What is kept under a key, if anything is. -/
def content? (s : Settings) : SettingKey → Option SettingContent
  | .group g => some (.group (s.slot g))
  | .field g name => some (.plain (s.field g name))
  | .level => some (.plain (.text s.level.name))
  | .typeAwareness => some (.plain (.bool s.typeAwareness))
  | .timeout => some (.plain (.int s.timeout))
  | .defaultOrder => some (.plain (.text s.defaultOrder))
  | .other key => (s.extra.lookup key).map .plain

/-- What is kept under a dotted key. -/
def read (s : Settings) (key : String) : Result SettingContent :=
  match s.content? (.ofText key) with
  | some c => .ok c
  | none => .error (.settingUnknown key)

/-- What is kept under a name that is declared beside the groups or as a group. -/
def attribute? (s : Settings) (name : String) : Option SettingContent :=
  match SettingKey.ofName name with
  | .other _ => none
  | key => s.content? key

/-- A dotted key holds something. -/
def hasKey (s : Settings) (key : String) : Bool := (s.content? (.ofText key)).isSome

/-! ### Assignment -/

/-- A list of named values with a value set under a name. A name that is there keeps its place. -/
def put (name : String) (v : Value) : List (String × Value) → List (String × Value)
  | [] => [(name, v)]
  | m :: ms => if m.1 == name then (name, v) :: ms else m :: put name v ms

/-- The settings with a group taken from a slot. -/
def point (s : Settings) (g : SettingGroup) (slot : Nat) : Settings :=
  match g with
  | .database => { s with database := slot }
  | .procedures => { s with procedures := slot }

/-- The settings with something kept under a key, which accepts it. -/
def keep (s : Settings) : SettingKey → SettingContent → Settings
  | .group g, .group slot => s.point g slot
  | .field g name, .plain v =>
    { s with groups := s.groups.modify (s.slot g) fun c => c.set name v }
  | .level, .plain (.text name) => { s with level := (LogLevel.ofName? name).getD s.level }
  | .typeAwareness, .plain (.bool b) => { s with typeAwareness := b }
  | .timeout, .plain (.int n) => { s with timeout := n.toNat }
  | .defaultOrder, .plain (.text key) => { s with defaultOrder := key }
  | .other key, .plain v => { s with extra := put key v s.extra }
  | _, _ => s

/-- A value that its key refuses. -/
def refused : Result SettingContent := .error (.fault .invalidSetting)

/-- What a key keeps of a value beside the groups. -/
def accept (key : SettingKey) (v : Value) : Result SettingContent :=
  match key with
  | .level => match v with
    | .text name => if (LogLevel.ofName? name).isSome then .ok (.plain v) else refused
    | _ => refused
  | .typeAwareness => match FieldKind.flag? v with
    | some b => .ok (.plain (.bool b))
    | none => refused
  | .timeout => match FieldKind.integer? v with
    | some n => if 0 ≤ n then .ok (.plain (.int n)) else refused
    | none => refused
  | .defaultOrder => match FieldKind.text? v with
    | some s => .ok (.plain (.text s))
    | none => refused
  | _ => .ok (.plain v)

/-- The settings with a value assigned to a key. The key of a group takes a mapping, which makes a
new group. -/
def assignTo (s : Settings) (key : SettingKey) (v : Value) : Result Settings :=
  match key with
  | .group g => do
    let c ← GroupContents.ofValue s.environ g v
    pure ({ s with groups := s.groups ++ [c] }.keep key (.group s.groups.length))
  | key => do
    let c ← accept key v
    pure (s.keep key c)

/-- The settings with a value assigned to a dotted key. -/
def assign (s : Settings) (key : String) (v : Value) : Result Settings := s.assignTo (.ofText key) v

/-- Assigns values in order, up to the first one that is refused. -/
def assignAll : List (String × Value) → Settings → Result Unit × Settings
  | [], s => (.ok (), s)
  | (key, v) :: changes, s =>
    match s.assign key v with
    | .ok s => assignAll changes s
    | .error e => (.error e, s)

/-- The settings without what is kept under a key that is not declared. -/
def drop (s : Settings) (key : String) : Settings :=
  { s with extra := s.extra.filter fun m => m.1 != key }

/-- The settings without what is kept under a dotted key. Declared keys cannot be deleted. -/
def delete (s : Settings) (key : String) : Result Settings :=
  if (s.extra.lookup key).isSome then .ok (s.drop key) else .error (.settingUndeletable key)

/-! ### All settings -/

mutual
/-- The entries of a value under a dotted key: those of its members when it is a mapping. -/
def entries (key : String) : Value → Result (List (String × Value))
  | .dict ms => memberEntries (key ++ ".") ms
  | v => .ok [(key, v)]
  termination_by structural v => v
/-- The entries of the members of a mapping behind a stem. Only a text can be the key of a value
that is no mapping. -/
def memberEntries (stem : String) : List (Value × Value) → Result (List (String × Value))
  | [] => .ok []
  | (k, v) :: ms =>
    if !k.asText?.isSome && v.members?.isNone then .error (.fault .wrongType)
    else
      match entries (stem ++ k.plainText) v with
      | .error e => .error e
      | .ok es => (memberEntries stem ms).map (es ++ ·)
  termination_by structural ms => ms
end

/-- Entries with one value for each key: the last one, at the place of the first. -/
def unique (es : List (String × Value)) : List (String × Value) :=
  es.foldl (fun acc e => put e.1 e.2 acc) []

/-- A group as a mapping. -/
def groupValue (c : GroupContents) : Value := .dict (c.map fun m => (.text m.1, m.2))

/-- The declared settings as a mapping. -/
def declared (s : Settings) : Members :=
  [(.text "database", groupValue (s.contents .database)),
   (.text "procedures", groupValue (s.contents .procedures)),
   (.text "loglevel", .text s.level.name), (.text "type_awareness", .bool s.typeAwareness),
   (.text "timeout", .int s.timeout), (.text "default_order", .text s.defaultOrder)]

/-- The declared settings by dotted keys. -/
def flatten (s : Settings) : Result (List (String × Value)) :=
  (memberEntries "" s.declared).map unique

/-- The dotted keys of all settings. -/
def keys (s : Settings) : Result (List String) :=
  s.flatten.map fun es => es.map Prod.fst ++ s.extra.map Prod.fst

/-- The number of settings. -/
def size (s : Settings) : Result Nat := s.flatten.map fun es => es.length + s.extra.length

/-- The settings and what they hold, read key by key. -/
def items (s : Settings) : Result (List (String × SettingContent)) := do
  (← s.keys).mapM fun key => do
    let c ← s.read key
    pure (key, c)

/-- The settings that take what is not given from the environment. -/
def ofEnviron (e : Environ) : Result Settings := do
  let group (g : SettingGroup) : Result (Option Value) :=
    match e.value? ("docstore_" ++ g.name) with
    | none => .ok none
    | some s => match Json.read? s with
      | some .null => .ok none
      | some v => .ok (some v)
      | none => .error (.fault .unreadableSetting)
  let contents (g : SettingGroup) (given : Option Value) : Result GroupContents :=
    match given with
    | none => GroupContents.make e g []
    | some (.dict ms) => GroupContents.ofValue e g (.dict (ms.map fun (k, v) => (g.fieldKey k, v)))
    | some v => GroupContents.ofValue e g v
  let database ← group .database
  let procedures ← group .procedures
  let database ← contents .database database
  let procedures ← contents .procedures procedures
  let start : Settings :=
    ⟨e, [database, procedures], 0, 1, .info, false, 30000, "$created", []⟩
  let given (key : SettingKey) (names : List String) (s : Settings) : Result Settings :=
    match names.findSome? e.value? with
    | some v => s.assignTo key (.text v)
    | none => .ok s
  let s ← given .level ["loglevel", "docstore_log_level"] start
  let s ← given .typeAwareness ["type_awareness", "docstore_type_awareness"] s
  let s ← given .timeout ["docstore_timeout"] s
  given .defaultOrder ["docstore_default_order"] s

/-- The settings unless others are given. -/
def standard : Settings :=
  ⟨[], [SettingGroup.database, SettingGroup.procedures].map fun g =>
    g.fields.map fun f => (f.name, f.default), 0, 1, .info, false, 30000, "$created", []⟩

/-- The names of the procedures of the server. -/
def serverProcedures (s : Settings) : Procedures :=
  ⟨(s.field .procedures "dispatch").plainText, (s.field .procedures "relations").plainText⟩

end Settings

end DocumentSql

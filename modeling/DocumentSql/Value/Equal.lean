/-
When two values count as equal, when a value counts as true, and when it may be the key of a
mapping.

Numbers of all kinds are compared by value, truth values counting as zero and one; texts,
lists, tuples and mappings are equal when they have the same kind and equal parts, and so are
typed arrays and tables.
-/
import DocumentSql.Value.Basic

namespace DocumentSql

/-- The value of a real number. -/
inductive RealValue where
  /-- A quotient. -/
  | ratio (num : Int) (den : Nat)
  /-- An infinity. -/
  | infinite (negative : Bool)
  /-- No number. -/
  | nan

namespace RealValue

/-- Equality of real values: a NaN is equal to nothing. -/
def eq : RealValue → RealValue → Bool
  | ratio n d, ratio m c => n * c == m * d
  | infinite s, infinite t => s == t
  | _, _ => false

/-- The value of a floating-point number. -/
def ofBinary (x : Binary) : RealValue :=
  match x with
  | .nan => nan
  | .infinite s => infinite s
  | x => match x.ratio? with
    | some (n, d) => ratio n d
    | none => nan

/-- The value of a decimal. -/
def ofDecimal (d : Decimal) : RealValue :=
  match d with
  | .nan .. => nan
  | .infinite s => infinite s
  | d => match d.ratio? with
    | some (n, c) => ratio n c
    | none => nan

end RealValue

namespace Value

/-- The real and the imaginary part of a number of any kind. -/
def number? : Value → Option (RealValue × RealValue)
  | bool b => some (.ratio (if b then 1 else 0) 1, .ratio 0 1)
  | int n => some (.ratio n 1, .ratio 0 1)
  | float x => some (.ofBinary x, .ratio 0 1)
  | decimal d => some (.ofDecimal d, .ratio 0 1)
  | complex re im => some (.ofBinary re, .ofBinary im)
  | scalar _ plain => plain.number?
  | _ => none

/-- Two numbers are equal when both parts are. -/
def sameNumber (a b : RealValue × RealValue) : Bool := a.1.eq b.1 && a.2.eq b.2

/-- Equality of values without parts, apart from numbers and texts. -/
def sameAtom : Value → Value → Bool
  | null, null => true
  | date d, date e => d == e
  | moment m, moment n => m.same n
  | time s, time t => s.same t
  | uuid s, uuid t => s == t
  | bytes s, bytes t => s == t
  | callable s, callable t => s == t
  | class_ s, class_ t => s == t
  | key k, key l => k == l
  | _, _ => false

mutual
/-- Equality of values. -/
def same : Value → Value → Bool
  | list xs, list ys => sameAll xs ys
  | tuple xs, tuple ys => sameAll xs ys
  | set xs, set ys => xs.length == ys.length && sameAmong xs ys
  | dict ms, dict ns => ms.length == ns.length && sameMembers ms ns
  | array k v, array l w => k == l && v.same w
  | frame cs rs, frame ds ss => cs == ds && sameRows rs ss
  | function n i r, function m j s => n == m && i == j && r.same s
  | documentType n i s m, documentType n' i' s' m' =>
      n.same n' && i.same i' && s.same s' && m.same m'
  | v, w =>
    match v.number?, w.number? with
    | some a, some b => sameNumber a b
    | _, _ => match v.asText?, w.asText? with
      | some s, some t => s == t
      | _, _ => sameAtom v w
  termination_by structural v => v
/-- Equality of lists, element by element. -/
def sameAll : List Value → List Value → Bool
  | [], [] => true
  | v :: vs, w :: ws => v.same w && sameAll vs ws
  | _, _ => false
  termination_by structural vs => vs
/-- Equality of the rows of tables. -/
def sameRows : List (List Value) → List (List Value) → Bool
  | [], [] => true
  | r :: rs, s :: ss => sameAll r s && sameRows rs ss
  | _, _ => false
  termination_by structural rs => rs
/-- Every value has an equal among the others. -/
def sameAmong : List Value → List Value → Bool
  | [], _ => true
  | v :: vs, ws => ws.any (fun w => v.same w) && sameAmong vs ws
  termination_by structural vs => vs
/-- Every member has an equal among the others. -/
def sameMembers : List (Value × Value) → List (Value × Value) → Bool
  | [], _ => true
  | (k, v) :: ms, ns => ns.any (fun n => k.same n.1 && v.same n.2) && sameMembers ms ns
  termination_by structural ms => ms
end

/-- The value counts as true: it is neither nothing nor a zero nor empty. -/
def truth : Value → Bool
  | null => false
  | bool b => b
  | int n => n != 0
  | float x => !x.isZero
  | text s => !s.isEmpty
  | list xs | tuple xs | set xs => !xs.isEmpty
  | dict ms => !ms.isEmpty
  | complex re im => !(re.isZero && im.isZero)
  | decimal d => !d.isZero
  | bytes bs => !bs.isEmpty
  | scalar _ plain => plain.truth
  | array _ plain => plain.truth
  | _ => true

/-- The value, or another one in place of a value that counts as false. -/
def orElse (v w : Value) : Value := if v.truth then v else w

/-- The set of values: of equal ones the first is kept. -/
def setOf (vs : List Value) : Value :=
  set (vs.foldl (fun acc v => if acc.any (·.same v) then acc else acc ++ [v]) [])

mutual
/-- The value may be a member of a set or the key of a mapping. -/
def isKey : Value → Bool
  | list _ | set _ | dict _ | array .. | frame .. | documentType .. => false
  | decimal (.nan _ true _) => false
  | tuple xs => areKeys xs
  | _ => true
  termination_by structural v => v
/-- All values may be keys. -/
def areKeys : List Value → Bool
  | [] => true
  | v :: vs => v.isKey && areKeys vs
  termination_by structural vs => vs
end

end Value

namespace Members

/-- The value under a key. -/
def get? (ms : Members) (key : Value) : Option Value :=
  (ms.find? fun m => m.1.same key).map Prod.snd

/-- The value under a text key. -/
def getText? (ms : Members) (key : String) : Option Value := get? ms (.text key)

/-- The value under a text key, or nothing. -/
def getD (ms : Members) (key : String) : Value := (getText? ms key).getD .null

/-- The mapping with a value set under a key. A key that is there keeps its place. -/
def insert (key value : Value) : Members → Members
  | [] => [(key, value)]
  | m :: ms => if m.1.same key then (m.1, value) :: ms else m :: insert key value ms

/-- The mapping with the members of another one set in order. -/
def merge (ms extra : Members) : Members := extra.foldl (fun acc m => insert m.1 m.2 acc) ms

/-- The mapping with the given members set in order; of members with one key the last value
stands at the place of the first. -/
def ofList (ms : Members) : Members := merge [] ms

end Members

end DocumentSql

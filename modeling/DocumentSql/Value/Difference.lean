/-
When a stored value and a new one differ.

Values of different classes differ. Mappings are compared member by member without regard to
order, and members whose keys begin with two underscores do not count. Lists that hold plain
values only are compared by equality; in other lists, and everywhere else, the classes of the
elements count too, and moments without a zone are taken in universal time. Of tables the names
of the columns are compared.
-/
import DocumentSql.Value.Equal

namespace DocumentSql

namespace Value

/-- The value has no parts. -/
def isBasic : Value → Bool
  | null | bool _ | int _ | float _ | text _ | complex .. | decimal _ | date _ | moment _ | time _
  | uuid _ | bytes _ | scalar .. | cast _ => true
  | _ => false

/-- The key of a member that does not count. -/
def isPrivateKey (k : Value) : Bool :=
  match k.asText? with
  | some s => ['_', '_'].isPrefixOf s.toList
  | none => false

/-- A member that counts has no partner among others. -/
def lacksPartner (others : Members) (m : Value × Value) : Bool :=
  !isPrivateKey m.1 && (Members.get? others m.1).isNone

mutual
/-- The two values differ. -/
def differs : Value → Value → Bool
  | list xs, list ys =>
    if xs.all isBasic && ys.all isBasic then !sameAll xs ys else itemsDiffer xs ys
  | tuple xs, tuple ys =>
    if xs.all isBasic && ys.all isBasic then !sameAll xs ys else itemsDiffer xs ys
  | dict ms, dict ns => membersDiffer ms ns || ns.any (lacksPartner ms)
  | moment m, moment n => !m.zoned.same n.zoned
  | frame cs _, frame ds _ => cs != ds
  | v, w => !(v.className == w.className && v.same w)
  termination_by structural v => v
/-- Two lists differ in length or in an element. -/
def itemsDiffer : List Value → List Value → Bool
  | [], [] => false
  | v :: vs, w :: ws => differs v w || itemsDiffer vs ws
  | _, _ => true
  termination_by structural vs => vs
/-- A member that counts differs from its partner, or has none. -/
def membersDiffer : List (Value × Value) → List (Value × Value) → Bool
  | [], _ => false
  | (k, v) :: ms, ns =>
    (!isPrivateKey k &&
      match Members.get? ns k with
      | some w => differs v w
      | none => true) || membersDiffer ms ns
  termination_by structural ms => ms
end

theorem differs_list_list {xs ys : List Value} : (list xs).differs (list ys) =
    if xs.all isBasic && ys.all isBasic then !sameAll xs ys else itemsDiffer xs ys := by
  rw [differs]

mutual
/-- The plain form of the value holds a NaN that is made anew each time the plain form is taken,
so that the value differs from itself. -/
def differsFromItself : Value → Bool
  | scalar _ plain => holdsNan plain
  | array _ plain => holdsNan plain
  | tuple xs => anyDiffersFromItself xs
  | _ => false
  termination_by structural v => v
/-- One of the values differs from itself. -/
def anyDiffersFromItself : List Value → Bool
  | [] => false
  | v :: vs => differsFromItself v || anyDiffersFromItself vs
  termination_by structural vs => vs
/-- The value is a NaN or a list that holds one. -/
def holdsNan : Value → Bool
  | float x => x.isNan
  | complex re im => re.isNan || im.isNan
  | list xs => anyHoldsNan xs
  | _ => false
  termination_by structural v => v
/-- One of the values is a NaN or a list that holds one. -/
def anyHoldsNan : List Value → Bool
  | [] => false
  | v :: vs => holdsNan v || anyHoldsNan vs
  termination_by structural vs => vs
end

end Value

end DocumentSql

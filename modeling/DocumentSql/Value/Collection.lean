/-
Values as collections: their plain form, the lists and mappings that they stand for, and the
elements that they consist of.
-/
import DocumentSql.Value.Equal

namespace DocumentSql

namespace Value

mutual
/-- The plain form of a value: typed elements and arrays become plain values, and tuples become
lists of plain values. What stands inside lists and mappings is kept. -/
def normalize : Value → Value
  | scalar _ plain => plain
  | array _ plain => plain
  | tuple xs => list (normalizeAll xs)
  | v => v
  termination_by structural v => v
/-- The plain forms of values. -/
def normalizeAll : List Value → List Value
  | [] => []
  | v :: vs => v.normalize :: normalizeAll vs
  termination_by structural vs => vs
end

theorem normalizeAll_eq_map (vs : List Value) : normalizeAll vs = vs.map normalize := by
  induction vs with
  | nil => rfl
  | cons v vs ih => simp [normalizeAll, ih]

/-- A single value, none, or the elements of a list or tuple. -/
def asList : Value → List Value
  | null => []
  | list xs => xs
  | tuple xs => xs
  | v => [v]

/-- The elements that a value consists of, if it consists of any: those of a list, the
characters of a text, the keys of a mapping, the numbers of a byte string. -/
def elements? : Value → Option (List Value)
  | list xs | tuple xs | set xs => some xs
  | dict ms => some (ms.map Prod.fst)
  | bytes bs => some (bs.map fun b => int b.toNat)
  | array kind (list xs) => some (xs.map fun x => match x with
      | list ys => array kind (list ys)
      | x => scalar kind x)
  | frame columns _ => some (columns.map text)
  | v => v.asText?.map fun s => s.toList.map fun c => text (String.singleton c)

/-- Why a value is no mapping. -/
inductive MappingFault where
  /-- The value, or a part of it, has no elements, or a key may not be one. -/
  | type
  /-- A part is no pair. -/
  | value
deriving DecidableEq

/-- The mapping given by a list of pairs. -/
def pairs? : List Value → Except MappingFault Members
  | [] => .ok []
  | p :: ps =>
    match p.elements? with
    | none => .error .type
    | some [k, v] =>
      if k.isKey then (pairs? ps).map ((k, v) :: ·) else .error .type
    | some _ => .error .value

/-- The mapping that a value stands for: itself, or a collection of pairs. -/
def toMapping (v : Value) : Except MappingFault Members :=
  match v with
  | dict ms => .ok ms
  | v => match v.elements? with
    | none => .error .type
    | some ps => (pairs? ps).map Members.ofList

end Value

end DocumentSql

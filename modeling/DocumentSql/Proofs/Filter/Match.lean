/-
The way to match.

The way to match decides how the entries of a mapping are joined, and nothing else.  It is handed
down through the whole specification, past lists, operators, calls and tables, to the mappings.
There one operand is the same under either operator, since a single fragment is kept as it is.  So
the way to match cannot be told from a condition, or from the error, unless a mapping in the place
of a condition has several entries (`Filter.condition_matched`).
-/
import DocumentSql.Proofs.Filter.Shape

namespace DocumentSql.Filter

/-! ### Specifications without wide mappings -/

/-- The items are those of a call: the operator of calls stands at their head. -/
def headsCall : List Value → Bool
  | [] => false
  | v :: _ =>
    match OperatorToken.ofValue v with
    | .ok (some (.call _)) => true
    | _ => false

mutual
/-- No mapping in the place of a condition has several entries. The rows of a table and the items
of a call are no such mappings. -/
def isNarrow : Value → Bool
  | .dict ms => ms.length ≤ 1
  | .list vs => headsCall vs || areNarrow vs
  | .tuple vs => headsCall vs || areNarrow vs
  | _ => true
  termination_by structural v => v
/-- No mapping in the place of a condition in one of the specifications has several entries. -/
def areNarrow : List Value → Bool
  | [] => true
  | v :: vs => isNarrow v && areNarrow vs
  termination_by structural vs => vs
end

/-! ### Filters with the same fragments -/

/-- Two filters compile to the same fragment, or fail with the same error. -/
def SameFragment (f g : Filter) : Prop := ∀ s, compile s f = compile s g

lemma SameFragment.refl (f : Filter) : SameFragment f f := fun _ => rfl

variable {fs gs : List Filter}

lemma sameFragment_compileAll (h : List.Forall₂ SameFragment fs gs) (s : Scope) :
    compileAll s fs = compileAll s gs := by
  induction h with
  | nil => rfl
  | cons hfg _ ih => rw [compileAll, compileAll, hfg s, ih]

lemma sameFragment_joined (h : List.Forall₂ SameFragment fs gs) (op : Predicate.Operator) :
    SameFragment (joined op fs) (joined op gs) := by
  intro s
  cases op with
  | and => rw [joined, joined, compile, compile, sameFragment_compileAll h]
  | or => rw [joined, joined, compile, compile, sameFragment_compileAll h]

/-- A single operand is joined to the same fragment by either operator. -/
lemma sameFragment_single (op op' : Predicate.Operator) (f : Filter) :
    SameFragment (joined op [f]) (joined op' [f]) := by
  have hjoin : ∀ p, Predicate.join [p] .and = Predicate.join [p] .or := by
    intro p
    rw [Predicate.join, Predicate.join]
    cases hp : p.isEmpty with
    | true => rw [List.filter_cons_of_neg (by simp [hp])]; rfl
    | false => rw [List.filter_cons_of_pos (by simp [hp])]; rfl
  have hsame : ∀ s, compile s (all [f]) = compile s (any [f]) := by
    intro s
    rw [compile, compile, compileAll]
    cases compile s f with
    | error e => rfl
    | ok p => exact hjoin p
  cases op with
  | and =>
    cases op' with
    | and => exact .refl _
    | or => exact hsame
  | or =>
    cases op' with
    | and => exact fun s => (hsame s).symm
    | or => exact .refl _

/-! ### Results of parsing -/

/-- Both specifications are refused with the same error, or what they describe has the same
fragments. -/
inductive SameOutcome : Result (List Filter) → Result (List Filter) → Prop where
  | refused (e : Error) : SameOutcome (.error e) (.error e)
  | accepted {fs gs : List Filter} (h : List.Forall₂ SameFragment fs gs) :
    SameOutcome (.ok fs) (.ok gs)

/-- What a specification describes, as a list of one filter or none. -/
def described (x : Result (Option Filter)) : Result (List Filter) := x.map Option.toList

namespace SameOutcome

/-- Specifications that have one outcome are refused with the same error, or both describe nothing,
or filters with the same fragments. -/
lemma cases_described {x y : Result (Option Filter)} (h : SameOutcome (described x) (described y)) :
    (∃ e, x = .error e ∧ y = .error e) ∨ (x = .ok none ∧ y = .ok none) ∨
      ∃ f g, x = .ok (some f) ∧ y = .ok (some g) ∧ SameFragment f g := by
  cases x with
  | error e =>
    cases y with
    | error e' =>
      cases h
      exact Or.inl ⟨e, rfl, rfl⟩
    | ok g => cases h
  | ok f =>
    cases y with
    | error e => cases h
    | ok g =>
      cases h with
      | accepted h =>
        cases f <;> cases g <;> cases h
        · exact Or.inr (Or.inl ⟨rfl, rfl⟩)
        · next h _ => exact Or.inr (Or.inr ⟨_, _, rfl, rfl, h⟩)

lemma refl (x : Result (List Filter)) : SameOutcome x x := by
  cases x with
  | error e => exact .refused e
  | ok fs => exact .accepted (List.forall₂_same.2 fun f _ => .refl f)

lemma joined {x y : Result (List Filter)} (h : SameOutcome x y) (op : Predicate.Operator) :
    SameOutcome (described (x.map (joined? op))) (described (y.map (joined? op))) := by
  cases h with
  | refused e => exact .refused e
  | accepted h =>
    refine .accepted ?_
    cases h with
    | nil => exact .nil
    | cons hfirst hrest => exact .cons (sameFragment_joined (.cons hfirst hrest) op) .nil

lemma append {x y : Result (Option Filter)} {xs ys : Result (List Filter)}
    (h : SameOutcome (described x) (described y)) (hrest : SameOutcome xs ys) :
    SameOutcome (x.bind fun f => xs.map (f.toList ++ ·))
      (y.bind fun g => ys.map (g.toList ++ ·)) := by
  rcases h.cases_described with ⟨e, rfl, rfl⟩ | ⟨rfl, rfl⟩ | ⟨f, g, rfl, rfl, hfg⟩
  · exact .refused e
  · cases hrest with
    | refused e => exact .refused e
    | accepted hrest => exact .accepted hrest
  · cases hrest with
    | refused e => exact .refused e
    | accepted hrest => exact .accepted (.cons hfg hrest)

end SameOutcome

/-! ### Parsing -/

variable (r : FunctionRegistry) {op op' : Predicate.Operator}

/-- The entry of a mapping that has one only is joined with nothing. -/
lemma sameOutcome_ofMembers {ms : Members} (h : ms.length ≤ 1) :
    SameOutcome (described (ofMembers op ms)) (described (ofMembers op' ms)) := by
  match ms, h with
  | [], _ => exact .refl _
  | [m], _ =>
    have hread : comparisons [m] = (comparison m.1 m.2).map fun f => [f] := by
      rw [comparisons]
      cases comparison m.1 m.2 <;> rfl
    unfold ofMembers
    rw [hread]
    cases comparison m.1 m.2 with
    | error e => exact .refused e
    | ok f => exact .accepted (.cons (sameFragment_single op op' f) .nil)

lemma parseAll_eq (v : Value) (vs : List Value) : parseAll r op (v :: vs) =
    (parse r op v).bind fun f => (parseAll r op vs).map (f.toList ++ ·) := by
  rw [parseAll]
  cases parse r op v <;> rfl

/-- Only the operands of a list of filters see the way to match. -/
lemma sameOutcome_parseItems {vs : List Value} (hcall : headsCall vs = true ∨
      SameOutcome (parseAll r op vs) (parseAll r op' vs) ∧
      SameOutcome (parseAll r op vs.tail) (parseAll r op' vs.tail)) :
    SameOutcome (described (parseItems r op vs)) (described (parseItems r op' vs)) := by
  cases vs with
  | nil => exact .refl _
  | cons v vs =>
    dsimp only [List.tail_cons] at hcall
    cases htoken : OperatorToken.ofValue v with
    | error e =>
      rw [parseItems, parseItems, htoken]
      exact .refl _
    | ok token =>
      cases token with
      | none =>
        have hhead : ∀ w ∈ (v :: vs).head?, OperatorToken.ofValue w = .ok none := by
          simpa using htoken
        rw [parseItems_unmarked hhead, parseItems_unmarked hhead]
        rcases hcall with hcall | ⟨hall, -⟩
        · simp [headsCall, htoken] at hcall
        · exact hall.joined .and
      | some token =>
        rw [parseItems, parseItems, htoken]
        dsimp only
        split
        · exact .refl _
        · cases token with
          | call returnType => exact .refl _
          | junction joiner =>
            rcases hcall with hcall | ⟨-, hrest⟩
            · simp [headsCall, htoken] at hcall
            · exact hrest.joined joiner

mutual
/-- Without wide mappings, a specification describes the same whatever the operator is that joins
the entries of mappings. -/
theorem sameOutcome_parse : ∀ {v : Value}, isNarrow v = true →
    SameOutcome (described (parse r op v)) (described (parse r op' v))
  | .dict ms, h => sameOutcome_ofMembers (by simpa [isNarrow] using h)
  | .list vs, h => by
    have hitems : headsCall vs = true ∨ areNarrow vs = true := by simpa [isNarrow] using h
    exact sameOutcome_parseItems r (hitems.imp_right sameOutcome_parseAll)
  | .tuple vs, h => by
    have hitems : headsCall vs = true ∨ areNarrow vs = true := by simpa [isNarrow] using h
    exact sameOutcome_parseItems r (hitems.imp_right sameOutcome_parseAll)
  | .null, _ | .bool _, _ | .int _, _ | .float _, _ | .text _, _ | .set _, _ | .complex .., _
  | .decimal _, _ | .date _, _ | .moment _, _ | .time _, _ | .uuid _, _ | .bytes _, _
  | .scalar .., _ | .array .., _ | .frame .., _ | .function .., _ | .callable _, _ | .class_ _, _
  | .key _, _ | .cast _, _ | .documentType .., _ => .refl _
  termination_by structural v => v
/-- The same for specifications one after the other, with the first one and without it. -/
theorem sameOutcome_parseAll : ∀ {vs : List Value}, areNarrow vs = true →
    SameOutcome (parseAll r op vs) (parseAll r op' vs) ∧
      SameOutcome (parseAll r op vs.tail) (parseAll r op' vs.tail)
  | [], _ => ⟨.refl _, .refl _⟩
  | v :: vs, h => by
    obtain ⟨hv, hvs⟩ : isNarrow v = true ∧ areNarrow vs = true := by
      simpa [areNarrow] using h
    have hrest := (sameOutcome_parseAll hvs).1
    rw [parseAll_eq, parseAll_eq]
    exact ⟨.append (sameOutcome_parse hv) hrest, hrest⟩
  termination_by structural vs => vs
end

/-! ### Conditions -/

/-- What two specifications with one outcome compile to. -/
lemma SameOutcome.compile {x y : Result (Option Filter)}
    (h : SameOutcome (described x) (described y)) (s : Scope) :
    x.bind (compile? s) = y.bind (compile? s) := by
  rcases h.cases_described with ⟨e, rfl, rfl⟩ | ⟨rfl, rfl⟩ | ⟨f, g, rfl, rfl, hfg⟩
  · rfl
  · rfl
  · exact hfg s

/-- Whether all or any entries of mappings must hold makes no difference to a condition, or to the
error, when no mapping in the place of a condition has several entries. -/
theorem condition_matched (s : Scope) {spec : Value} (h : isNarrow spec = true) :
    condition r s (.text "all") spec = condition r s (.text "any") spec := by
  have hcondition : ∀ m op, matchOperator m = .ok op →
      condition r s m spec = (parse r op spec).bind (compile? s) := by
    intro m op hm
    rw [condition, hm]
    rfl
  rw [hcondition _ .and rfl, hcondition _ .or rfl]
  exact (sameOutcome_parse r h).compile s

/-- Operators, a list without one and a table of two columns around mappings of one entry. -/
def nestedSpec : Value :=
  .list [.text "OR", .dict [(.text "name", .text "Ann")],
    .list [.dict [(.text "$id", .int 1)], .text "created > now()"],
    .tuple [.text "AND", .frame ["$id", "$type"] [[.int 2, .text "page"]]]]

/-- The columns of the table stay joined by AND under either way to match. -/
theorem nestedSpec_matched : isNarrow nestedSpec = true ∧
    (condition [] documentScope (.text "any") nestedSpec).isOk = true ∧
    condition [] documentScope (.text "all") nestedSpec =
      condition [] documentScope (.text "any") nestedSpec := by
  have hnarrow : isNarrow nestedSpec = true := by decide
  have hok : (condition [] documentScope (.text "any") nestedSpec).isOk = true := by
    decide +kernel
  exact ⟨hnarrow, hok, condition_matched [] documentScope hnarrow⟩

end DocumentSql.Filter

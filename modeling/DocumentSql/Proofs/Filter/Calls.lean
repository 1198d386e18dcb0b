/-
The calls of a parsed filter.

A list with the operator of calls at its head describes one call: what stands in front of the first
reference to a function are keys, what stands behind it are arguments.  `callLists` collects these
lists of a specification from left to right.  By induction along the parser, the calls of a parsed
filter are what they describe, one for each (`describes_of_parses`).
-/
import DocumentSql.Proofs.Filter.Shape
import DocumentSql.Proofs.Function.Registry

namespace DocumentSql

namespace Filter

variable {r : FunctionRegistry} {op : Predicate.Operator}

/-! ### The calls of a filter -/

mutual
/-- The calls of a filter, from left to right. -/
def calls : Filter → List Filter
  | call keys f arguments returnType => [call keys f arguments returnType]
  | all fs | any fs => callsAll fs
  | _ => []
  termination_by structural f => f
/-- The calls of filters, from left to right. -/
def callsAll : List Filter → List Filter
  | [] => []
  | f :: fs => f.calls ++ callsAll fs
  termination_by structural fs => fs
end

lemma callsAll_eq_flatMap (fs : List Filter) : callsAll fs = fs.flatMap calls := by
  induction fs with
  | nil => rfl
  | cons f fs ih => rw [callsAll, ih, List.flatMap_cons]

lemma callsAll_append (fs gs : List Filter) :
    callsAll (fs ++ gs) = callsAll fs ++ callsAll gs := by
  simp [callsAll_eq_flatMap]

lemma callsAll_joined? (op : Predicate.Operator) (fs : List Filter) :
    callsAll (joined? op fs).toList = callsAll fs := by
  cases fs with
  | nil => rfl
  | cons f fs =>
    cases op with
    | and => simp [joined, callsAll, calls]
    | or => simp [joined, callsAll, calls]

/-! ### The calls of a specification -/

mutual
/-- The lists of a specification that describe calls, from left to right: the type that the
operator gives, and the items behind it. -/
def callLists : Value → List (Option String × List Value)
  | .list items | .tuple items => callListsIn items
  | _ => []
  termination_by structural v => v
/-- The lists that describe calls in a list of items. -/
def callListsIn : List Value → List (Option String × List Value)
  | [] => []
  | first :: rest =>
    match OperatorToken.ofValue first with
    | .ok (some (.call returnType)) => [(returnType, rest)]
    | .ok (some (.junction _)) => callListsOf rest
    | _ => callLists first ++ callListsOf rest
  termination_by structural items => items
/-- The lists that describe calls in specifications one after the other. -/
def callListsOf : List Value → List (Option String × List Value)
  | [] => []
  | v :: vs => callLists v ++ callListsOf vs
  termination_by structural vs => vs
end

/-- The items behind the operator of calls describe a call: the first reference among them leads to
a registered function, the items in front of it are read as keys, and those behind it are kept as
arguments. -/
inductive Describes (r : FunctionRegistry) : Option String × List Value → Filter → Prop
  | intro {returnType : Option String} {names arguments : List Value} {reference : Value}
    {keys : List FieldKey} {f : PredicateFunction}
    (hnames : ∀ v ∈ names, FunctionRegistry.isReference v = false)
    (hreference : FunctionRegistry.isReference reference = true)
    (hfind : r.find reference = .ok f) (hregistered : r.IsRegistered f)
    (hkeys : List.Forall₂ (fun v k => FieldKey.parse v = .ok k) names keys) :
    Describes r (returnType, names ++ reference :: arguments)
      (call keys f (arguments.map Value.normalize) (callType returnType f))

/-! ### Parsing -/

lemma describes_ofCall (hr : r.IsFormed) {returnType : Option String} {items : List Value}
    {g : Filter} (h : ofCall r returnType items = .ok g) :
    g.calls = [g] ∧ Describes r (returnType, items) g := by
  obtain ⟨names, reference, arguments, hsplit⟩ := exists_splitCall h
  obtain ⟨f, keys, hfind, hkeys, rfl⟩ := ofCall_eq_ok hsplit h
  obtain ⟨rfl, hnames, hreference⟩ := eq_of_splitCall hsplit
  exact ⟨rfl, .intro hnames hreference hfind (hr.isRegistered_of_find hfind)
    (forall₂_of_callKeys hkeys)⟩

lemma calls_of_comparison {name value : Value} {f : Filter} (h : comparison name value = .ok f) :
    f.calls = [] := by
  obtain ⟨k, v, -, -, ⟨-, rfl⟩ | ⟨-, rfl⟩⟩ := comparison_eq_ok h <;> rfl

lemma calls_of_ofMembers {ms : Members} {f : Option Filter} (h : ofMembers op ms = .ok f) :
    callsAll f.toList = [] := by
  obtain ⟨fs, hfs, rfl⟩ := Result.map_eq_ok_iff.1 h
  rw [callsAll_joined?]
  rw [callsAll_eq_flatMap, List.flatMap_eq_nil_iff]
  exact Result.forall_of_forall₂ (forall₂_comparisons hfs) fun m _ f hf => calls_of_comparison hf

lemma calls_of_ofRows {columns : List String} {rows : List (List Value)} {fs : List Filter}
    (h : ofRows columns rows = .ok fs) : callsAll fs = [] := by
  obtain ⟨gs, hgs, rfl⟩ := forall₂_ofRows h
  clear h
  induction hgs with
  | nil => rfl
  | cons hf _ ih =>
    rw [List.flatMap_cons, callsAll_append, calls_of_ofMembers hf, ih, List.append_nil]

lemma calls_of_ofScalar {v : Value} {f : Filter} (h : ofScalar v = .ok f) : f.calls = [] := by
  unfold ofScalar at h
  split at h
  all_goals first
    | (obtain rfl := Except.ok.inj h; rfl)
    | simp at h

lemma callLists_of_items {v : Value} {vs : List Value} (h : items? v = some vs) :
    callLists v = callListsIn vs := by
  cases v <;> simp [items?] at h <;> subst h <;> rfl

lemma callLists_of_isScalarForm {v : Value} (h : isScalarForm v = true) : callLists v = [] := by
  cases v <;> first | rfl | simp [isScalarForm] at h

lemma callListsIn_unmarked {vs : List Value}
    (h : ∀ v ∈ vs.head?, OperatorToken.ofValue v = .ok none) : callListsIn vs = callListsOf vs := by
  cases vs with
  | nil => rfl
  | cons v vs => rw [callListsIn, h v rfl, callListsOf]

mutual
/-- The calls of a parsed filter are those that its specification describes. -/
theorem describes_of_parses (hr : r.IsFormed) : ∀ {v : Value} {f : Option Filter},
    Parses r op v f → List.Forall₂ (Describes r) (callLists v) (callsAll f.toList)
  | _, _, .nothing => .nil
  | _, _, .table h => by
    rw [callsAll_joined?, calls_of_ofRows h]
    exact .nil
  | _, _, .mapping h => by
    rw [calls_of_ofMembers h]
    exact .nil
  | _, _, .scalar hv h => by
    rw [callLists_of_isScalarForm hv, Option.toList_some, callsAll, calls_of_ofScalar h]
    exact .nil
  | _, _, .call hv htoken h => by
    obtain ⟨hcalls, hdescribes⟩ := describes_ofCall hr h
    rw [callLists_of_items hv, callListsIn, htoken, Option.toList_some, callsAll, hcalls]
    exact .cons hdescribes .nil
  | _, _, .joined hv htoken h => by
    rw [callLists_of_items hv, callListsIn, htoken, callsAll_joined?]
    exact describes_of_allParse hr h
  | _, _, .unmarked hv htoken h => by
    rw [callLists_of_items hv, callListsIn_unmarked htoken, callsAll_joined?]
    exact describes_of_allParse hr h
/-- The same for specifications one after the other. -/
theorem describes_of_allParse (hr : r.IsFormed) : ∀ {vs : List Value} {fs : List Filter},
    AllParse r op vs fs → List.Forall₂ (Describes r) (callListsOf vs) (callsAll fs)
  | _, _, .nil => .nil
  | _, _, .cons h hrest => by
    rw [callListsOf, callsAll_append]
    exact List.rel_append (describes_of_parses hr h) (describes_of_allParse hr hrest)
end

end Filter

/-! ### Runs -/

namespace FunctionRegistry

/-- What holds after any run of operations on the empty registry. Every entry is stored under its
own name, an identifier. An operation that fails changes nothing. A name keeps its implementation
until it is unregistered. Every entry is found by its name, as itself, and through its plain
function. The calls of a parsed filter are those that its specification describes, and carry
functions that are registered. -/
theorem run_sound (steps : List Step) :
    (run [] steps).IsFormed ∧
    (∀ s e, ((run [] steps).step s).2 = .error e → ((run [] steps).step s).1 = run [] steps) ∧
    (∀ before after n f, steps = before ++ after → get? (run [] before) n = some f →
      (∃ between s rest, after = between ++ s :: rest ∧
        Removes (run [] (before ++ between)) n s) ∨
      ∃ g, get? (run [] steps) n = some g ∧ g.implementation = f.implementation) ∧
    (run [] steps).FindsEntries ∧
    ∀ op spec f, Filter.parse (run [] steps) op spec = .ok f →
      List.Forall₂ (Filter.Describes (run [] steps)) (Filter.callLists spec)
        (Filter.callsAll f.toList) := by
  have hr : (run [] steps).IsFormed := isFormed_run isFormed_nil steps
  refine ⟨hr, fun s e => step_of_error, ?_, hr.findsEntries,
    fun op spec f h => Filter.describes_of_parses hr (Filter.parses_of_eq_ok h)⟩
  rintro before after n f rfl h
  simp only [run_append]
  exact get?_run h after

/-- A plain function under two names, the first of which is then given to another function. -/
def sharedFunction : List Step :=
  [.register (.text "b") "f" (.text "boolean"), .register (.text "c") "f" (.text "text"),
    .unregister (.text "b"), .register (.text "b") "g" (.text "boolean")]

/-- The first name was unregistered in between, and a call of the plain function is one of what is
under the second name. -/
theorem sharedFunction_sound :
    (∃ between s rest, sharedFunction.drop 2 = between ++ s :: rest ∧
      Removes (run [] (sharedFunction.take 2 ++ between)) "b" s) ∧
    Filter.Describes (run [] sharedFunction) (none, [.text "age", .callable "f", .int 30])
      (.call [.path ["age"]] ⟨"c", some "f", .text "text"⟩ [.int 30] (.text "text")) := by
  obtain ⟨-, -, hkept, -, hcalls⟩ := run_sound sharedFunction
  constructor
  · have hbefore : get? (run [] (sharedFunction.take 2)) "b" =
        some ⟨"b", some "f", .text "boolean"⟩ := rfl
    refine (hkept _ _ "b" _ (List.take_append_drop 2 _).symm hbefore).resolve_right ?_
    rintro ⟨g, hg, himpl⟩
    have hafter : get? (run [] sharedFunction) "b" = some ⟨"b", some "g", .text "boolean"⟩ := rfl
    obtain rfl := Option.some.inj (hafter.symm.trans hg)
    simp at himpl
  · have hparse : Filter.parse (run [] sharedFunction) .and
        (.list [.text "BIND", .text "age", .callable "f", .int 30]) =
        .ok (some (.call [.path ["age"]] ⟨"c", some "f", .text "text"⟩ [.int 30]
          (.text "text"))) := rfl
    exact (List.forall₂_cons.1 (hcalls _ _ _ hparse)).1

end FunctionRegistry

end DocumentSql

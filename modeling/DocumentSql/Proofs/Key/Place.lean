/-
The places that keys name.

The expression of a path is a navigation from the data container, and it is read here as the
database reads it: the name behind an arrow as it is, the literal behind a hash arrow as an array
(`Place.ofText?`).  One name is followed as it is.  Several names are elements of the literal, which
stands there without quotes: a line end behind a name is dropped, and the name NULL is nothing.  So
a path is followed name by name exactly if it has one name, or none of its names is of that kind,
and two paths are not told apart if they differ in nothing else (`FieldKey.resolve_place`).
-/
import DocumentSql.Proofs.Index.Spec
import DocumentSql.Proofs.Sql.ArrayLiteral
import DocumentSql.Proofs.Sql.Expression
import DocumentSql.Proofs.Text.Cut

namespace DocumentSql

open Sql

/-- A place in a row: a column, and the names that are followed into it. A name may be nothing, and
then nothing is reached. -/
structure Place where
  /-- The column. -/
  column : String
  /-- The names. -/
  path : List (Option String)
deriving DecidableEq

/-- The place that a navigation reaches. -/
def Sql.Expr.place? : Expr → Option Place
  | .member _ (.column c) (.cast (.literal name) .text) =>
    some ⟨String.ofList c, [some (String.ofList name)]⟩
  | .along _ (.column c) (.literal cs) =>
    (array? cs).map fun xs => ⟨String.ofList c, xs.map (Option.map String.ofList)⟩
  | _ => none

/-- The place that the text of a navigation reaches. -/
def Place.ofText? (s : String) : Option Place := (Expr.read? s).bind Expr.place?

namespace FieldKey

/-! ### Names of paths -/

/-- The name that a component is as an element of an array literal. -/
def elementName (part : String) : Option String :=
  (bareElement (dropLineEnd part.toList)).map String.ofList

/-- The names that the expression of a path follows. -/
def followed : List String → List (Option String)
  | [name] => [some name]
  | names => names.map elementName

/-- No line end stands behind the name, and it is not NULL. -/
def IsVerbatim (part : String) : Prop :=
  part.toList.getLast? ≠ some '\n' ∧ isNullWord part.toList = false

/-- The names are equal up to a line end, or both are NULL up to a line end. -/
def Alike (a b : String) : Prop :=
  dropLineEnd a.toList = dropLineEnd b.toList ∨
    isNullWord (dropLineEnd a.toList) = true ∧ isNullWord (dropLineEnd b.toList) = true

section

variable {part : String} {path path' : List String} {a b : String} {name cs : List Char} {c : Char}

lemma dropLineEnd_eq_self_iff : dropLineEnd cs = cs ↔ cs.getLast? ≠ some '\n' := by
  unfold dropLineEnd
  split
  · next hlast =>
    have hlast : cs.getLast? = some '\n' := by simpa using hlast
    obtain ⟨ds, rfl⟩ := List.getLast?_eq_some_iff.1 hlast
    simp
  · next hlast => simpa using hlast

lemma elementName_eq_some_iff : elementName part = some part ↔ IsVerbatim part := by
  rw [elementName, Option.map_eq_some_iff]
  constructor
  · rintro ⟨cs, hcs, rfl⟩
    obtain ⟨hnull, hdrop⟩ := bareElement_eq_some_iff.1 hcs
    rw [String.toList_ofList] at hnull hdrop
    rw [hdrop] at hnull
    rw [IsVerbatim, String.toList_ofList]
    exact ⟨dropLineEnd_eq_self_iff.1 hdrop, hnull⟩
  · rintro ⟨hlast, hnull⟩
    refine ⟨part.toList, bareElement_eq_some_iff.2 ?_, String.ofList_toList⟩
    rw [dropLineEnd_eq_self_iff.2 hlast]
    exact ⟨hnull, rfl⟩

lemma elementName_eq_iff : elementName a = elementName b ↔ Alike a b := by
  have hinj : Function.Injective String.ofList := fun cs ds h => by
    simpa using congrArg String.toList h
  rw [elementName, elementName, (Option.map_injective hinj).eq_iff, bareElement_eq_iff, Alike]

lemma followed_of_length_ne_one (h : path.length ≠ 1) : followed path = path.map elementName := by
  unfold followed
  split
  · simp at h
  · rfl

/-- A path is followed name by name if it has one name or none of its names is special. -/
lemma followed_eq_iff :
    followed path = path.map some ↔ path.length = 1 ∨ ∀ part ∈ path, IsVerbatim part := by
  by_cases h : path.length = 1
  · obtain ⟨name, rfl⟩ := List.length_eq_one_iff.1 h
    simp [followed]
  · rw [followed_of_length_ne_one h, List.map_inj_left]
    simp [h, elementName_eq_some_iff]

lemma forall₂_alike_iff :
    List.Forall₂ Alike path path' ↔ path.map elementName = path'.map elementName := by
  rw [← List.forall₂_eq_eq_eq, List.forall₂_map_left_iff, List.forall₂_map_right_iff]
  simp only [elementName_eq_iff]

/-- Paths are followed by the same names if they are equal, or have several names that are
alike. -/
lemma followed_inj_iff : followed path = followed path' ↔
    path = path' ∨ 1 < path.length ∧ 1 < path'.length ∧ List.Forall₂ Alike path path' := by
  have hlength : ∀ {path : List String}, (followed path).length = path.length := by
    intro path
    unfold followed
    split <;> simp
  by_cases hsame : path.length = path'.length
  · by_cases h : path.length = 1
    · obtain ⟨name, rfl⟩ := List.length_eq_one_iff.1 h
      obtain ⟨name', rfl⟩ := List.length_eq_one_iff.1 (hsame.symm.trans h)
      simp [followed]
    · rw [followed_of_length_ne_one h, followed_of_length_ne_one (hsame ▸ h), ← forall₂_alike_iff]
      constructor
      · intro halike
        by_cases hnil : path.length = 0
        · left
          rw [List.length_eq_zero_iff.1 hnil, List.length_eq_zero_iff.1 (hsame.symm.trans hnil)]
        · exact Or.inr ⟨by omega, by omega, halike⟩
      · rintro (rfl | ⟨-, -, halike⟩)
        · exact forall₂_alike_iff.2 rfl
        · exact halike
  · refine iff_of_false (fun h => hsame ?_) ?_
    · rw [← hlength, h, hlength]
    · rintro (rfl | ⟨-, -, halike⟩)
      · exact hsame rfl
      · exact hsame halike.length_eq

/-! ### Components that were read -/

lemma isBareChar_of_isPathChar (h : isPathChar c = true) : isBareChar c = true := by
  have hne : ∀ d, isPathChar d = false → c ≠ d := by
    rintro d hd rfl
    simp [h] at hd
  refine isBareChar_iff.2 ⟨?_, ?_, hne '"' (by decide), hne '\\' (by decide)⟩
  · simp [isArrayBlank, hne ' ' (by decide), hne '\t' (by decide), hne '\n' (by decide),
      hne '\r' (by decide), hne '\x0b' (by decide), hne '\x0c' (by decide)]
  · simp [isArrayDelimiter, hne ',' (by decide), hne '\x7b' (by decide), hne '\x7d' (by decide)]

/-- A component is a name, but for a line end that may stand behind it. -/
def IsPathPart (cs : List Char) : Prop :=
  ∃ name, isComponent name = true ∧ (cs = name ∨ cs = name ++ ['\n'])

lemma isComponent_iff :
    isComponent name = true ↔ name ≠ [] ∧ ∀ c ∈ name, isPathChar c = true := by
  simp [isComponent]

/-- A line end belongs to the last component. -/
lemma isPathPart_of_isPath (h : isPath cs = true) :
    ∀ part ∈ Text.splitAll '.' cs, IsPathPart part := by
  have hname := List.all_eq_true.1 h
  by_cases hlast : cs.getLast? = some '\n'
  · obtain ⟨ds, rfl⟩ := List.getLast?_eq_some_iff.1 hlast
    have hdrop : dropLineEnd (ds ++ ['\n']) = ds := by simp [dropLineEnd]
    obtain ⟨parts, last, hparts, happend⟩ :=
      Text.splitAll_append (by decide : '.' ∉ ['\n']) ds
    rw [hdrop, hparts] at hname
    rw [happend]
    intro part hpart
    rcases List.mem_append.1 hpart with hpart | hpart
    · exact ⟨part, hname part (List.mem_append_left _ hpart), Or.inl rfl⟩
    · obtain rfl : part = last ++ ['\n'] := by simpa using hpart
      exact ⟨last, hname last (by simp), Or.inr rfl⟩
  · rw [dropLineEnd_eq_self_iff.2 hlast] at hname
    exact fun part hpart => ⟨part, hname part hpart, Or.inl rfl⟩

/-- A component is an element of an array literal, without the line end behind it. -/
lemma isBare_of_isPathPart (h : IsPathPart cs) : IsBare cs (bareElement (dropLineEnd cs)) := by
  obtain ⟨name, hname, hcs⟩ := h
  obtain ⟨hne, hchars⟩ := isComponent_iff.1 hname
  have hbare : ∀ c ∈ name, isBareChar c = true := fun c hc =>
    isBareChar_of_isPathChar (hchars c hc)
  rcases hcs with rfl | rfl
  · have hlast : cs.getLast? ≠ some '\n' := fun hlast =>
      absurd (hchars _ (List.mem_of_getLast? hlast)) (by decide)
    rw [dropLineEnd_eq_self_iff.2 hlast]
    exact ⟨cs, [], by simp, hne, hbare, by simp, rfl⟩
  · have hdrop : dropLineEnd (name ++ ['\n']) = name := by simp [dropLineEnd]
    exact ⟨name, ['\n'], rfl, hne, hbare, by simp [isArrayBlank], by rw [hdrop]⟩

/-! ### Places of expressions -/

lemma followed_array (hread : IsRead (.path path)) :
    array? ("\x7b" ++ String.intercalate "," path ++ "\x7d").toList =
      some (path.map fun part => bareElement (dropLineEnd part.toList)) := by
  obtain ⟨s, hpath, rfl⟩ := isPath_of_isRead hread
  have hlist : ("\x7b" ++ String.intercalate "," (Text.split '.' s) ++ "\x7d").toList =
      '\x7b' :: (List.intercalate [','] (Text.splitAll '.' s.toList) ++ ['\x7d']) := by
    simp [String.toList_intercalate, Text.split]
  have hbare : List.Forall₂ IsBare (Text.splitAll '.' s.toList)
      ((Text.splitAll '.' s.toList).map fun part => bareElement (dropLineEnd part)) := by
    rw [List.forall₂_map_right_iff, List.forall₂_same]
    exact fun part hpart => isBare_of_isPathPart (isPathPart_of_isPath hpath part hpart)
  rw [hlist, array?_intercalate (Text.splitAll_ne_nil '.' s.toList) hbare]
  simp [Text.split]

/-- The text of a navigation reaches the place of its path. -/
lemma ofText?_navigate {container : String} (hcontainer : IsPlainName container) (access : Access)
    (hread : IsRead (.path path)) :
    Place.ofText? (navigate container access path) = some ⟨container, followed path⟩ := by
  have hexpr : Expr.read? (navigate container access path ++ "") =
      some (.navigation container access path) :=
    (isGroup_navigate hcontainer access (inert_of_isRead hread)).read?_append rfl
      fun _ => rfl
  rw [String.append_empty] at hexpr
  rw [Place.ofText?, hexpr, Option.bind_some]
  have harray := followed_array hread
  unfold Expr.navigation followed
  split
  · simp [Expr.place?]
  · rw [Expr.place?, harray]
    simp [elementName, Function.comp_def]

/-- The key of a path resolves to its navigation. -/
lemma resolve_navigate {e : Entity} (hcontainer : IsPlainName e.container)
    (hread : IsRead (.path path)) (procedures : Procedures) (epoch : Bool) (documents : Value) :
    ∃ origin, (FieldKey.path path).resolve procedures e epoch documents =
      .ok ⟨navigate e.container .json path, [], origin⟩ := by
  have hdollar := no_dollar_navigate hcontainer.inert.no_dollar .json (inert_of_isRead hread)
  exact ⟨_, Predicate.make_of_count (countPlaceholders_of_no_dollar hdollar) _⟩

/-- The expression of a path follows the names of the path, with the same names as texts exactly if
the path has one name, or no name with a line end or NULL among its names. The expressions of two
paths reach one place if and only if the paths are equal, or have several names that are alike. -/
theorem resolve_place {e : Entity} {v v' : Value} (hcontainer : IsPlainName e.container)
    (hv : ∀ l, v = .key l → l.IsRead) (hv' : ∀ l, v' = .key l → l.IsRead)
    (h : parse v = .ok (.path path)) (h' : parse v' = .ok (.path path'))
    (procedures : Procedures) (epoch : Bool) (documents : Value) :
    ∃ p p', (FieldKey.path path).resolve procedures e epoch documents = .ok p ∧
      (FieldKey.path path').resolve procedures e epoch documents = .ok p' ∧
      Place.ofText? p.text = some ⟨e.container, followed path⟩ ∧
      (Place.ofText? p.text = some ⟨e.container, path.map some⟩ ↔
        path.length = 1 ∨ ∀ part ∈ path, IsVerbatim part) ∧
      (Place.ofText? p.text = Place.ofText? p'.text ↔
        path = path' ∨ 1 < path.length ∧ 1 < path'.length ∧ List.Forall₂ Alike path path') := by
  have hread := isRead_of_parse hv h
  have hread' := isRead_of_parse hv' h'
  obtain ⟨origin, hp⟩ := resolve_navigate hcontainer hread procedures epoch documents
  obtain ⟨origin', hp'⟩ := resolve_navigate hcontainer hread' procedures epoch documents
  have hplace := ofText?_navigate hcontainer .json hread
  have hplace' := ofText?_navigate hcontainer .json hread'
  refine ⟨_, _, hp, hp', hplace, ?_, ?_⟩
  · rw [hplace, ← followed_eq_iff]
    simp
  · rw [hplace, hplace', ← followed_inj_iff]
    simp

end

/-- The names of a city and of a street have places of their own. -/
theorem addressKeys_placed :
    IsPlainName Entity.document.container ∧
      parse (.text "address.city") = .ok (.path ["address", "city"]) ∧
      parse (.text "address.street") = .ok (.path ["address", "street"]) ∧
      ∃ p p', (FieldKey.path ["address", "city"]).resolve .standard .document false .null = .ok p ∧
        (FieldKey.path ["address", "street"]).resolve .standard .document false .null = .ok p' ∧
        Place.ofText? p.text = some ⟨"content", [some "address", some "city"]⟩ ∧
        Place.ofText? p.text ≠ Place.ofText? p'.text := by
  have hcontainer : IsPlainName Entity.document.container := by decide
  have hcity : parse (.text "address.city") = .ok (.path ["address", "city"]) := by rfl
  have hstreet : parse (.text "address.street") = .ok (.path ["address", "street"]) := by rfl
  obtain ⟨p, p', hp, hp', -, hplace, hsame⟩ := resolve_place hcontainer (by simp) (by simp) hcity
    hstreet .standard false .null
  refine ⟨hcontainer, hcity, hstreet, p, p', hp, hp', ?_, ?_⟩
  · refine hplace.2 (Or.inr fun part hpart => ?_)
    have hpart : part = "address" ∨ part = "city" := by simpa using hpart
    rcases hpart with rfl | rfl <;> exact ⟨by decide, by decide⟩
  · rw [Ne, hsame]
    rintro (heq | ⟨-, -, halike⟩)
    · simp at heq
    · cases halike with
      | cons _ hrest =>
        cases hrest with
        | cons hlast _ => rcases hlast with h | ⟨h, -⟩ <;> revert h <;> decide

/-- A key with the name NULL, which no row holds a value under, and keys that are not told apart:
one with NULL in capitals, and one with a line end. -/
theorem nullKey_misplaced :
    parse (.text "a.null") = .ok (.path ["a", "null"]) ∧
      parse (.text "a.NULL") = .ok (.path ["a", "NULL"]) ∧
      Place.ofText? (navigate "content" .json ["a", "null"]) =
        some ⟨"content", [some "a", none]⟩ ∧
      Place.ofText? (navigate "content" .json ["a", "NULL"]) =
        Place.ofText? (navigate "content" .json ["a", "null"]) ∧
      parse (.text "a.b\n") = .ok (.path ["a", "b\n"]) ∧
      Place.ofText? (navigate "content" .json ["a", "b\n"]) =
        Place.ofText? (navigate "content" .json ["a", "b"]) ∧
      (∃ p, (FieldKey.path ["a", "null"]).resolve .standard .document false .null = .ok p ∧
        Place.ofText? p.text ≠ some ⟨"content", [some "a", some "null"]⟩) := by
  have hread : ∀ {s : String} {path : List String}, parse (.text s) = .ok (.path path) →
      (FieldKey.path path).IsRead := fun h => isRead_of_parse (by simp) h
  have hcontainer : IsPlainName "content" := by decide
  have hnull : parse (.text "a.null") = .ok (.path ["a", "null"]) := rfl
  have hcapitals : parse (.text "a.NULL") = .ok (.path ["a", "NULL"]) := rfl
  have hb : parse (.text "a.b") = .ok (.path ["a", "b"]) := rfl
  have hline : parse (.text "a.b\n") = .ok (.path ["a", "b\n"]) := rfl
  have hplace := ofText?_navigate hcontainer .json (hread hnull)
  obtain ⟨origin, hp⟩ := resolve_navigate (e := .document) hcontainer (hread hnull) .standard false
    .null
  refine ⟨hnull, hcapitals, hplace, ?_, hline, ?_, _, hp, ?_⟩
  · rw [hplace, ofText?_navigate hcontainer .json (hread hcapitals)]
    rfl
  · rw [ofText?_navigate hcontainer .json (hread hline),
      ofText?_navigate hcontainer .json (hread hb)]
    rfl
  · have hplace : Place.ofText? (navigate Entity.document.container .json ["a", "null"]) =
        some ⟨"content", [some "a", none]⟩ := hplace
    rw [hplace]
    decide

end FieldKey

end DocumentSql

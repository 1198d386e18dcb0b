/-
Navigations under casts.

Names without blanks leave a navigation with a single pair of blanks, those around its operator.
So the last navigation that a cast to text looks for is the operator, and the navigation as JSON
becomes the navigation as text (`asText_navigate`), whatever stands in the literal of the path: the
operator stands in the expression once (`apply_text_navigate`).

What any of the casts makes of a navigation is one expression that an index puts in parentheses
(`indexExpression_navigate`), while a plain name stays as it is (`indexExpression_name`).
-/
import DocumentSql.Proofs.Cast.Plain
import DocumentSql.Proofs.Key.Plain

namespace DocumentSql

namespace Text

variable {part cs : List Char}

/-- A part that begins with a blank is not found in front of the first blank. -/
lemma cutLast_append_of_no_blank (hpart : part.head? = some ' ') (h : ' ' ∉ cs)
    (ds : List Char) :
    cutLast part (cs ++ ds) = (cutLast part ds).map fun cut => (cs ++ cut.1, cut.2) := by
  induction cs with
  | nil => simp
  | cons c cs ih =>
    have hc : c ≠ ' ' := fun heq => h (by simp [heq])
    have hstart : after? part (c :: (cs ++ ds)) = none := by
      obtain ⟨ps, rfl⟩ : ∃ ps, part = ' ' :: ps := List.head?_eq_some_iff.1 hpart
      simp [after?, hc.symm]
    rw [List.cons_append, cutLast, ih fun hmem => h (by simp [hmem]), hstart]
    cases cutLast part ds <;> rfl

lemma cutLast_of_no_blank (hpart : part.head? = some ' ') (h : ' ' ∉ cs) :
    cutLast part cs = none := by
  have hcut := cutLast_append_of_no_blank hpart h []
  have hnil : cutLast part [] = none := by
    obtain ⟨ps, rfl⟩ : ∃ ps, part = ' ' :: ps := List.head?_eq_some_iff.1 hpart
    rfl
  rwa [List.append_nil, hnil] at hcut

/-- An operator with a blank on either side. -/
def spaced (op : List Char) : List Char := ' ' :: (op ++ [' '])

lemma append_blank_inj {as bs cs ds : List Char} (ha : ' ' ∉ as) (hb : ' ' ∉ bs)
    (h : as ++ ' ' :: cs = bs ++ ' ' :: ds) : as = bs ∧ cs = ds := by
  induction as generalizing bs with
  | nil =>
    cases bs with
    | nil => exact ⟨rfl, by simpa using h⟩
    | cons b bs =>
      obtain ⟨rfl, -⟩ : ' ' = b ∧ _ := by simpa using h
      simp at hb
  | cons a as ih =>
    cases bs with
    | nil =>
      obtain ⟨rfl, -⟩ : a = ' ' ∧ _ := by simpa using h
      simp at ha
    | cons b bs =>
      obtain ⟨hhead, htail⟩ : a = b ∧ as ++ ' ' :: cs = bs ++ ' ' :: ds := List.cons.inj h
      obtain ⟨has, hcs⟩ := ih (fun hm => ha (by simp [hm])) (fun hm => hb (by simp [hm])) htail
      exact ⟨by rw [hhead, has], hcs⟩

/-- A text with one spaced operator has no other one, and has it at one place. -/
lemma spaced_unique {op op' before before' rest rest' : List Char} (hop : ' ' ∉ op)
    (hop' : ' ' ∉ op') (hbefore : ' ' ∉ before) (hrest : ' ' ∉ rest)
    (h : before ++ (spaced op ++ rest) = before' ++ (spaced op' ++ rest')) :
    op' = op ∧ before' = before ∧ rest' = rest := by
  -- the blanks around the second operator are the two that the text has
  have hcount := congrArg (List.count ' ') h
  simp only [spaced, List.count_append, List.count_cons_self, List.count_nil,
    List.count_eq_zero_of_not_mem hop, List.count_eq_zero_of_not_mem hop',
    List.count_eq_zero_of_not_mem hbefore, List.count_eq_zero_of_not_mem hrest] at hcount
  have hbefore' : ' ' ∉ before' := List.count_eq_zero.1 (by omega)
  have hspaced : ∀ op rest : List Char, spaced op ++ rest = ' ' :: (op ++ ' ' :: rest) := by
    simp [spaced]
  rw [hspaced, hspaced] at h
  obtain ⟨hfirst, h⟩ := append_blank_inj hbefore hbefore' h
  obtain ⟨hsecond, hthird⟩ := append_blank_inj hop hop' h
  exact ⟨hsecond.symm, hfirst.symm, hthird.symm⟩

/-- In a text with one spaced operator, that operator is the last one, and the only one. -/
lemma cutLast_spaced {op op' before rest : List Char} (hop : ' ' ∉ op) (hop' : ' ' ∉ op')
    (hbefore : ' ' ∉ before) (hrest : ' ' ∉ rest) :
    cutLast (spaced op) (before ++ (spaced op' ++ rest)) =
      if op = op' then some (before, rest) else none := by
  have hhead : (spaced op).head? = some ' ' := rfl
  -- behind the operator there is only one blank, and no operator
  have hbehind : cutLast (spaced op) (op' ++ ' ' :: rest) = none := by
    have hblank : after? (spaced op) (' ' :: rest) = none := by
      cases hafter : after? (spaced op) (' ' :: rest) with
      | none => rfl
      | some ds =>
        have heq : rest = op ++ [' '] ++ ds := by
          simpa [spaced] using after?_eq_some hafter
        simp [heq] at hrest
    rw [cutLast_append_of_no_blank hhead hop', cutLast, cutLast_of_no_blank hhead hrest, hblank]
    rfl
  have hspaced : spaced op' ++ rest = ' ' :: (op' ++ ' ' :: rest) := by simp [spaced]
  rw [cutLast_append_of_no_blank hhead hbefore, hspaced, cutLast, hbehind]
  by_cases h : op = op'
  · subst h
    rw [if_pos rfl, ← hspaced, after?_append]
    simp
  · have hnone : after? (spaced op) (' ' :: (op' ++ ' ' :: rest)) = none := by
      cases hafter : after? (spaced op) (' ' :: (op' ++ ' ' :: rest)) with
      | none => rfl
      | some ds =>
        have heq : op' ++ ' ' :: rest = op ++ ' ' :: ds := by
          simpa [spaced] using after?_eq_some hafter
        exact absurd (append_blank_inj hop' hop heq).1.symm h
    rw [if_neg h, hnone]
    rfl

end Text

/-! ### Names without blanks -/

/-- The text has no blanks and no line ends. -/
structure IsSolid (s : String) : Prop where
  no_blank : ' ' ∉ s.toList
  no_lineEnd : '\n' ∉ s.toList

lemma IsPlainName.isSolid {s : String} (h : IsPlainName s) : IsSolid s := by
  constructor <;> intro hmem <;> have hc := h.isNameChar _ hmem <;> revert hc <;> decide

lemma not_mem_intercalate {c : Char} (hc : c ≠ ',') {ss : List String}
    (h : ∀ s ∈ ss, c ∉ s.toList) : c ∉ (String.intercalate "," ss).toList := by
  intro hmem
  rcases Sql.mem_or_exists_of_mem_intercalate hmem with hmem | ⟨s, hs, hmem⟩
  · exact hc (by simpa using hmem)
  · exact h s hs hmem

/-! ### Navigations -/

/-- The operator of a navigation along a path. -/
def Access.arrow (access : Access) : List String → String
  | [_] => access.member
  | _ => access.path

/-- The path of a navigation as a literal. -/
def pathLiteral : List String → String
  | [name] => "'" ++ name ++ "'::text"
  | path => "'\x7b" ++ String.intercalate "," path ++ "\x7d'"

/-- A navigation is an operator between the container and the literal of the path. -/
lemma navigate_eq (container : String) (access : Access) (path : List String) :
    navigate container access path =
      "(" ++ container ++ " " ++ access.arrow path ++ " " ++ (pathLiteral path ++ ")") := by
  rw [← String.toList_inj]
  unfold navigate Access.arrow pathLiteral
  split <;> simp [-String.toList_intercalate]

lemma toList_navigate (container : String) (access : Access) (path : List String) :
    (navigate container access path).toList =
      ('(' :: container.toList) ++
        (Text.spaced (access.arrow path).toList ++ ((pathLiteral path).toList ++ [')'])) := by
  rw [navigate_eq]
  simp [Text.spaced]

lemma Access.arrow_cases (path : List String) :
    (∀ access : Access, access.arrow path = access.member) ∨
      ∀ access : Access, access.arrow path = access.path := by
  unfold Access.arrow
  split
  · exact Or.inl fun _ => rfl
  · exact Or.inr fun _ => rfl

lemma Access.not_mem_arrow {c : Char} (hc : c ∈ [' ', '\n']) (access : Access)
    (path : List String) : c ∉ (access.arrow path).toList := by
  simp only [List.mem_cons, List.not_mem_nil, or_false] at hc
  rcases Access.arrow_cases path with h | h <;> rw [h] <;> rcases hc with rfl | rfl <;>
    cases access <;> decide

/-- The literal of a path has only the blanks and line ends of the names in it. -/
lemma not_mem_pathLiteral {c : Char} (hc : c ∈ [' ', '\n']) {path : List String}
    (h : ∀ part ∈ path, c ∉ part.toList) : c ∉ (pathLiteral path).toList := by
  have hmark : c ∉ "'::text".toList ∧ c ≠ '\'' ∧ c ≠ ',' ∧ c ∉ "'\x7b".toList ∧
      c ∉ "\x7d'".toList := by
    simp only [List.mem_cons, List.not_mem_nil, or_false] at hc
    rcases hc with rfl | rfl <;> decide
  obtain ⟨hend, hquote, hcomma, hopen, hclose⟩ := hmark
  unfold pathLiteral
  split
  · next name =>
    simp only [String.toList_append, List.mem_append, not_or]
    exact ⟨⟨by simpa using hquote, h name (by simp)⟩, hend⟩
  · simp only [String.toList_append, List.mem_append, not_or]
    exact ⟨⟨hopen, not_mem_intercalate hcomma h⟩, hclose⟩

namespace Cast

section

variable {container : String} {path : List String} (hcontainer : ' ' ∉ container.toList)
  (hpath : ∀ part ∈ path, ' ' ∉ part.toList)

include hcontainer hpath

/-- The spaced operators of a navigation: its own, and no other. -/
lemma cutLast_navigate {op : List Char} (hop : ' ' ∉ op) :
    Text.cutLast (Text.spaced op) (navigate container .json path).toList =
      if op = (Access.json.arrow path).toList then
        some ('(' :: container.toList, (pathLiteral path).toList ++ [')']) else none := by
  have hrest := not_mem_pathLiteral (c := ' ') (by simp) hpath
  rw [toList_navigate]
  exact Text.cutLast_spaced hop (Access.not_mem_arrow (by simp) .json path) (by simp [hcontainer])
    (by simp [hrest])

lemma textNavigation?_navigate :
    textNavigation? (navigate container .json path).toList =
      some (navigate container .text path).toList := by
  have hmember := cutLast_navigate hcontainer hpath (show ' ' ∉ "->".toList by decide)
  have hfollow := cutLast_navigate hcontainer hpath (show ' ' ∉ "#>".toList by decide)
  rw [show Text.spaced "->".toList = " -> ".toList by decide] at hmember
  rw [show Text.spaced "#>".toList = " #> ".toList by decide] at hfollow
  rw [toList_navigate container .text, textNavigation?, Text.replaceLast?, hmember,
    Text.replaceLast?, hfollow]
  rcases Access.arrow_cases path with h | h
  · simp [h, Access.member, Text.spaced]
  · simp [h, Access.path, Text.spaced]

/-- A cast to text takes the navigation as text. -/
theorem asText_navigate :
    asText (navigate container .json path) = navigate container .text path := by
  rw [asText, textNavigation?_navigate hcontainer hpath]
  exact String.ofList_toList

end

/-- A navigation operator stands in an expression, spaced, and no other one does, at any place. -/
structure NavigatesOnce (expr before op rest : String) : Prop where
  eq : expr = before ++ " " ++ op ++ " " ++ rest
  unique : ∀ op' ∈ ["->", "#>"], ∀ before' rest', expr = before' ++ " " ++ op' ++ " " ++ rest' →
    op' = op ∧ before' = before ∧ rest' = rest

lemma navigatesOnce_navigate {container : String} {path : List String}
    (hcontainer : ' ' ∉ container.toList) (hpath : ∀ part ∈ path, ' ' ∉ part.toList) :
    NavigatesOnce (navigate container .json path) ("(" ++ container) (Access.json.arrow path)
      (pathLiteral path ++ ")") := by
  refine ⟨navigate_eq container .json path, fun op hop before rest h => ?_⟩
  have hblank : ' ' ∉ op.toList := by
    simp only [List.mem_cons, List.not_mem_nil, or_false] at hop
    rcases hop with rfl | rfl <;> decide
  have hrest := not_mem_pathLiteral (c := ' ') (by simp) hpath
  have htexts : ('(' :: container.toList) ++ (Text.spaced (Access.json.arrow path).toList ++
      ((pathLiteral path).toList ++ [')'])) =
      before.toList ++ (Text.spaced op.toList ++ rest.toList) := by
    rw [← toList_navigate, h]
    simp [Text.spaced]
  have hunique := Text.spaced_unique (Access.not_mem_arrow (by simp) .json path) hblank
    (by simp [hcontainer]) (by simp [hrest]) htexts
  simpa [← String.toList_inj] using hunique

/-- The cast to text of the navigation along the path of a key is the navigation as text. The
expression has one navigation operator, in front of the literal of the path, and the cast changes
this operator and nothing else. -/
theorem apply_text_navigate {container : String} {path : List String} {v w : Value}
    (hcontainer : IsPlainName container) (hv : ∀ l, v = .key l → l.IsRead)
    (hkey : FieldKey.parse v = .ok (.path path)) (hcast : parse w = .ok (kind .text)) :
    apply w (navigate container .json path) = .ok (navigate container .text path) ∧
      NavigatesOnce (navigate container .json path) ("(" ++ container) (Access.json.arrow path)
        (pathLiteral path ++ ")") ∧
      navigate container .text path =
        "(" ++ container ++ " " ++ Access.text.arrow path ++ " " ++ (pathLiteral path ++ ")") := by
  have hblank := hcontainer.isSolid.no_blank
  have hpath := FieldKey.no_blank_of_isRead (FieldKey.isRead_of_parse hv hkey)
  refine ⟨?_, navigatesOnce_navigate hblank hpath, navigate_eq container .text path⟩
  rw [apply, hcast]
  exact congrArg Except.ok (asText_navigate hblank hpath)

theorem hyphenatedPath_navigate :
    IsPlainName "content" ∧
      FieldKey.parse (.text "a-b.--.-") = .ok (.path ["a-b", "--", "-"]) ∧
      parse (.text " Text") = .ok (kind .text) ∧
      apply (.text " Text") "(content #> '\x7ba-b,--,-\x7d')" =
        .ok "(content #>> '\x7ba-b,--,-\x7d')" := by
  have hcontainer : IsPlainName "content" := by decide
  have hkey : FieldKey.parse (.text "a-b.--.-") = .ok (.path ["a-b", "--", "-"]) := by rfl
  have hcast : parse (.text " Text") = .ok (kind .text) := by rfl
  obtain ⟨happly, -, -⟩ := apply_text_navigate hcontainer (by simp) hkey hcast
  exact ⟨hcontainer, hkey, hcast, happly⟩

/-! ### Index expressions -/

lemma dropLineEnd_concat {cs : List Char} {c : Char} (h : c ≠ '\n') :
    FieldKey.dropLineEnd (cs ++ [c]) = cs ++ [c] := by
  rw [FieldKey.dropLineEnd, List.getLast?_concat, if_neg (by simpa using h)]

lemma isEnclosed_of {inner : List Char} (hne : inner ≠ []) (h : '\n' ∉ inner) :
    isEnclosed ('(' :: (inner ++ [')'])) = true := by
  rw [isEnclosed, ← List.cons_append, dropLineEnd_concat (by decide)]
  simp only [List.cons_append, List.reverse_append, List.reverse_singleton, List.nil_append]
  simp only [List.isEmpty_reverse, List.all_reverse, Bool.and_eq_true, Bool.not_eq_true',
    List.isEmpty_eq_false_iff, List.all_eq_true, bne_iff_ne]
  exact ⟨hne, fun c hc heq => h (heq ▸ hc)⟩

lemma enclosed_navigate {container : String} {path : List String} (hcontainer : IsSolid container)
    (hpath : ∀ part ∈ path, IsSolid part) (access : Access) :
    ∃ inner, (navigate container access path).toList = '(' :: (inner ++ [')']) ∧
      inner ≠ [] ∧ '\n' ∉ inner := by
  have hrest := not_mem_pathLiteral (c := '\n') (by simp) fun part hpart =>
    (hpath part hpart).no_lineEnd
  have hspaced : '\n' ∉ Text.spaced (access.arrow path).toList := by
    simp [Text.spaced, Access.not_mem_arrow (c := '\n') (by simp) access path]
  refine ⟨container.toList ++ (Text.spaced (access.arrow path).toList ++
    (pathLiteral path).toList), ?_, ?_, ?_⟩
  · rw [toList_navigate]
    simp
  · simp [Text.spaced]
  · simp [hcontainer.no_lineEnd, hrest, hspaced]

/-- An expression that begins with a parenthesis and ends with a cast to a number. -/
lemma indexExpression_numeric (expr : String) :
    indexExpression ("(" ++ expr ++ "::numeric") = "(" ++ ("(" ++ expr ++ "::numeric") ++ ")" := by
  have hlist : ("(" ++ expr ++ "::numeric").toList =
      '(' :: (expr.toList ++ "::numeri".toList) ++ ['c'] := by
    simp
  have hdrop : FieldKey.dropLineEnd ("(" ++ expr ++ "::numeric").toList =
      ("(" ++ expr ++ "::numeric").toList := by
    rw [hlist, dropLineEnd_concat (by decide)]
  have henclosed : isEnclosed ("(" ++ expr ++ "::numeric").toList = false := by
    rw [isEnclosed, hdrop, hlist]
    simp
  have hcast : endsInCast ("(" ++ expr ++ "::numeric").toList = true := by
    have hreverse : ("(" ++ expr ++ "::numeric").toList.reverse =
        "ciremun".toList ++ (':' :: ':' :: (expr.toList.reverse ++ ['('])) := by
      rw [hlist]
      simp
    rw [endsInCast, hdrop, hreverse]
    rfl
  have hstart : beginsWithTextAccess ("(" ++ expr ++ "::numeric").toList = false := by
    rw [hlist]
    rfl
  rw [indexExpression, henclosed, hcast, hstart]
  rfl

/-- What a cast makes of a navigation is put in parentheses for an index. -/
theorem indexExpression_navigate {container : String} {path : List String}
    (hcontainer : IsSolid container) (hpath : ∀ part ∈ path, IsSolid part) (k : CastKind) :
    indexExpression ((kind k).applyTo (navigate container .json path)) =
      "(" ++ (kind k).applyTo (navigate container .json path) ++ ")" := by
  have henclosed : ∀ access, isEnclosed (navigate container access path).toList = true := by
    intro access
    obtain ⟨inner, heq, hne, hline⟩ := enclosed_navigate hcontainer hpath access
    rw [heq]
    exact isEnclosed_of hne hline
  obtain ⟨inner, heq, -, hline⟩ := enclosed_navigate hcontainer hpath .json
  cases k with
  | direct => rw [applyTo, indexExpression, henclosed .json, if_pos rfl]
  | text =>
    rw [applyTo, asText_navigate hcontainer.no_blank fun part hpart => (hpath part hpart).no_blank,
      indexExpression, henclosed .text, if_pos rfl]
  | boolean =>
    have hbool : isEnclosed ((kind .boolean).applyTo (navigate container .json path)).toList =
        true := by
      have happly : ((kind .boolean).applyTo (navigate container .json path)).toList =
          '(' :: (("((".toList ++ ('(' :: (inner ++ [')'])) ++
            ")::text)::boolean IS TRUE".toList) ++ [')']) := by
        rw [applyTo, String.toList_append, String.toList_append, heq]
        simp
      rw [happly]
      exact isEnclosed_of (by simp) (by simp [hline])
    rw [indexExpression, hbool, if_pos rfl]
  | numeric =>
    have happly : (kind .numeric).applyTo (navigate container .json path) =
        "(" ++ ("(" ++ navigate container .json path ++ ")::text)") ++ "::numeric" := by
      rw [← String.toList_inj, applyTo]
      simp
    rw [happly]
    exact indexExpression_numeric _

/-- A plain name stays as it is for an index. -/
theorem indexExpression_name {s : String} (h : IsPlainName s) : indexExpression s = s := by
  have hchars := h.isNameChar
  have hne : ∀ d, FieldKey.isNameChar d = false → d ∉ s.toList := fun d hd hmem => by
    simp [hchars d hmem] at hd
  have hdrop : FieldKey.dropLineEnd s.toList = s.toList :=
    FieldKey.dropLineEnd_of_not_mem (hne '\n' (by decide))
  have henclosed : isEnclosed s.toList = false := by
    rw [isEnclosed, hdrop]
    split
    · next rest heq => exact absurd (by simp [heq]) (hne '(' (by decide))
    · rfl
  have hcast : endsInCast s.toList = false := by
    have hcolon : ([':', ':'] : List Char).isPrefixOf
        (s.toList.reverse.dropWhile Char.isLower) = false := by
      by_contra hprefix
      obtain ⟨rest, hrest⟩ : [':', ':'] <+: s.toList.reverse.dropWhile Char.isLower := by
        simpa using hprefix
      have hmem : ':' ∈ s.toList.reverse.dropWhile Char.isLower := by simp [← hrest]
      exact hne ':' (by decide) (by simpa using (List.dropWhile_suffix _).subset hmem)
    rw [endsInCast, hdrop, hcolon, Bool.and_false]
  rw [indexExpression, henclosed, hcast]
  rfl

end Cast

end DocumentSql

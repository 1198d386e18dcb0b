/-
The types that parameters are bound at.

A placeholder may be followed by a cast, `::` and the name of a type, and the parameter bound there
is read as this type.  `castNames` lists what stands behind the placeholders of a text from left to
right, and `Predicate.jsonParams` are the parameters that are read as JSON.

What stands behind a placeholder may reach into the text that follows a fragment.  It does not when
the fragment ends, or the text begins, with a character that belongs to no cast (`Apart`); then the
JSON parameters of what is put together are those of its parts (`Predicate.jsonParams_chain`,
`Predicate.jsonParams_join`, `Predicate.jsonParams_wrap`).
-/
import DocumentSql.Proofs.Sql.Fragment

namespace DocumentSql

namespace Sql

/-- The name that a text begins with. -/
def leadingName : List Token → List Char
  | .plain c :: ts => if Text.isWord c then c :: leadingName ts else []
  | _ => []

/-- The name of the type in the cast that a text begins with, if it begins with one. -/
def castName? : List Token → Option (List Char)
  | .plain ':' :: .plain ':' :: ts => some (leadingName ts)
  | _ => none

/-- What stands behind the placeholders of a text, from left to right: the names of the types that
they are cast to. -/
def castNames : List Token → List (Option (List Char))
  | [] => []
  | .mark _ :: ts => castName? ts :: castNames ts
  | .plain _ :: ts => castNames ts

/-- The type is one of JSON. -/
def isJsonName (name : Option (List Char)) : Bool :=
  name == some "json".toList || name == some "jsonb".toList

/-- The part belongs to no cast. -/
def Token.isNeutral : Token → Bool
  | .plain c => c != ':' && !Text.isWord c
  | .mark _ => false

/-- No cast reaches from the first text into the second. -/
def Apart (ts us : List Token) : Prop :=
  (∀ t ∈ ts.getLast?, t.isNeutral = true) ∨ ∀ u ∈ us.head?, u.isNeutral = true

section

variable {ts us g w : List Token}

lemma castNames_eq_nil (h : ∀ t ∈ ts, t.isMark = false) : castNames ts = [] := by
  induction ts with
  | nil => rfl
  | cons t ts ih =>
    cases t with
    | plain c => exact ih fun u hu => h u (by simp [hu])
    | mark digits => exact absurd (h (.mark digits) (by simp)) (by simp)

lemma length_castNames (ts : List Token) : (castNames ts).length = ts.countP Token.isMark := by
  induction ts with
  | nil => rfl
  | cons t ts ih => cases t <;> simp [castNames, ih, List.countP_cons]

/-- A neutral part in front keeps two texts apart, and so does a part behind it. -/
lemma Apart.tail {t : Token} (h : Apart (t :: ts) us) (hne : ts ≠ []) : Apart ts us := by
  obtain ⟨u, ts, rfl⟩ := List.exists_cons_of_ne_nil hne
  rcases h with h | h
  · exact Or.inl (by simpa using h)
  · exact Or.inr h

/-- Where nothing stands between them, the part in front of a text that is kept apart leaves it to the
head of the other one to be neutral. -/
lemma Apart.behind {t : Token} (h : Apart (t :: ts) us) (ht : t.isNeutral = false) :
    Apart ts us ∧ (ts = [] → ∀ u ∈ us.head?, u.isNeutral = true) := by
  have hhead : ts = [] → ∀ u ∈ us.head?, u.isNeutral = true := by
    rintro rfl
    rcases h with h | h
    · simp [h t rfl] at ht
    · exact h
  by_cases hne : ts = []
  · exact ⟨Or.inr (hhead hne), hhead⟩
  · exact ⟨h.tail hne, hhead⟩

lemma leadingName_append (h : Apart ts us) (hnil : ts = [] → ∀ u ∈ us.head?, u.isNeutral = true) :
    leadingName (ts ++ us) = leadingName ts := by
  induction ts with
  | nil =>
    cases us with
    | nil => rfl
    | cons u us =>
      have hu := hnil rfl u rfl
      cases u with
      | mark digits => rfl
      | plain c =>
        have hword : Text.isWord c = false := by
          simp only [Token.isNeutral, Bool.and_eq_true, Bool.not_eq_true'] at hu
          exact hu.2
        simp [leadingName, hword]
  | cons t ts ih =>
    cases t with
    | mark digits => rfl
    | plain c =>
      rw [List.cons_append, leadingName, leadingName]
      split
      · next hword =>
        obtain ⟨hrest, hhead⟩ := h.behind (by simp [Token.isNeutral, hword])
        exact congrArg (c :: ·) (ih hrest hhead)
      · rfl

lemma isNeutral_colon : (Token.plain ':').isNeutral = false := by
  decide

/-- What keeps a text apart begins no cast and continues none. -/
lemma castName?_of_neutral (h : ∀ u ∈ us.head?, u.isNeutral = true) :
    castName? us = none ∧ castName? (.plain ':' :: us) = none := by
  cases us with
  | nil => exact ⟨rfl, rfl⟩
  | cons u us =>
    have hu : u ≠ .plain ':' := by
      rintro rfl
      simpa [isNeutral_colon] using h _ rfl
    constructor
    · unfold castName?
      split
      · next heq => exact absurd (List.cons.inj heq).1 hu
      · rfl
    · unfold castName?
      split
      · next heq => exact absurd (List.cons.inj (List.cons.inj heq).2).1 hu
      · rfl

/-- The cast behind a placeholder is the same, whatever follows a text that is kept apart. -/
lemma castName?_append {digits : List Char} (h : Apart (.mark digits :: ts) us) :
    castName? (ts ++ us) = castName? ts := by
  -- neither the placeholder nor the colons of a cast keep the texts apart
  obtain ⟨h, hhead⟩ := h.behind rfl
  match ts with
  | [] => exact (castName?_of_neutral (hhead rfl)).1
  | [.plain c] =>
    by_cases hc : c = ':'
    · subst hc
      exact (castName?_of_neutral ((h.behind isNeutral_colon).2 rfl)).2
    · simp [castName?, hc]
  | .plain c :: .plain d :: ts =>
    by_cases hcd : c = ':' ∧ d = ':'
    · obtain ⟨rfl, rfl⟩ := hcd
      obtain ⟨hrest, hhead⟩ := (h.behind isNeutral_colon).1.behind isNeutral_colon
      simp only [List.cons_append, castName?]
      rw [leadingName_append hrest hhead]
    · simp only [List.cons_append]
      unfold castName?
      split
      · next heq => simp_all
      · split
        · next heq => simp_all
        · rfl
  | .mark _ :: ts => rfl
  | .plain c :: .mark _ :: ts => simp [castName?]

/-- Texts that are kept apart have the casts that each of them has. -/
theorem castNames_append (h : Apart ts us) :
    castNames (ts ++ us) = castNames ts ++ castNames us := by
  induction ts with
  | nil => rfl
  | cons t ts ih =>
    have hrest : castNames (ts ++ us) = castNames ts ++ castNames us := by
      by_cases hne : ts = []
      · simp [hne, castNames]
      · exact ih (h.tail hne)
    cases t with
    | plain c => exact hrest
    | mark digits =>
      rw [List.cons_append, castNames, castNames, castName?_append h, hrest, List.cons_append]

/-- Parts without placeholders that keep what stands around them apart. -/
structure Divides (g : List Token) : Prop where
  not_isMark : ∀ t ∈ g, t.isMark = false
  first : ∀ t ∈ g.head?, t.isNeutral = true
  last : ∀ t ∈ g.getLast?, t.isNeutral = true

lemma castNames_prepend (hg : ∀ t ∈ g, t.isMark = false)
    (hlast : ∀ t ∈ g.getLast?, t.isNeutral = true) : castNames (g ++ w) = castNames w := by
  rw [castNames_append (Or.inl hlast), castNames_eq_nil hg, List.nil_append]

lemma castNames_postpend (hg : ∀ t ∈ g, t.isMark = false) (hapart : Apart w g) :
    castNames (w ++ g) = castNames w := by
  rw [castNames_append hapart, castNames_eq_nil hg, List.append_nil]

lemma castNames_intercalate (hg : Divides g) (hne : g ≠ []) (fs : List (List Token)) :
    castNames (g.intercalate fs) = fs.flatMap castNames := by
  induction fs with
  | nil => rfl
  | cons f fs ih =>
    cases fs with
    | nil => simp
    | cons f' fs =>
      have hapart : Apart f (g ++ g.intercalate (f' :: fs)) := by
        refine Or.inr fun u hu => hg.first u ?_
        rwa [List.head?_append_of_ne_nil _ hne] at hu
      rw [List.intercalate_cons_cons, List.append_assoc, castNames_append hapart,
        castNames_prepend hg.not_isMark hg.last, ih]
      rfl

end

end Sql

namespace Predicate

open Sql

/-- The parameters of the placeholders with given casts that are read as JSON. -/
def readAsJson (names : List (Option (List Char))) (params : List Value) : List Value :=
  (names.zip params).filterMap fun (name, v) => if isJsonName name then some v else none

/-- The parameters that are bound where a placeholder is cast to `json` or `jsonb`. -/
def jsonParams (p : Predicate) : List Value := readAsJson (castNames (shape p.text)) p.params

section

variable {p q : Predicate} {ps : List Predicate}

@[simp] lemma readAsJson_nil (names : List (Option (List Char))) : readAsJson names [] = [] := by
  simp [readAsJson]

lemma readAsJson_append {names names' : List (Option (List Char))} {params params' : List Value}
    (h : names.length = params.length) :
    readAsJson (names ++ names') (params ++ params') =
      readAsJson names params ++ readAsJson names' params' := by
  rw [readAsJson, List.zip_append h, List.filterMap_append]
  rfl

lemma jsonParams_of_make {text : String} {params : List Value} {origin : Members}
    (h : make text params origin = .ok p) :
    p.jsonParams = readAsJson (castNames (shape text)) params := by
  rw [jsonParams, shape_of_make h, params_of_make h]

lemma length_castNames_of_make {text : String} {params : List Value} {origin : Members}
    (h : make text params origin = .ok p) : (castNames (shape text)).length = params.length := by
  rw [length_castNames, ← countPlaceholders_eq]
  exact (make_eq_ok_iff.1 h).1

lemma Sound.length_castNames (hp : p.Sound) :
    (castNames (shape p.text)).length = p.params.length := by
  rw [Sql.length_castNames, ← countPlaceholders_eq]
  exact hp.count_eq

lemma jsonParams_empty : empty.jsonParams = [] := rfl

/-- The JSON parameters of fragments, one list behind the other. -/
def allJsonParams (ps : List Predicate) : List Value := ps.flatMap jsonParams

lemma readAsJson_flatMap (hps : ∀ p ∈ ps, p.Sound) :
    readAsJson (ps.flatMap fun p => castNames (shape p.text)) (allParams ps) =
      allJsonParams ps := by
  induction ps with
  | nil => rfl
  | cons p ps ih =>
    have hrest := ih fun q hq => hps q (by simp [hq])
    rw [allJsonParams, List.flatMap_cons, List.flatMap_cons, allParams, List.flatMap_cons,
      readAsJson_append (hps p (by simp)).length_castNames]
    exact congrArg (p.jsonParams ++ ·) hrest

lemma allJsonParams_congr {qs : List Predicate}
    (h : List.Forall₂ (fun p q => q.jsonParams = p.jsonParams) ps qs) :
    allJsonParams qs = allJsonParams ps := by
  induction h with
  | nil => rfl
  | cons hq _ ih =>
    rw [allJsonParams, List.flatMap_cons, hq]
    exact congrArg (_ ++ ·) ih

/-- Empty fragments have no parameters. -/
lemma allJsonParams_filter (hps : ∀ p ∈ ps, p.Sound) :
    allJsonParams (ps.filter (!·.isEmpty)) = allJsonParams ps := by
  induction ps with
  | nil => rfl
  | cons p ps ih =>
    have hrest := ih fun q hq => hps q (by simp [hq])
    cases hp : p.isEmpty with
    | true =>
      have hnone : p.jsonParams = [] := by
        rw [jsonParams, params_eq_nil_of_isEmpty (hps p (by simp)) hp, readAsJson_nil]
      rw [List.filter_cons_of_neg (by simp [hp]), hrest, allJsonParams, allJsonParams,
        List.flatMap_cons, hnone, List.nil_append]
    | false =>
      rw [List.filter_cons_of_pos (by simp [hp])]
      exact congrArg (p.jsonParams ++ ·) hrest

/-- Fragments one behind the other have their JSON parameters. -/
theorem jsonParams_chain {sep : String} (hps : ∀ p ∈ ps, p.Sound) (hsep : Glue sep)
    (hdivides : Divides (shape sep)) (hne : shape sep ≠ []) (h : chain ps sep = .ok q) :
    q.jsonParams = allJsonParams ps := by
  have hparams : q.params = allParams (ps.filter (!·.isEmpty)) := params_of_make h
  rw [jsonParams, shape_of_chain hps hsep h, castNames_intercalate hdivides hne, List.flatMap_map,
    hparams, readAsJson_flatMap fun p hp => hps p (List.mem_of_mem_filter hp),
    allJsonParams_filter hps]

/-- A fragment set between other texts has its JSON parameters. -/
theorem jsonParams_wrap {pre post : String} (hp : p.Sound) (hpre : Inert pre)
    (hset : Settled pre.toList) (hlast : ∀ t ∈ (shape pre).getLast?, t.isNeutral = true)
    (hpost : Inert post) (hbreaks : Breaks post.toList)
    (hapart : Apart (shape p.text) (shape post))
    (h : p.withText (pre ++ p.text ++ post) = .ok q) : q.jsonParams = p.jsonParams := by
  have hshape : shape (pre ++ p.text ++ post) = shape pre ++ (shape p.text ++ shape post) := by
    rw [shape_append (closed_append hpre.closed hp.closed) (Or.inr hbreaks),
      shape_append hpre.closed (Or.inl hset), List.append_assoc]
  rw [jsonParams_of_make h, hshape, castNames_prepend hpre.not_isMark hlast,
    castNames_postpend hpost.not_isMark hapart, jsonParams]

lemma divides_comma : Divides (shape ", ") := ⟨by decide, by decide, by decide⟩

lemma divides_operator (op : Operator) : Divides (shape (" " ++ op.name ++ " ")) := by
  cases op <;> exact ⟨by decide, by decide, by decide⟩

lemma jsonParams_enclosed (hp : p.Sound) (h : p.enclosed = .ok q) :
    q.jsonParams = p.jsonParams := by
  exact jsonParams_wrap hp (by decide) (by decide) (by decide) (by decide) (by decide)
    (Or.inr (by decide)) h

lemma jsonParams_enclosedAll {qs : List Predicate} (hps : ∀ p ∈ ps, p.Sound)
    (h : enclosedAll ps = .ok qs) : allJsonParams qs = allJsonParams ps := by
  refine allJsonParams_congr
    (((List.forall₂_and_left ps qs).2 ⟨hps, forall₂_enclosedAll h⟩).imp ?_)
  exact fun p q h => jsonParams_enclosed h.1 h.2

/-- Fragments joined with an operator have their JSON parameters. -/
theorem jsonParams_join {op : Operator} (hps : ∀ p ∈ ps, p.Sound) (h : join ps op = .ok q) :
    q.jsonParams = allJsonParams ps := by
  have hps' : ∀ p ∈ ps.filter (!·.isEmpty), p.Sound :=
    fun p hp => hps p (List.mem_of_mem_filter hp)
  rw [← allJsonParams_filter hps]
  unfold join at h
  split at h
  · next hnil =>
    obtain rfl := Except.ok.inj h
    rw [hnil]
    rfl
  · next p hone =>
    obtain rfl := Except.ok.inj h
    rw [hone]
    simp [allJsonParams]
  · obtain ⟨qs, hqs, h⟩ := Result.bind_eq_ok_iff.1 h
    have hsound := (enclosedAll_assembles hps' hqs).1
    have hne : shape (" " ++ op.name ++ " ") ≠ [] := by cases op <;> decide
    rw [jsonParams_chain hsound (glue_operator op) (divides_operator op) hne h,
      jsonParams_enclosedAll hps' hqs]

end

end Predicate

end DocumentSql

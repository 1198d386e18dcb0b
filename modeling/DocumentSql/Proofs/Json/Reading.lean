/-
JSON texts read back.

The JSON text of a value made of nothing, truth values, finite numbers, texts, lists and mappings
is read back as the value (`Json.read?_write`), and every such value has one
(`Json.exists_write`).  By induction over the value: what is written of it is read from the start
of any longer text, when what follows does not continue a number (`Json.IsReadAs`).  Lists and
mappings are read part by part; a mapping keeps the order of its members because no key is
repeated.
-/
import DocumentSql.Proofs.Json.Text
import DocumentSql.Proofs.Json.Value
import DocumentSql.Proofs.Number.Numeral

namespace DocumentSql.Json

open DecimalText (EndsNumber)

/-! ### What is written of lists and mappings -/

section

variable {l : Layout} {other : Value → Except Unwritable String} {depth : ℕ}

lemma writeItems_eq_ok_iff {xs : List Value} {parts : List String} :
    writeItems l other depth xs = .ok parts ↔
      List.Forall₂ (fun v s => writeAt l other depth v = .ok s) xs parts := by
  induction xs generalizing parts with
  | nil => simp [writeItems, eq_comm]
  | cons x xs ih =>
    rw [writeItems, List.forall₂_cons_left_iff]
    cases hx : writeAt l other depth x with
    | error e => simp
    | ok s =>
      simp only [← ih]
      cases hxs : writeItems l other depth xs <;> simp [Except.map, eq_comm]

/-- The text of a member: its key, a colon and the text of its value. -/
def IsMemberText (l : Layout) (other : Value → Except Unwritable String) (depth : ℕ)
    (m : Value × Value) (s : String) : Prop :=
  ∃ key t, keyText m.1 = .ok key ∧ writeAt l other depth m.2 = .ok t ∧
    s = writeText key ++ ": " ++ t

lemma writeMembers_eq_ok_iff {ms : Members} {parts : List String} :
    writeMembers l other depth ms = .ok parts ↔
      List.Forall₂ (IsMemberText l other depth) ms parts := by
  induction ms generalizing parts with
  | nil => simp [writeMembers, eq_comm]
  | cons m ms ih =>
    obtain ⟨k, v⟩ := m
    rw [writeMembers, List.forall₂_cons_left_iff]
    cases hk : keyText k with
    | error e => simp [IsMemberText, hk]
    | ok key =>
      cases hv : writeAt l other depth v with
      | error e => simp [IsMemberText, hv]
      | ok s =>
        simp only [← ih]
        cases hms : writeMembers l other depth ms <;>
          simp [Except.map, IsMemberText, hk, hv, eq_comm]

end

/-- The parts of a list or mapping on one line, between its brackets. -/
lemma toList_group (depth : ℕ) (opening closing : String) (parts : List String) :
    (Layout.line.group depth opening closing parts).toList = opening.toList ++
      ([',', ' '].intercalate (parts.map String.toList) ++ closing.toList) := by
  unfold Layout.group
  split
  · simp
  · simp [Layout.breakAt, Layout.line, String.toList_intercalate]

/-! ### Values at the start of a text -/

/-- The text is read as the value from the start of a longer text. It begins with no space and
closes no bracket. -/
structure IsReadAs (cs : List Char) (v : Value) : Prop where
  head : ∃ c ds, cs = c :: ds ∧ isSpace c = false ∧ c ≠ ']'
  read : ∀ fuel rest, cs.length < fuel → EndsNumber rest →
    readValue? fuel (cs ++ rest) = some (v, rest)

/-- The text is a key, a colon and a text that is read as the value of the member. -/
structure IsReadAsMember (cs : List Char) (m : Value × Value) : Prop where
  exists_parts : ∃ key ds, m.1 = .text key ∧ cs = (writeText key).toList ++ ':' :: ' ' :: ds ∧
    IsReadAs ds m.2

section

variable {cs rest : List Char} {v : Value}

lemma skipSpace_cons {c : Char} (hc : isSpace c = false) (cs : List Char) :
    skipSpace (c :: cs) = c :: cs := List.dropWhile_cons_of_neg (by simp [hc])

lemma IsReadAs.skipSpace_append (h : IsReadAs cs v) (rest : List Char) :
    skipSpace (cs ++ rest) = cs ++ rest := by
  obtain ⟨c, ds, rfl, hc, -⟩ := h.head
  exact skipSpace_cons hc _

/-- A blank in front of a value is passed over. -/
lemma IsReadAs.skipSpace_blank (h : IsReadAs cs v) (rest : List Char) :
    skipSpace (' ' :: (cs ++ rest)) = cs ++ rest := by
  rw [skipSpace, List.dropWhile_cons_of_pos (by rfl)]
  exact h.skipSpace_append rest

lemma endsNumber_of_mark {c : Char} (hc : c ∈ [',', ']', '\x7d']) (rest : List Char) :
    EndsNumber (c :: rest) := by
  intro d hd
  obtain rfl : c = d := by simpa using hd
  simp only [List.mem_cons, List.not_mem_nil, or_false] at hc
  rcases hc with rfl | rfl | rfl <;> decide

/-! ### Lists and mappings -/

/-- The parts of a list or mapping with a comma and a blank between them. -/
def joined (parts : List (List Char)) : List Char := [',', ' '].intercalate parts

lemma joined_cons_cons (p q : List Char) (parts : List (List Char)) (rest : List Char) :
    joined (p :: q :: parts) ++ rest = p ++ ',' :: ' ' :: (joined (q :: parts) ++ rest) := by
  simp [joined, List.intercalate_cons_cons]

lemma length_joined_cons_cons (p q : List Char) (parts : List (List Char)) :
    (joined (p :: q :: parts)).length = p.length + 2 + (joined (q :: parts)).length := by
  simp [joined, List.intercalate_cons_cons]
  omega

/-- Parts with something between them begin with the first one. -/
lemma exists_joined_cons (p : List Char) (parts : List (List Char)) :
    ∃ tail, joined (p :: parts) = p ++ tail := by
  cases parts with
  | nil => exact ⟨[], by simp [joined]⟩
  | cons q parts => exact ⟨_, by rw [joined, List.intercalate_cons_cons, List.append_assoc]⟩

/-- The items of a list are read up to its closing bracket. -/
lemma readItems?_joined {part : List Char} {parts : List (List Char)} {x : Value}
    {xs : List Value} (hpart : IsReadAs part x) (hparts : List.Forall₂ IsReadAs parts xs)
    {fuel : ℕ} (hfuel : (joined (part :: parts)).length + 1 < fuel)
    (hcs : skipSpace cs = joined (part :: parts) ++ ']' :: rest) (read : List Value) :
    readItems? fuel read cs = some (read.reverse ++ x :: xs, rest) := by
  induction hparts generalizing fuel cs read part x with
  | nil =>
    obtain ⟨fuel, rfl⟩ := Nat.exists_eq_succ_of_ne_zero (by omega : fuel ≠ 0)
    have hsingle : joined [part] = part := by simp [joined]
    rw [hsingle] at hcs hfuel
    have hread := hpart.read fuel _ (by omega) (endsNumber_of_mark (c := ']') (by simp) rest)
    rw [readItems?, hcs]
    simp only [hread, bind, Option.bind, skipSpace_cons (by rfl : isSpace ']' = false)]
    simp
  | @cons second y more ys hsecond hmore ih =>
    obtain ⟨fuel, rfl⟩ := Nat.exists_eq_succ_of_ne_zero (by omega : fuel ≠ 0)
    rw [joined_cons_cons] at hcs
    rw [length_joined_cons_cons] at hfuel
    have hread := hpart.read fuel (',' :: ' ' :: (joined (second :: more) ++ ']' :: rest))
      (by omega) (endsNumber_of_mark (by simp) _)
    have hskip : skipSpace (' ' :: (joined (second :: more) ++ ']' :: rest)) =
        joined (second :: more) ++ ']' :: rest := by
      obtain ⟨tail, htail⟩ := exists_joined_cons second more
      rw [htail, List.append_assoc]
      exact hsecond.skipSpace_blank _
    have hfollow := ih hsecond (by omega : (joined (second :: more)).length + 1 < fuel) hskip
      (x :: read)
    rw [readItems?, hcs]
    simp only [hread, bind, Option.bind, skipSpace_cons (by rfl : isSpace ',' = false), hfollow]
    simp

/-- A member whose key is not there yet is added at the end. -/
lemma insert_of_not_mem {ms : Members} {key : String} (hkey : some key ∉ ms.map (·.1.asText?))
    (v : Value) : Members.insert (.text key) v ms = ms ++ [(.text key, v)] := by
  induction ms with
  | nil => rfl
  | cons m ms ih =>
    have hne : m.1.asText? ≠ some key := fun heq => hkey (by simp [heq])
    have hrest : some key ∉ ms.map (·.1.asText?) := fun hmem => hkey (by simp [hmem])
    rw [Members.insert, if_neg (by simpa using hne), ih hrest]
    rfl

lemma insert_next {read ms : Members} {m : Value × Value} {key : String} (hkey : m.1 = .text key)
    (hkeys : ((read ++ m :: ms).map (·.1.asText?)).Nodup) :
    Members.insert (.text key) m.2 read = read ++ [m] := by
  rw [List.map_append, List.nodup_append] at hkeys
  rw [insert_of_not_mem ?_ m.2, ← hkey]
  intro hmem
  exact hkeys.2.2 _ hmem (some key) (by simp [hkey, Value.asText?]) rfl

/-- A member is read up to what follows it: its key behind the quote, and its value behind the
colon. -/
lemma IsReadAsMember.read {part : List Char} {m : Value × Value} (h : IsReadAsMember part m)
    {fuel : ℕ} (hfuel : part.length < fuel) (hrest : EndsNumber rest) :
    ∃ key ds tail, m.1 = .text key ∧ part ++ rest = '"' :: ds ∧
      readChars? (ds.length + 1) [] ds = some (key, ':' :: tail) ∧
      readValue? fuel (skipSpace tail) = some (m.2, rest) := by
  obtain ⟨key, es, hkey, rfl, hvalue⟩ := h.exists_parts
  obtain ⟨ds, hds, hread⟩ := readChars?_writeText key (':' :: ' ' :: (es ++ rest))
  refine ⟨key, ds, ' ' :: (es ++ rest), hkey, ?_, hread, ?_⟩
  · rw [← hds]
    simp
  · rw [hvalue.skipSpace_blank]
    simp only [List.length_append, List.length_cons] at hfuel
    exact hvalue.read fuel rest (by omega) hrest

/-- The members of a mapping are read up to its closing bracket. -/
lemma readMembers?_joined {part : List Char} {parts : List (List Char)} {m : Value × Value}
    {ms : Members} (hpart : IsReadAsMember part m) (hparts : List.Forall₂ IsReadAsMember parts ms)
    {fuel : ℕ} (hfuel : (joined (part :: parts)).length + 1 < fuel)
    (hcs : skipSpace cs = joined (part :: parts) ++ '\x7d' :: rest) (read : Members)
    (hkeys : ((read ++ m :: ms).map (·.1.asText?)).Nodup) :
    readMembers? fuel read cs = some (read ++ m :: ms, rest) := by
  induction hparts generalizing fuel cs read part m with
  | nil =>
    obtain ⟨fuel, rfl⟩ := Nat.exists_eq_succ_of_ne_zero (by omega : fuel ≠ 0)
    have hsingle : joined [part] = part := by simp [joined]
    rw [hsingle] at hcs hfuel
    obtain ⟨key, ds, tail, hkey, hds, hchars, hvalue⟩ := hpart.read (by omega : part.length < fuel)
      (endsNumber_of_mark (c := '\x7d') (by simp) rest)
    have hinsert := insert_next hkey hkeys
    rw [readMembers?, hcs, hds]
    simp only [hchars, hvalue, bind, Option.bind, skipSpace_cons (by rfl : isSpace ':' = false),
      skipSpace_cons (by rfl : isSpace '\x7d' = false), hinsert]
  | @cons second n more ns hsecond hmore ih =>
    obtain ⟨fuel, rfl⟩ := Nat.exists_eq_succ_of_ne_zero (by omega : fuel ≠ 0)
    rw [joined_cons_cons] at hcs
    rw [length_joined_cons_cons] at hfuel
    obtain ⟨key, ds, tail, hkey, hds, hchars, hvalue⟩ := hpart.read (by omega : part.length < fuel)
      (endsNumber_of_mark (c := ',') (by simp)
        (' ' :: (joined (second :: more) ++ '\x7d' :: rest)))
    have hinsert := insert_next hkey hkeys
    have hskip : skipSpace (' ' :: (joined (second :: more) ++ '\x7d' :: rest)) =
        joined (second :: more) ++ '\x7d' :: rest := by
      obtain ⟨tail', htail'⟩ := exists_joined_cons second more
      obtain ⟨key', es, -, rfl, -⟩ := hsecond.exists_parts
      rw [htail', toList_writeText]
      rfl
    have hfollow := ih hsecond (by omega : (joined (second :: more)).length + 1 < fuel) hskip
      (read ++ [m]) (by simpa using hkeys)
    rw [readMembers?, hcs, hds]
    simp only [hchars, hvalue, bind, Option.bind, skipSpace_cons (by rfl : isSpace ':' = false),
      skipSpace_cons (by rfl : isSpace ',' = false), hinsert, hfollow]
    simp

end

/-! ### Values -/

section

variable {cs rest : List Char} {v : Value} {depth : ℕ} {s : String}

/-- A text that begins like no name is none. -/
lemma readName?_eq_none {c : Char} (hc : c ∉ ['n', 't', 'f', 'N', 'I', '-']) (cs : List Char) :
    readName? (c :: cs) = none := by
  simp only [List.mem_cons, List.not_mem_nil, or_false, not_or] at hc
  obtain ⟨hn, ht, hf, hN, hI, hminus⟩ := hc
  simp [readName?, names, Text.after?, Ne.symm hn, Ne.symm ht, Ne.symm hf, Ne.symm hN, Ne.symm hI,
    Ne.symm hminus]

lemma readName?_minus {c : Char} (hc : c ≠ 'I') (cs : List Char) :
    readName? ('-' :: c :: cs) = none := by
  simp [readName?, names, Text.after?, Ne.symm hc]

lemma isReadAs_name {name : String} (hname : (name, v) ∈ names.take 3) :
    IsReadAs name.toList v := by
  simp only [names, List.take_succ_cons, List.take_zero, List.mem_cons, Prod.mk.injEq,
    List.not_mem_nil, or_false] at hname
  have hread : ∀ rest, readName? (name.toList ++ rest) = some (v, rest) := by
    intro rest
    rcases hname with ⟨rfl, rfl⟩ | ⟨rfl, rfl⟩ | ⟨rfl, rfl⟩ <;> simp [readName?, names, Text.after?]
  constructor
  · rcases hname with ⟨rfl, -⟩ | ⟨rfl, -⟩ | ⟨rfl, -⟩ <;> exact ⟨_, _, rfl, rfl, by decide⟩
  · intro fuel rest hfuel _
    obtain ⟨fuel, rfl⟩ := Nat.exists_eq_succ_of_ne_zero (by omega : fuel ≠ 0)
    rw [readValue?.eq_def]
    simp only [hread]

lemma isReadAs_numeral {t : DecimalText} (ht : t.IsProper) (negative : Bool) :
    IsReadAs (t.signed negative) (t.value negative) := by
  obtain ⟨c, ds, hchars, hdigit⟩ := DecimalText.exists_chars_eq_cons ht
  have hne : ∀ d, d.isDigit = false → c ≠ d := fun d => DecimalText.ne_of_isDigit hdigit
  have hspace : isSpace c = false := by
    simp [isSpace, hne ' ' (by decide), hne '\t' (by decide), hne '\n' (by decide),
      hne '\r' (by decide)]
  cases negative with
  | true =>
    refine ⟨⟨'-', t.chars, rfl, by decide, by decide⟩, fun fuel rest hfuel hrest => ?_⟩
    obtain ⟨fuel, rfl⟩ := Nat.exists_eq_succ_of_ne_zero (by omega : fuel ≠ 0)
    have hsigned : t.signed true ++ rest = '-' :: (t.chars ++ rest) := rfl
    have hname : readName? ('-' :: (t.chars ++ rest)) = none := by
      rw [hchars]
      exact readName?_minus (hne 'I' (by decide)) _
    rw [hsigned, readValue?, hname]
    exact DecimalText.readNumber?_chars true ht hrest
  | false =>
    refine ⟨⟨c, ds, hchars, hspace, hne ']' (by decide)⟩, fun fuel rest hfuel hrest => ?_⟩
    obtain ⟨fuel, rfl⟩ := Nat.exists_eq_succ_of_ne_zero (by omega : fuel ≠ 0)
    have hsigned : t.signed false ++ rest = c :: (ds ++ rest) := by
      rw [DecimalText.signed, if_neg (by simp), hchars]
      rfl
    have hname : readName? (c :: (ds ++ rest)) = none := by
      refine readName?_eq_none ?_ _
      simp only [List.mem_cons, List.not_mem_nil, or_false, not_or]
      exact ⟨hne _ (by decide), hne _ (by decide), hne _ (by decide), hne _ (by decide),
        hne _ (by decide), hne _ (by decide)⟩
    have hnumber := DecimalText.readNumber?_chars false ht hrest
    rw [hchars, List.cons_append] at hnumber
    rw [hsigned, readValue?.eq_def]
    simp only [hname]
    split
    · next heq => exact absurd (List.cons.inj heq).1 (hne _ (by decide))
    · next heq => exact absurd (List.cons.inj heq).1 (hne _ (by decide))
    · next heq => exact absurd (List.cons.inj heq).1 (hne _ (by decide))
    · next heq => exact absurd (List.cons.inj heq).1 (hne _ (by decide))
    · exact hnumber

/-- An integer is written as the numeral of its magnitude, with its sign. -/
lemma toList_toString (n : ℤ) :
    (toString n).toList = (DecimalText.ofNat n.natAbs).signed (decide (n < 0)) := by
  rw [Int.toString_eq_repr, Int.repr_eq_if, DecimalText.signed, DecimalText.chars_ofNat]
  by_cases hn : n < 0
  · have habs : (-n).toNat = n.natAbs := by omega
    rw [if_neg (by omega), if_pos (by simpa using hn), String.toList_append, Nat.toList_repr, habs]
    rfl
  · have habs : n.toNat = n.natAbs := by omega
    rw [if_pos (by omega), if_neg (by simpa using hn), Nat.toList_repr, habs]

lemma isReadAs_int (n : ℤ) : IsReadAs (toString n).toList (.int n) := by
  have hvalue : (DecimalText.ofNat n.natAbs).value (decide (n < 0)) = .int n := by
    rw [DecimalText.value, DecimalText.coefficient_ofNat]
    by_cases hn : n < 0
    · have habs : -(n.natAbs : ℤ) = n := by omega
      rw [if_pos (by rfl), if_pos (by simpa using hn), habs]
    · have habs : (n.natAbs : ℤ) = n := by omega
      rw [if_pos (by rfl), if_neg (by simpa using hn), habs]
  rw [toList_toString, ← hvalue]
  exact isReadAs_numeral (DecimalText.isProper_ofNat _) _

lemma isReadAs_float {x : Binary} (hx : x.IsKept .double) :
    IsReadAs (writeFloat x).toList (.float x) := by
  obtain ⟨t, ht, htext, hvalue⟩ := Binary.exists_writeFloat hx
  rw [htext, ← hvalue]
  exact isReadAs_numeral ht _

lemma isReadAs_text (s : String) : IsReadAs (writeText s).toList (.text s) := by
  refine ⟨⟨'"', _, toList_writeText s, by decide, by decide⟩, fun fuel rest hfuel _ => ?_⟩
  obtain ⟨fuel, rfl⟩ := Nat.exists_eq_succ_of_ne_zero (by omega : fuel ≠ 0)
  obtain ⟨ds, hds, hread⟩ := readChars?_writeText s rest
  rw [hds, readValue?, readName?_eq_none (by decide)]
  simp only [hread, Option.map_some]

/-- A list is read as its items are. -/
lemma isReadAs_list {parts : List (List Char)} {xs : List Value}
    (h : List.Forall₂ IsReadAs parts xs) :
    IsReadAs ('[' :: (joined parts ++ [']'])) (.list xs) := by
  refine ⟨⟨'[', _, rfl, by decide, by decide⟩, fun fuel rest hfuel _ => ?_⟩
  obtain ⟨fuel, rfl⟩ := Nat.exists_eq_succ_of_ne_zero (by omega : fuel ≠ 0)
  have happend : '[' :: (joined parts ++ [']']) ++ rest = '[' :: (joined parts ++ ']' :: rest) := by
    simp
  rw [happend, readValue?, readName?_eq_none (by decide)]
  cases h with
  | nil => rfl
  | @cons part x parts xs hpart hparts =>
    have hskip : skipSpace (joined (part :: parts) ++ ']' :: rest) =
        joined (part :: parts) ++ ']' :: rest := by
      obtain ⟨tail, htail⟩ := exists_joined_cons part parts
      rw [htail, List.append_assoc]
      exact hpart.skipSpace_append _
    have hlength : (joined (part :: parts)).length + 1 < fuel := by
      simp only [List.length_cons, List.length_append, List.length_nil] at hfuel
      omega
    have hitems := readItems?_joined hpart hparts hlength hskip []
    simp only [hskip]
    split
    · next heq =>
      obtain ⟨c, ds, hcons, -, hc⟩ := hpart.head
      obtain ⟨tail, htail⟩ := exists_joined_cons part parts
      rw [htail, hcons] at heq
      exact absurd (List.cons.inj heq).1 hc
    · rw [hitems]
      rfl

/-- A mapping without repeated keys is read as its members are. -/
lemma isReadAs_dict {parts : List (List Char)} {ms : Members}
    (h : List.Forall₂ IsReadAsMember parts ms) (hkeys : (ms.map (·.1.asText?)).Nodup) :
    IsReadAs ('\x7b' :: (joined parts ++ ['\x7d'])) (.dict ms) := by
  refine ⟨⟨'\x7b', _, rfl, by decide, by decide⟩, fun fuel rest hfuel _ => ?_⟩
  obtain ⟨fuel, rfl⟩ := Nat.exists_eq_succ_of_ne_zero (by omega : fuel ≠ 0)
  have happend : '\x7b' :: (joined parts ++ ['\x7d']) ++ rest =
      '\x7b' :: (joined parts ++ '\x7d' :: rest) := by
    simp
  rw [happend, readValue?, readName?_eq_none (by decide)]
  cases h with
  | nil => rfl
  | @cons part m parts ms hpart hparts =>
    have hskip : skipSpace (joined (part :: parts) ++ '\x7d' :: rest) =
        joined (part :: parts) ++ '\x7d' :: rest := by
      obtain ⟨tail, htail⟩ := exists_joined_cons part parts
      obtain ⟨key, es, -, rfl, -⟩ := hpart.exists_parts
      rw [htail, toList_writeText]
      rfl
    have hlength : (joined (part :: parts)).length + 1 < fuel := by
      simp only [List.length_cons, List.length_append, List.length_nil] at hfuel
      omega
    have hmembers := readMembers?_joined hpart hparts hlength hskip [] hkeys
    simp only [hskip]
    split
    · next heq =>
      obtain ⟨key, es, -, rfl, -⟩ := hpart.exists_parts
      obtain ⟨tail, htail⟩ := exists_joined_cons ((writeText key).toList ++ ':' :: ' ' :: es) parts
      rw [htail, toList_writeText] at heq
      exact absurd (List.cons.inj heq).1 (by decide)
    · rw [hmembers]
      rfl

/-- Each element of a list has a partner, so the list has a list of partners. -/
lemma exists_forall₂ {α β : Type} {R : α → β → Prop} {as : List α} (h : ∀ a ∈ as, ∃ b, R a b) :
    ∃ bs, List.Forall₂ R as bs := by
  induction as with
  | nil => exact ⟨[], .nil⟩
  | cons a as ih =>
    obtain ⟨b, hb⟩ := h a (by simp)
    obtain ⟨bs, hbs⟩ := ih fun a' ha' => h a' (by simp [ha'])
    exact ⟨b :: bs, .cons hb hbs⟩

/-- A JSON value has a JSON text at every depth, which is read as the value. -/
theorem exists_writeAt (hv : v.IsJson) (depth : ℕ) :
    ∃ s, writeAt .line refuse depth v = .ok s ∧ IsReadAs s.toList v := by
  induction v using Value.structured_induction generalizing depth with
  | list xs ih =>
    obtain ⟨parts, hparts⟩ := exists_forall₂ fun x hx =>
      ih x hx (Value.isJson_list.1 hv x hx) (depth + 1)
    have hwrite := writeItems_eq_ok_iff.2 (hparts.imp fun _ _ h => h.1)
    refine ⟨_, by rw [writeAt, hwrite]; rfl, ?_⟩
    rw [toList_group]
    exact isReadAs_list (List.forall₂_map_left_iff.2 (hparts.imp fun _ _ h => h.2).flip)
  | dict ms ih =>
    obtain ⟨hms, hvalues⟩ := Value.isJson_dict.1 hv
    obtain ⟨parts, hparts⟩ : ∃ parts, List.Forall₂ (fun m s =>
        IsMemberText .line refuse (depth + 1) m s ∧ IsReadAsMember s.toList m) ms parts := by
      refine exists_forall₂ fun m hm => ?_
      obtain ⟨⟨key, hkey⟩, hjson⟩ := hvalues m hm
      obtain ⟨t, ht, hread⟩ := ih m hm hjson (depth + 1)
      exact ⟨_, ⟨key, t, by rw [hkey]; rfl, ht, rfl⟩, ⟨key, t.toList, hkey, by simp, hread⟩⟩
    have hwrite := writeMembers_eq_ok_iff.2 (hparts.imp fun _ _ h => h.1)
    refine ⟨_, by rw [writeAt, hwrite]; rfl, ?_⟩
    rw [toList_group]
    exact isReadAs_dict (List.forall₂_map_left_iff.2 (hparts.imp fun _ _ h => h.2).flip) hms.2
  | leaf v hleaf =>
    cases v with
    | null => exact ⟨_, rfl, isReadAs_name (by simp [names])⟩
    | bool b => cases b <;> exact ⟨_, rfl, isReadAs_name (by simp [names])⟩
    | int n => exact ⟨_, rfl, isReadAs_int n⟩
    | float x => exact ⟨_, rfl, isReadAs_float hv⟩
    | text s => exact ⟨_, rfl, isReadAs_text s⟩
    | _ => first | (simp [Value.isStructured] at hleaf; done) | exact hv.elim

/-- A JSON value has a JSON text, and is read back from it. -/
theorem exists_write (hv : v.IsJson) : ∃ s, write v = .ok s ∧ read? s = some v := by
  obtain ⟨s, hs, hread⟩ := exists_writeAt hv 0
  refine ⟨s, hs, ?_⟩
  have hvalue := hread.read (s.toList.length + 1) [] (by omega) (by simp [EndsNumber])
  have hskip := hread.skipSpace_append []
  rw [List.append_nil] at hvalue hskip
  simp only [read?, hskip, hvalue]
  rfl

end

end DocumentSql.Json

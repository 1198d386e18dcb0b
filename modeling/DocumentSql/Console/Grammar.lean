/-
Command lines: options and operands.

A grammar lists its options and one kind of operand. An option is given by a name or by an
unambiguous beginning of a long name; its argument follows as a word of its own, behind an equals
sign, or directly behind a short name. Two hyphens end the options. Words that look like options
and belong to none are left over, and so are words that no operand takes.
-/
import DocumentSql.Json.Read
import DocumentSql.Text.Digit
import DocumentSql.Text.Cut

namespace DocumentSql.Console

/-- Why the reading of a command line ends before its end. -/
inductive Stop where
  /-- The command line is malformed. -/
  | misuse
  /-- Help was asked for. -/
  | help
  /-- The version was asked for. -/
  | version
deriving DecidableEq, Inhabited

/-- How many arguments an option takes. -/
inductive Arity where
  /-- None; it is given or not. -/
  | none
  /-- Exactly one. -/
  | one
  /-- One or more. -/
  | some
deriving DecidableEq

/-- An option. -/
structure OptionRule where
  /-- The key that its value is kept under. -/
  key : String
  /-- Its names, with their hyphens. -/
  names : List String
  /-- How many arguments it takes. -/
  arity : Arity
  /-- Its argument is JSON. -/
  isJson : Bool
  /-- The reading ends here. -/
  stop : Option Stop

namespace OptionRule

/-- An option with one argument. -/
def text (key : String) (names : List String) : OptionRule := ⟨key, names, .one, false, none⟩

/-- An option with one argument in JSON. -/
def json (key : String) (names : List String) : OptionRule := ⟨key, names, .one, true, none⟩

/-- An option without arguments. -/
def flag (key : String) (names : List String) : OptionRule := ⟨key, names, .none, false, none⟩

/-- An option at which the reading ends. -/
def stopping (stop : Stop) (names : List String) : OptionRule := ⟨"", names, .none, false, some stop⟩

end OptionRule

/-- The operands of a grammar. -/
inductive Operand where
  /-- One word. -/
  | one
  /-- One word or more. -/
  | some
  /-- All words from the first operand on, options included. -/
  | rest
deriving DecidableEq

/-- A grammar. -/
structure Grammar where
  /-- The options. -/
  options : List OptionRule
  /-- The operands. -/
  operand : Operand

/-- An argument that is attached to the name of an option. -/
structure Attached where
  /-- It stands behind an equals sign. -/
  isBehindEquals : Bool
  /-- Its text. -/
  text : String

/-- What a word of a command line is. -/
inductive Word where
  /-- An operand or an argument. -/
  | plain (s : String)
  /-- The end of the options. -/
  | separator
  /-- An option that the grammar knows, by one of its names, with the argument that is attached
  to it. -/
  | option (rule : OptionRule) (name : String) (attached : Option Attached)
  /-- An option that the grammar does not know. -/
  | unknown (s : String)

namespace Word

/-- The word is an option. -/
def isOption : Word → Bool
  | option .. | unknown _ => true
  | _ => false

end Word

/-! ### Words -/

/-- A negative number, which is no option. -/
def isNegativeNumber (cs : List Char) : Bool :=
  match cs with
  | '-' :: cs =>
    let body := match cs.reverse with
      | '\n' :: rest => rest.reverse
      | _ => cs
    match Text.cutAt '.' body with
    | (whole, none) => !whole.isEmpty && whole.all Text.isDigit
    | (whole, some fraction) =>
      whole.all Text.isDigit && !fraction.isEmpty && fraction.all Text.isDigit
  | _ => false

/-- A text at its first equals sign. -/
def cutEquals (cs : List Char) : String × Option Attached :=
  let (before, after) := Text.cutAt '=' cs
  (String.ofList before, after.map fun cs => ⟨true, String.ofList cs⟩)

namespace Grammar

/-- The names of all options, each with its option. -/
def named (g : Grammar) : List (String × OptionRule) :=
  g.options.flatMap fun r => r.names.map fun n => (n, r)

/-- The option of a name. -/
def find? (g : Grammar) (name : String) : Option OptionRule := g.named.lookup name

/-- The options that a word may abbreviate. -/
def candidates (g : Grammar) (s : String) : List Word :=
  match s.toList with
  | '-' :: '-' :: _ =>
    let (stem, attached) := cutEquals s.toList
    (g.named.filter fun n => stem.toList.isPrefixOf n.1.toList).map fun n =>
      .option n.2 n.1 attached
  | '-' :: c :: rest =>
    (g.named.filter fun n => n.1.toList == ['-', c] || s.toList.isPrefixOf n.1.toList).map fun n =>
      .option n.2 n.1 (if n.1.toList == ['-', c] then some ⟨false, String.ofList rest⟩ else none)
  | _ => []

/-- The option named in full before an equals sign. -/
def attachedOption? (g : Grammar) (s : String) : Option Word :=
  match cutEquals s.toList with
  | (name, some argument) => (g.find? name).map fun r => .option r name (some argument)
  | _ => none

/-- What a word that begins with a hyphen and is longer is. -/
def hyphenWord (g : Grammar) (s : String) : Except Stop Word :=
  match g.find? s with
  | some r => .ok (.option r s none)
  | none => match g.attachedOption? s with
    | some w => .ok w
    | none => match g.candidates s with
      | [w] => .ok w
      | _ :: _ :: _ => .error .misuse
      | [] => .ok (if isNegativeNumber s.toList || s.contains ' ' then .plain s else .unknown s)

/-- What a word before the end of the options is. -/
def word (g : Grammar) (s : String) : Except Stop Word :=
  match s.toList with
  | '-' :: _ :: _ => g.hyphenWord s
  | _ => .ok (.plain s)

/-- What the words of a command line are. -/
def words (g : Grammar) : List String → Except Stop (List Word)
  | [] => .ok []
  | s :: rest =>
    if s == "--" then .ok (.separator :: rest.map .plain)
    else do
      let w ← g.word s
      let ws ← words g rest
      .ok (w :: ws)

end Grammar

/-! ### Reading -/

/-- What was read of a command line. -/
structure Reading where
  /-- The values of options by their keys, the latest first. -/
  values : List (String × Value)
  /-- The operands, once they were read. -/
  operands : Option (List String)
  /-- The words that are left over. -/
  extras : List String

namespace Reading

/-- Nothing was read yet. -/
def empty : Reading := ⟨[], none, []⟩

/-- The value of an option, if it was given. -/
def value? (r : Reading) (key : String) : Option Value := r.values.lookup key

/-- The value of an option, or nothing. -/
def valueD (r : Reading) (key : String) : Value := (r.value? key).getD .null

/-- The text of an option, if it was given. -/
def text? (r : Reading) (key : String) : Option String := r.value? key >>= Value.asText?

/-- An option was given. -/
def has (r : Reading) (key : String) : Bool := (r.value? key).isSome

/-- Takes down an option with its arguments. -/
def put (rule : OptionRule) (arguments : List String) (r : Reading) : Except Stop Reading :=
  match rule.stop with
  | some stop => .error stop
  | none =>
    let keep (v : Value) : Except Stop Reading := .ok { r with values := (rule.key, v) :: r.values }
    match rule.arity with
    | .none => keep (.bool true)
    | .some => keep (.list (arguments.map .text))
    | .one => match arguments with
      | [s] =>
        if rule.isJson then
          match Json.read? s with
          | some v => keep v
          | none => .error .misuse
        else keep (.text s)
      | _ => .error .misuse

end Reading

namespace Grammar

/-- The plain words that begin a list of words. -/
def plainRun : List Word → List String
  | .plain s :: ws => s :: plainRun ws
  | _ => []

/-- What stands at the end of options that are joined behind one hyphen. -/
inductive JoinedEnd where
  /-- An option with what is attached to it. -/
  | option (rule : OptionRule) (attached : Option Attached)
  /-- Characters that belong to no option. -/
  | unknown (s : String)

/-- The options without arguments that are joined behind one hyphen, and what stands at their
end. -/
def joined (g : Grammar) (rule : OptionRule) :
    List Char → Except Stop (List OptionRule × JoinedEnd)
  | [] => .error .misuse
  | c :: cs =>
    if c == '-' then .error .misuse
    else match g.find? (String.ofList ['-', c]) with
      | none => .ok ([rule], .unknown (String.ofList ('-' :: c :: cs)))
      | some next =>
        if cs.isEmpty then .ok ([rule], .option next none)
        else if cs.head? == some '=' then
          .ok ([rule], .option next (some ⟨true, String.ofList (cs.drop 1)⟩))
        else if next.arity == .none then do
          let (before, last) ← joined g next cs
          .ok (rule :: before, last)
        else .ok ([rule], .option next (some ⟨false, String.ofList cs⟩))

/-- Takes down options without arguments. -/
def putFlags (rules : List OptionRule) (r : Reading) : Except Stop Reading :=
  rules.foldlM (fun r rule => r.put rule []) r

/-- Takes down an option; answers the number of words behind it that are its arguments. -/
def takeOption (rule : OptionRule) (attached : Option Attached) (behind : List Word)
    (before : List OptionRule) (r : Reading) : Except Stop (Nat × Reading) := do
  match attached with
  | some s =>
    let r ← if rule.arity == .none then .error .misuse else putFlags before r
    .ok (0, ← r.put rule [s.text])
  | none =>
    let arguments := match rule.arity with
      | .none => []
      | .one => (plainRun behind).take 1
      | .some => plainRun behind
    if rule.arity != .none && arguments.isEmpty then .error .misuse
    else
      let r ← putFlags before r
      .ok (arguments.length, ← r.put rule arguments)

/-- Takes down an option as it is given. Behind a short option without arguments further ones
may follow; what belongs to none of them is left over. -/
def takeGiven (g : Grammar) (rule : OptionRule) (name : String) (attached : Option Attached)
    (behind : List Word) (r : Reading) : Except Stop (Nat × Reading) := do
  match attached with
  | some ⟨false, s⟩ =>
    if rule.arity == .none && !"--".toList.isPrefixOf name.toList && !s.isEmpty then
      match ← g.joined rule s.toList with
      | (before, .option last attached) => takeOption last attached behind before r
      | (before, .unknown s) =>
        .ok (0, ← putFlags before { r with extras := r.extras ++ [s] })
    else takeOption rule attached behind [] r
  | attached => takeOption rule attached behind [] r

/-- The number of words that the operands take of the words that begin with one. -/
def operandCount (g : Grammar) (ws : List Word) : Nat :=
  match g.operand with
  | .rest => ws.length
  | .some => (ws.takeWhile (!·.isOption)).length
  | .one =>
    let lead := (ws.takeWhile fun w => match w with
      | .separator => true
      | _ => false).length
    let behind := ((ws.drop (lead + 1)).takeWhile fun w => match w with
      | .separator => true
      | _ => false).length
    lead + 1 + behind

/-- The words hold an operand before the next option. -/
def hasOperand : List Word → Bool
  | .plain _ :: _ => true
  | .separator :: .plain _ :: _ => true
  | _ => false

/-- The words that operands are read from, without the end of the options. -/
def operandTexts (g : Grammar) (texts : List String) : List String :=
  if g.operand == .rest then texts else texts.erase "--"

/-- Reads words, of which there are at most as many as the fuel. The texts of all words stand
beside them. -/
def readWords (g : Grammar) : Nat → List (Word × String) → Reading → Except Stop Reading
  | 0, _, r => .ok r
  | _ + 1, [], r => .ok r
  | fuel + 1, (w, s) :: rest, r =>
    match w with
    | .unknown s => readWords g fuel rest { r with extras := r.extras ++ [s] }
    | .option rule name attached => do
      let (n, r) ← g.takeGiven rule name attached (rest.map Prod.fst) r
      readWords g fuel (rest.drop n) r
    | w =>
      let ws := w :: rest.map Prod.fst
      if r.operands.isNone && hasOperand ws then
        let n := g.operandCount ws
        let texts := (((w, s) :: rest).take n).map Prod.snd
        let r := { r with operands := some (g.operandTexts texts) }
        readWords g fuel (((w, s) :: rest).drop n) r
      else readWords g fuel rest { r with extras := r.extras ++ [s] }

/-- Reads a command line. Options are read in order, and each may end the reading; operands are
required. -/
def read (g : Grammar) (argv : List String) : Except Stop Reading := do
  let ws ← g.words argv
  g.readWords (argv.length + 1) (ws.zip argv) .empty

end Grammar

end DocumentSql.Console

/-
Programs over settings.

A program is a sequence of steps that read, assign, delete and list settings, save and load them,
or run further steps under overrides. A step that fails changes nothing and does not end the
program. The lines of the log are those that the level in force lets through.
-/
import DocumentSql.Settings.File
import DocumentSql.Settings.Override

namespace DocumentSql

/-- A step of a program over settings. -/
inductive SettingsStep where
  /-- Reads a dotted key. -/
  | read (key : String)
  /-- Reads a declared name. -/
  | readName (name : String)
  /-- Assigns a value to a dotted key. -/
  | assign (key : String) (v : Value)
  /-- Deletes a dotted key. -/
  | delete (key : String)
  /-- Asks whether a dotted key holds something. -/
  | ask (key : String)
  /-- Lists the dotted keys. -/
  | keys
  /-- Counts the settings. -/
  | size
  /-- Lists the settings with what they hold. -/
  | items
  /-- Shows all settings in readable form. -/
  | readable
  /-- Reads the rank of the level from which on log lines are shown. -/
  | rank
  /-- Saves the settings in a file, with a line of the log when it is verbose. -/
  | save (path : String) (isVerbose : Bool)
  /-- Loads a file that holds a text. -/
  | load (path text : String)
  /-- Fails. -/
  | fail (e : Error)
  /-- Runs steps under overrides; a failing block fails at its end. -/
  | block (changes : List (String × Value)) (isFailing : Bool) (steps : List SettingsStep)
deriving Inhabited

/-- What a setting holds when it is shown. -/
inductive ShownContent where
  /-- A value. -/
  | plain (v : Value)
  /-- A group, as a mapping. -/
  | group (v : Value)

/-- What a step over settings answers. -/
inductive SettingsAnswer where
  /-- A value. -/
  | value (v : Value)
  /-- All settings in readable form. -/
  | shown (s : String)
  /-- What a setting holds. -/
  | content (c : ShownContent)
  /-- What settings hold, by their keys. -/
  | entries (es : List (String × ShownContent))
  /-- The step failed. -/
  | failed (e : Error)
  /-- The answers of the steps of a block, and how the block failed, if it did. -/
  | block (inner : List SettingsAnswer) (problem : Option Error)

namespace Settings

/-- What a setting holds, with the present contents of groups. -/
def shownContent (s : Settings) : SettingContent → ShownContent
  | .plain v => .plain v
  | .group slot => .group (groupValue (s.contentsAt slot))

/-- A list of texts. -/
def textList (ss : List String) : Value := .list (ss.map .text)

/-- The answer of a result. -/
def answerOf {α : Type} (f : α → SettingsAnswer) : Result α → SettingsAnswer
  | .ok a => f a
  | .error e => .failed e

/-- The state while a program runs. -/
structure ProgramState where
  /-- The settings. -/
  settings : Settings
  /-- The answers, the earliest first. -/
  answers : List SettingsAnswer
  /-- The lines of the log that are shown, the earliest first. -/
  log : List LogLine

/-- The state with one more answer. -/
def ProgramState.answer (st : ProgramState) (a : SettingsAnswer) : ProgramState :=
  { st with answers := st.answers ++ [a] }

/-- The state after a change that may be refused. -/
def ProgramState.change (st : ProgramState) : Result Settings → ProgramState
  | .ok s => { st with settings := s }.answer (.value .null)
  | .error e => st.answer (.failed e)

/-- The state after saving. -/
def ProgramState.save (st : ProgramState) (path : String) (isVerbose : Bool) : ProgramState :=
  match st.settings.fileText with
  | .error e => st.answer (.failed e)
  | .ok text =>
    let lines := if isVerbose then LogLine.shown st.settings.level [savedLine path] else []
    { st with log := st.log ++ lines }.answer (.value (.text text))

/-- The state after loading. -/
def ProgramState.load (st : ProgramState) (path text : String) : ProgramState :=
  let (r, s, lines) := st.settings.load path text
  { st with settings := s, log := st.log ++ lines }.answer (answerOf (fun _ => .value .null) r)

/-- The state after a block whose steps ran on their own. -/
def ProgramState.block (st : ProgramState) (changes : List (String × Value)) (isFailing : Bool)
    (run : ProgramState → ProgramState) : ProgramState :=
  let body (s : Settings) : Result ProgramState × Settings :=
    let inner := run ⟨s, [], []⟩
    (.ok inner, inner.settings)
  let (r, s) := Settings.override changes body st.settings
  let st := { st with settings := s }
  match r with
  | .error e => st.answer (.block [] (some e))
  | .ok inner =>
    let problem := if isFailing then some (.injected "fail") else none
    { st with log := st.log ++ inner.log }.answer (.block inner.answers problem)

mutual
/-- The state after a step. -/
def runStep (step : SettingsStep) (st : ProgramState) : ProgramState :=
  let s := st.settings
  match step with
  | .read key => st.answer (answerOf (fun c => .content (s.shownContent c)) (s.read key))
  | .readName name => st.answer (match s.attribute? name with
      | some c => .content (s.shownContent c)
      | none => .failed (.fault .missingAttribute))
  | .assign key v => st.change (s.assign key v)
  | .delete key => st.change (s.delete key)
  | .ask key => st.answer (.value (.bool (s.hasKey key)))
  | .keys => st.answer (answerOf (fun ks => .value (textList ks)) s.keys)
  | .size => st.answer (answerOf (fun n => .value (.int n)) s.size)
  | .items => st.answer (answerOf
      (fun es => .entries (es.map fun (k, c) => (k, s.shownContent c))) s.items)
  | .readable => st.answer (answerOf .shown s.readable)
  | .rank => st.answer (.value (.int s.level.rank))
  | .save path isVerbose => st.save path isVerbose
  | .load path text => st.load path text
  | .fail e => st.answer (.failed e)
  | .block changes isFailing steps => st.block changes isFailing (runSteps steps)
  termination_by structural step
/-- The state after steps. -/
def runSteps (steps : List SettingsStep) (st : ProgramState) : ProgramState :=
  match steps with
  | [] => st
  | step :: steps => runSteps steps (runStep step st)
  termination_by structural steps
end

/-- The answers of a program and the lines of the log. -/
def runProgram (steps : List SettingsStep) (s : Settings) : List SettingsAnswer × List LogLine :=
  let st := runSteps steps ⟨s, [], []⟩
  (st.answers, st.log)

end Settings

end DocumentSql

/-
Log lines and the levels at which they are shown.
-/

namespace DocumentSql

/-- How important a log line is. -/
inductive LogLevel where
  /-- Of use in development only. -/
  | debug
  /-- What was done. -/
  | info
  /-- What may be a mistake. -/
  | warning
  /-- What failed. -/
  | error
  /-- What makes going on impossible. -/
  | critical
deriving DecidableEq, Inhabited

namespace LogLevel

/-- The name of a level. -/
def name : LogLevel → String
  | debug => "DEBUG"
  | info => "INFO"
  | warning => "WARNING"
  | error => "ERROR"
  | critical => "CRITICAL"

/-- The rank of a level. -/
def rank : LogLevel → Nat
  | debug => 10
  | info => 20
  | warning => 30
  | error => 40
  | critical => 50

/-- All levels. -/
def all : List LogLevel := [debug, info, warning, error, critical]

/-- The level with a given name. -/
def ofName? (s : String) : Option LogLevel := all.find? (·.name == s)

@[simp] theorem ofName?_name (l : LogLevel) : ofName? l.name = some l := by cases l <;> rfl

end LogLevel

/-- A line of the log. -/
structure LogLine where
  /-- Its level. -/
  level : LogLevel
  /-- Its text. -/
  text : String
deriving DecidableEq, Inhabited

namespace LogLine

/-- A line at the level of what was done. -/
def info (text : String) : LogLine := ⟨.info, text⟩

/-- A line at the level of a possible mistake. -/
def warning (text : String) : LogLine := ⟨.warning, text⟩

/-- The line is shown when lines from a level on are. -/
def isShown (threshold : LogLevel) (l : LogLine) : Bool := threshold.rank ≤ l.level.rank

/-- The lines that are shown from a level on. -/
def shown (threshold : LogLevel) (ls : List LogLine) : List LogLine :=
  ls.filter (isShown threshold)

end LogLine

end DocumentSql

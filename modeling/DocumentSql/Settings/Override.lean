/-
Temporary overrides of settings.

Overrides hold while a body runs. What the keys held before is taken down first, and kept again
under them when the body is over, whether it ended well or not; a key that held nothing is
dropped.
-/
import DocumentSql.Settings.Basic
import DocumentSql.Text.Cut

namespace DocumentSql.Settings

/-- The text with every pair of underscores replaced by a dot, from left to right. -/
def dotted : List Char → List Char
  | '_' :: '_' :: cs => '.' :: dotted cs
  | c :: cs => c :: dotted cs
  | [] => []

/-- Overrides by dotted keys; of two with one key the last value stands at the place of the
first. -/
def dottedChanges (changes : List (String × Value)) : List (String × Value) :=
  unique (changes.map fun m => (String.ofList (dotted m.1.toList), m.2))

/-- The settings with what a key held before. -/
def restore (s : Settings) (key : String) : Option SettingContent → Settings
  | some c => s.keep (.ofText key) c
  | none => s.drop key

/-- The settings with what keys held before, in order. -/
def restoreAll (previous : List (String × Option SettingContent)) (s : Settings) : Settings :=
  previous.foldl (fun s m => s.restore m.1 m.2) s

/-- Runs a body under overrides. An override that is refused keeps the body from running. -/
def override {α : Type} (changes : List (String × Value))
    (body : Settings → Result α × Settings) (s : Settings) : Result α × Settings :=
  let changes := dottedChanges changes
  let previous := changes.map fun m => (m.1, s.content? (.ofText m.1))
  match assignAll changes s with
  | (.error e, s) => (.error e, restoreAll previous s)
  | (.ok (), s) =>
    let (r, s) := body s
    (r, restoreAll previous s)

end DocumentSql.Settings

import SqlAudit.Position
import SqlAudit.Text.Blank
import SqlAudit.Text.Natural
import SqlAudit.Text.Pieces

/-! # Failures

Everything that keeps a review from being made, with the message for the user. A message about SQL
text repeats the position that the reader of SQL put into its own message.
-/

namespace SqlAudit

inductive Failure where
  /-- A file cannot be read. -/
  | unreadable (path reason : String)
  /-- The schema is not valid SQL. -/
  | schema (message : String)
  /-- The script is not valid SQL. -/
  | script (message : String)
  /-- The configuration cannot be used. -/
  | configuration (message : String)
  /-- A row count was not given as table and number. -/
  | rowCount (entry : String)
  /-- The report cannot be written. -/
  | report (message : String)
  deriving DecidableEq, Repr, Inhabited

inductive Blame where
  /-- The input's. -/
  | input
  /-- The surroundings'. -/
  | surroundings
  deriving DecidableEq, Repr, Inhabited

/-- The position that a message about SQL text mentions first, written `Line: L, Column: C`; the
second colon may be missing. -/
def Position.ofMessage? (message : String) : Option Position := do
  let rest ← Text.afterFirst "Line: ".toList message.toList
  let lineDigits := rest.takeWhile Char.isDigit
  let line ← Text.readDigits lineDigits
  let rest ← Text.dropStart ", Column".toList (rest.drop lineDigits.length)
  let rest := (Text.dropStart [':'] rest).getD rest
  let column ← Text.readDigits ((rest.dropWhile Text.isBlank).takeWhile Char.isDigit)
  pure ⟨line, column⟩

namespace Failure

/-- A message about SQL text under its title, with the position it mentions. -/
def sqlMessage (title message : String) : String :=
  match Position.ofMessage? message with
  | some p =>
    title ++ " at line " ++ toString p.line ++ ", column " ++ toString p.column ++
      ":\n  " ++ message
  | none => title ++ ":\n  " ++ message

def message : Failure → String
  | .unreadable path reason => "Failed to read file '" ++ path ++ "': " ++ reason
  | .schema message => sqlMessage "Schema parse error" message
  | .script message => sqlMessage "Query parse error" message
  | .configuration message => message
  | .rowCount entry =>
    "Invalid row count '" ++ entry ++ "': expected TABLE=ROWS with a non-negative integer"
  | .report message => "Failed to render report: " ++ message

def blame : Failure → Blame
  | .unreadable _ _ | .report _ => .surroundings
  | .schema _ | .script _ | .configuration _ | .rowCount _ => .input

end Failure

end SqlAudit

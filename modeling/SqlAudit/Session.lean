import SqlAudit.CommandLine.Arguments
import SqlAudit.CommandLine.Help
import SqlAudit.Configuration
import SqlAudit.Files
import SqlAudit.Render.RuleTable
import SqlAudit.Rules.Builtin
import SqlAudit.Script

/-! # Sessions

A session is one run of the program in its surroundings: the files it can read, its standard input
and its environment. The configuration is read first, then the schema, the script and the row
counts; the first failure ends the session.
-/

namespace SqlAudit

/-- What surrounds a session. -/
structure Surroundings where
  /-- The text of the file at a path. -/
  file : String → Except FileError String
  /-- The standard input. -/
  input : Except FileError String
  /-- The value of a variable of the environment. -/
  lookup : String → Option String
  /-- The output goes to a terminal. -/
  terminal : Bool

namespace Surroundings

def require (s : Surroundings) (path : String) : Except Failure String :=
  (s.file path).mapError fun e => .unreadable path e.message

/-- The text of a script: of a file, or of the standard input if the path is a hyphen. -/
def script (s : Surroundings) (path : String) : Except Failure String :=
  if path = "-" then s.input.mapError fun e => .unreadable "stdin" e.message
  else s.require path

def settingsOf (s : Surroundings) (path : String) : Except Failure (Option FileSettings) :=
  match s.file path with
  | .ok text => (FileSettings.read text).map some
  | .error e =>
    if e.isThere then .error (.configuration ("Failed to read config file: " ++ e.message))
    else .ok none

def database (s : Surroundings) : Option String :=
  s.lookup "SQL_REVIEW_DATABASE"

def userPath (home : String) : String :=
  let below := ".config/sql-review/config.toml"
  if home.isEmpty || home.toList.getLast? = some '/' then home ++ below else home ++ "/" ++ below

def directoryPath : String := ".sql-review.toml"

def configuration (s : Surroundings) : Except Failure Configuration := do
  let user ← match s.lookup "HOME" with
    | some home => s.settingsOf (userPath home)
    | none => pure none
  let directory ← s.settingsOf directoryPath
  pure (.inForce user directory s.database)

/-- Output is coloured if that is forced, or else on a terminal unless it is refused. -/
def colored (s : Surroundings) : Bool :=
  if (s.lookup "CLICOLOR_FORCE").any (· != "0") then true
  else if (s.lookup "NO_COLOR").isSome then false
  else s.terminal && (s.lookup "CLICOLOR").all (· != "0")

end Surroundings

structure ReviewOutcome where
  entries : List ScriptEntry
  output : String

namespace ReviewOutcome

/-- The exit code that tells the worst finding. -/
def exitCode (o : ReviewOutcome) : Nat :=
  SqlAudit.exitCode o.entries

end ReviewOutcome

structure Ending where
  exitCode : Nat
  output : String := ""
  /-- What kept the session from its end. -/
  fatal : Option Failure := none

namespace CommandLine

def ReviewRequest.review (r : ReviewRequest) (s : Surroundings) (c : Configuration)
    (colored : Bool) :
    Except Failure ReviewOutcome := do
  let schema ← s.require r.schema
  let text ← s.script r.queries
  let rows ← RowCounts.readEntries r.rows
  let catalog := RowCounts.attach (← Schema.catalog r.dialect schema) c.rowCounts rows
  let script ← Script.read r.dialect text
  let entries := Script.review Rules.builtin (c.withDatabase r.database).settings catalog script
  pure ⟨entries, Render.report ⟨r.format, colored && !r.noColor, r.verbose⟩ entries⟩

def Command.perform (s : Surroundings) (c : Configuration) : Command → Except Failure Ending
  | .review r => do
    let outcome ← r.review s c s.colored
    pure { exitCode := outcome.exitCode, output := outcome.output }
  | .rules noColor =>
    let rules := (c.settings.enabled Rules.builtin).map (·.info)
    .ok { exitCode := 0, output := Render.ruleTable (s.colored && !noColor) rules }

/-- How a session ends whose arguments are no command. -/
def Refusal.ending (environment : Option String) : Refusal → Ending
  | .help topic => { exitCode := 0, output := topic.text environment }
  | .version => { exitCode := 0, output := versionText }
  | _ => { exitCode := 2 }

end CommandLine

/-- A session: arguments first, then the configuration, then the command. -/
def Surroundings.run (s : Surroundings) (arguments : List String) : Ending :=
  match CommandLine.Command.read s.database arguments with
  | .error refusal => refusal.ending s.database
  | .ok command =>
    match s.configuration >>= fun c => command.perform s c with
    | .ok ending => ending
    | .error failure => { exitCode := 1, fatal := some failure }

end SqlAudit

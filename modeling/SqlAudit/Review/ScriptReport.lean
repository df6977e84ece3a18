import SqlAudit.Review.Report
import SqlAudit.Total

/-! # Reports on scripts

A script is reviewed statement by statement. The summary counts the findings of all statements, and
the exit code tells the worst of them.
-/

namespace SqlAudit

structure ScriptEntry where
  /-- The position in the script, counted from one. -/
  index : Nat
  /-- The tag of the statement's kind. -/
  kind : String
  /-- The normalised text of the statement. -/
  text : String
  report : Report
  deriving DecidableEq, Repr, Inhabited

structure Summary where
  statements : Nat
  blocker : Nat
  critical : Nat
  minor : Nat
  deriving DecidableEq, Repr, Inhabited

/-- The number of findings of a severity over a whole script. -/
def ScriptEntry.countAll (entries : List ScriptEntry) (s : Severity) : Nat :=
  total (entries.map (·.report.count s))

def Summary.ofEntries (entries : List ScriptEntry) : Summary :=
  { statements := entries.length
    blocker := ScriptEntry.countAll entries .blocker
    critical := ScriptEntry.countAll entries .critical
    minor := ScriptEntry.countAll entries .minor }

def Severity.exitCode : Severity → Nat
  | .blocker => 2
  | .critical => 1
  | .minor => 0

/-- The exit code of a script: that of the worst finding, and zero without findings. -/
def exitCode (entries : List ScriptEntry) : Nat :=
  ((Severity.worst (entries.filterMap (·.report.maxSeverity))).map Severity.exitCode).getD 0

end SqlAudit

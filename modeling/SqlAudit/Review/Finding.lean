import SqlAudit.Text.Ascii

/-! # Findings

A finding is one remark of a rule on a statement. Its severity is blocker, critical or minor; a
report lists blockers first.
-/

namespace SqlAudit

/-- How bad a finding is, the worst first. -/
inductive Severity where
  /-- The statement must not run as written. -/
  | blocker
  /-- The statement is likely to cause an incident or heavy load. -/
  | critical
  /-- A matter of quality. -/
  | minor
  deriving DecidableEq, Repr, Inhabited

namespace Severity

def ranking : List Severity :=
  [.blocker, .critical, .minor]

def label : Severity → String
  | .blocker => "BLOCKER"
  | .critical => "CRITICAL"
  | .minor => "MINOR"

/-- Reads the word for a severity in any case. -/
def ofWord (word : String) : Option Severity :=
  match Text.lower word with
  | "blocker" => some .blocker
  | "critical" => some .critical
  | "minor" => some .minor
  | _ => none

/-- The worst severity that occurs. -/
def worst (all : List Severity) : Option Severity :=
  ranking.find? (all.contains ·)

end Severity

structure Finding where
  ruleId : String
  severity : Severity
  detail : String
  deriving DecidableEq, Repr, Inhabited

end SqlAudit

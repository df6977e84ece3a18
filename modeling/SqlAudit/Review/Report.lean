import SqlAudit.Review.Finding

/-! # Reports

The outcome of reviewing one statement: its findings, worst first, the number of rules that ran, and
the rules that broke down.
-/

namespace SqlAudit

structure Report where
  findings : List Finding
  rulesRun : Nat
  failedRules : List String
  deriving DecidableEq, Repr, Inhabited

/-- The findings with the worst first; findings of equal severity keep their order. -/
def Finding.rank (findings : List Finding) : List Finding :=
  Severity.ranking.flatMap fun s => findings.filter (·.severity == s)

namespace Report

def count (r : Report) (s : Severity) : Nat :=
  r.findings.countP (·.severity == s)

def maxSeverity (r : Report) : Option Severity :=
  Severity.worst (r.findings.map (·.severity))

def isClean (r : Report) : Bool :=
  r.findings.isEmpty

end Report

end SqlAudit

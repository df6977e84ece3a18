import SqlAudit.Review.Finding
import SqlAudit.Scope

/-! # Rules

A rule looks at a context and answers with findings; a rule may also break down, which the report
records. Built-in rules give only the details of their findings and take id and severity from their
description.
-/

namespace SqlAudit

inductive Category where
  | performance
  | correctness
  | schema
  | migration
  deriving DecidableEq, Repr, Inhabited

def Category.label : Category → String
  | .performance => "Performance"
  | .correctness => "Correctness"
  | .schema => "Schema"
  | .migration => "Migration"

structure RuleInfo where
  id : String
  name : String
  severity : Severity
  category : Category
  deriving DecidableEq, Repr, Inhabited

/-- A finding with the id and severity of the rule. -/
def RuleInfo.finding (info : RuleInfo) (detail : String) : Finding :=
  ⟨info.id, info.severity, detail⟩

/-- A rule; `evaluate` answers `none` when the rule breaks down. -/
structure Rule where
  info : RuleInfo
  evaluate : Context → Option (List Finding)

/-- A rule that never breaks down and whose findings differ in their details only. -/
def Rule.ofDetails (info : RuleInfo) (details : Context → List String) : Rule :=
  ⟨info, fun ctx => some ((details ctx).map info.finding)⟩

end SqlAudit

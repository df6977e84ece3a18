import SqlAudit.Review.ScriptReport

/-! # Reports as structured documents

A document is made of texts, numbers, lists and records; a record keeps the order of its fields. A
report becomes one document, which the JSON and YAML formats write in their own ways.
-/

namespace SqlAudit.Render

inductive Document where
  | text (value : String)
  | number (value : Nat)
  | list (items : List Document)
  | record (fields : List (String × Document))

def severityName : Severity → String
  | .blocker => "Blocker"
  | .critical => "Critical"
  | .minor => "Minor"

namespace Document

def ofFinding (f : Finding) : Document :=
  .record [
    ("rule_id", .text f.ruleId),
    ("severity", .text (severityName f.severity)),
    ("detail", .text f.detail)]

def ofEntry (entry : ScriptEntry) : Document :=
  .record [
    ("index", .number entry.index),
    ("kind", .text entry.kind),
    ("sql", .text entry.text),
    ("suggestions", .list (entry.report.findings.map ofFinding)),
    ("rules_run", .number entry.report.rulesRun),
    ("failed_rules", .list (entry.report.failedRules.map .text))]

def ofSummary (s : Summary) : Document :=
  .record [
    ("statements", .number s.statements),
    ("blocker", .number s.blocker),
    ("critical", .number s.critical),
    ("minor", .number s.minor)]

/-- The document of a whole report: its statements in script order and the totals. -/
def ofEntries (entries : List ScriptEntry) : Document :=
  .record [
    ("statements", .list (entries.map ofEntry)),
    ("summary", ofSummary (.ofEntries entries))]

end Document

end SqlAudit.Render

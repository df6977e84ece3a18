import SqlAudit.Render.Style
import SqlAudit.Review.ScriptReport
import SqlAudit.Text.Pieces

/-! # Reports as plain text

One paragraph for each statement and a line with the totals.
-/

namespace SqlAudit.Render

def findingLine (colored : Bool) (f : Finding) : String :=
  "  [" ++ (Style.severity f.severity).paint colored f.severity.label ++ "] " ++ f.ruleId ++ ": " ++
    f.detail ++ "\n"

/-- The line that names the rules that broke down, if any did. -/
def breakdownLine (colored : Bool) (failed : List String) : String :=
  if failed.isEmpty then ""
  else
    Style.breakdown.paint colored
      ("  rules skipped after internal failure: " ++ Text.joinWith ", " failed) ++ "\n"

/-- The lines that a detailed report adds: the statement and the number of rules. -/
def detailLines (entry : ScriptEntry) : String :=
  "  " ++ entry.text ++ "\n" ++ "  rules run: " ++ toString entry.report.rulesRun ++ "\n"

/-- The paragraph of one statement, with the blank line behind it. -/
def entryText (colored verbose : Bool) (entry : ScriptEntry) : String :=
  Style.heading.paint colored
      ("Statement #" ++ toString entry.index ++ " (" ++ entry.kind ++ "):") ++ "\n" ++
    (if verbose then detailLines entry else "") ++
    (if entry.report.isClean then "  no issues\n" else "") ++
    Text.joinWith "" (entry.report.findings.map (findingLine colored)) ++
    breakdownLine colored entry.report.failedRules ++ "\n"

def summaryLine (s : Summary) : String :=
  "Summary: " ++ toString s.statements ++ " statement(s), " ++ toString s.blocker ++ " blocker, " ++
    toString s.critical ++ " critical, " ++ toString s.minor ++ " minor\n"

def plainText (colored verbose : Bool) (entries : List ScriptEntry) : String :=
  Text.joinWith "" (entries.map (entryText colored verbose)) ++ summaryLine (.ofEntries entries)

end SqlAudit.Render

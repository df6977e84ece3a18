import SqlAudit.Render.Style
import SqlAudit.Review.Rule

/-! # The table of rules

One line for each rule, with its id, severity, category and name in columns. The id column is as
wide as the longest id is in bytes; the fields are filled up by characters.
-/

namespace SqlAudit.Render

/-- The text with blanks behind it up to the given number of characters. -/
def padRight (width : Nat) (s : String) : String :=
  s ++ String.ofList (List.replicate (width - s.length) ' ')

def idWidth (rules : List RuleInfo) : Nat :=
  (rules.map (·.id.utf8ByteSize)).foldl max 0

def ruleLine (width : Nat) (r : RuleInfo) : String :=
  "  " ++ padRight width r.id ++ "  " ++ padRight 8 r.severity.label ++ "  " ++
    padRight 11 r.category.label ++ "  " ++ r.name ++ "\n"

def ruleTable (colored : Bool) (rules : List RuleInfo) : String :=
  Style.title.paint colored (toString rules.length ++ " enabled rule(s):") ++ "\n" ++
    Text.joinWith "" (rules.map (ruleLine (idWidth rules)))

end SqlAudit.Render

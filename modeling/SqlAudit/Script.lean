import SqlAudit.Catalog.Definition
import SqlAudit.Failure
import SqlAudit.Review.Engine
import SqlAudit.Review.ScriptReport
import SqlAudit.RowCounts
import SqlAudit.Sql.Statement

/-! # Scripts

A script is SQL text with several statements, and a schema is a script that defines tables. Both are
read in a dialect; a text that cannot be read is a failure of the script or of the schema.
-/

namespace SqlAudit

/-- A statement of a script with its normalised text. -/
structure ScriptStatement where
  text : String
  statement : Statement

namespace Script

def read (d : Dialect) (text : String) : Except Failure (List ScriptStatement) :=
  match Sql.script d text with
  | .ok phrases => .ok (phrases.map fun p => ⟨p.text, p.node⟩)
  | .error r => .error (.script r.message)

/-- The statement of a text that holds just one. -/
def readOne (d : Dialect) (text : String) : Except Failure Statement := do
  match ← read d text with
  | [s] => pure s.statement
  | found => throw (.script ("expected exactly one statement, found " ++ toString found.length))

end Script

namespace Schema

def read (d : Dialect) (text : String) : Except Failure (List Statement) :=
  match Sql.script d text with
  | .ok phrases => .ok (phrases.map Sql.Phrase.node)
  | .error r => .error (.schema r.message)

def catalog (d : Dialect) (text : String) : Except Failure Catalog := do
  pure (.ofStatements (← read d text))

end Schema

namespace Script

/-- The review of every statement of a script, numbered from one. -/
def review (rules : List Rule) (settings : Settings) (catalog : Catalog)
    (script : List ScriptStatement) :
    List ScriptEntry :=
  script.mapIdx fun i s =>
    ⟨i + 1, s.statement.kind, s.text, SqlAudit.review rules settings catalog s.statement⟩

end Script

end SqlAudit

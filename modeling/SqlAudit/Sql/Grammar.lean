import SqlAudit.Sql.Term

/-! # Grammar

Expressions, queries and statements contain one another, and a text may nest them only so deep. A
grammar holds the readers for what may stand inside; the readers for a level of nesting are made
from the grammar of the level below it, and the lowest grammar refuses.
-/

namespace SqlAudit.Sql

/-- The readers for what nests. -/
structure Grammar where
  /-- An expression whose operators bind more tightly than the given number. -/
  expr : Nat → Reader Term
  query : Reader (Phrase Query)
  statement : Reader (Phrase Statement)

namespace Grammar

/-- The grammar that refuses to nest any deeper. -/
def lowest : Grammar where
  expr := fun _ => Reader.refuse .tooDeep
  query := Reader.refuse .tooDeep
  statement := Reader.refuse .tooDeep

def anyExpr (g : Grammar) : Reader Term :=
  g.expr 0

def exprs (g : Grammar) : Reader (List Term) :=
  Reader.commas g.anyExpr

end Grammar

end SqlAudit.Sql

import SqlAudit.Sql.Token

/-! # Scanning

A scanner takes the first token from a list of characters and leaves the rest. Where it cannot, it
says why and what was left at the place of the fault.
-/

namespace SqlAudit.Sql

/-- Why no token can be taken, and the characters from the place of the fault on. -/
structure Fault where
  what : String
  rest : List Char
  deriving Repr, Inhabited

/-- What a scanner gives: a token and the characters after it, or a fault. -/
abbrev Scan : Type := Except Fault (Token × List Char)

/-- The leading characters of a kind, and the rest. -/
def takeRun (p : Char → Bool) (cs : List Char) : List Char × List Char :=
  (cs.takeWhile p, cs.dropWhile p)

end SqlAudit.Sql

import SqlAudit.Text.Ascii

/-! # Settings of a review

The limits that rules compare with, the rules that are switched off, and the severities that replace
the rules' own.
-/

namespace SqlAudit

/-- Numeric limits used by the rules. -/
structure Thresholds where
  /-- Tables with at most this many rows may be read whole. -/
  smallTableRows : Nat := 1
  /-- The most relations one SELECT block may read. -/
  maxJoinTables : Nat := 3
  /-- The largest row offset accepted. -/
  maxOffset : Nat := 1000
  /-- The most secondary indexes a table may declare. -/
  maxTableIndexes : Nat := 3
  /-- Tables with more rows than this should not get new columns. -/
  largeTableRows : Nat := 1000000
  deriving DecidableEq, Repr, Inhabited

/-- What a review is told besides the statement and the catalog. -/
structure Settings where
  /-- The current database; a name qualified by another one is unknown. -/
  database : Option String := none
  /-- Rules may be evaluated side by side; answers never depend on it. -/
  parallel : Bool := true
  thresholds : Thresholds := {}
  /-- Ids of rules that are switched off. -/
  disabled : List String := []
  /-- Severity words by rule id. -/
  severity : List (String × String) := []
  deriving DecidableEq, Repr, Inhabited

/-- The rule id is switched off, in whatever case it is listed. -/
def Settings.isDisabled (s : Settings) (ruleId : String) : Bool :=
  s.disabled.any (Text.same · ruleId)

end SqlAudit

import SqlAudit.Text.Letter

/-! # Dialects

The dialects of SQL that can be read, and what each of them allows. `generic` is the permissive one.
-/

namespace SqlAudit

inductive Dialect where
  | generic
  | mysql
  | postgresql
  | sqlite
  deriving DecidableEq, Repr, Inhabited

namespace Dialect

/-! ## Characters -/

def isWordStart (d : Dialect) (c : Char) : Bool :=
  match d with
  | .generic => Text.isLetter c || c = '_' || c = '#' || c = '@'
  | .mysql => Text.isLetter c || c = '_' || c = '$' || c = '@' || 0x80 ≤ c.toNat
  | .postgresql => Text.isLetter c || c = '_' || 0x80 ≤ c.toNat
  | .sqlite => c.isAlpha || c = '_' || (0x7F ≤ c.toNat && c.toNat ≤ 0xFFFF)

def isWordPart (d : Dialect) (c : Char) : Bool :=
  match d with
  | .generic => Text.isLetter c || c.isDigit || c = '@' || c = '$' || c = '#' || c = '_'
  | .mysql => d.isWordStart c || c.isDigit
  | .postgresql => d.isWordStart c || c.isDigit || c = '$'
  | .sqlite => d.isWordStart c || c.isDigit

def opensQuotedWord (d : Dialect) (c : Char) : Bool :=
  match d with
  | .generic => c = '"' || c = '\x60'
  | .mysql => c = '\x60'
  | .postgresql => c = '"'
  | .sqlite => c = '"' || c = '\x60' || c = '['

/-- A character that may extend an operator to one of the user's own. -/
def isOperatorPart (d : Dialect) (c : Char) : Bool :=
  d = .postgresql && "+-*/<>=~!@#%^&|\x60?".toList.contains c

/-! ## Literals and comments -/

def escapesWithBackslash (d : Dialect) : Bool :=
  d = .mysql

/-- Strings may be marked `E` for escapes and `U&` for character numbers. -/
def hasMarkedStrings (d : Dialect) : Bool :=
  d = .generic || d = .postgresql

def hasDigitWords (d : Dialect) : Bool :=
  d = .mysql

def groupsDigits (d : Dialect) : Bool :=
  d = .postgresql

def joinsStrings (d : Dialect) : Bool :=
  d = .mysql

def nestsComments (d : Dialect) : Bool :=
  d = .generic || d = .postgresql

/-- `$name` is always a parameter and never opens a string. -/
def hasDollarNames (d : Dialect) : Bool :=
  d = .sqlite

/-- A question mark is an operator, not a parameter. -/
def hasQuestionOperators (d : Dialect) : Bool :=
  d = .postgresql

/-! ## Expressions -/

def filtersAggregates (d : Dialect) : Bool :=
  d != .mysql

/-- `expr NOTNULL` tests for a value. -/
def hasNotNullWord (d : Dialect) : Bool :=
  d = .postgresql || d = .sqlite

def needsIntervalUnit (d : Dialect) : Bool :=
  d = .mysql

def allowsEmptyIn (d : Dialect) : Bool :=
  d = .sqlite

def hasShifts (d : Dialect) : Bool :=
  d != .sqlite

/-- A unit in `EXTRACT` may be any word. -/
def hasCustomUnits (d : Dialect) : Bool :=
  d = .generic || d = .postgresql

/-- `MATCH (…) AGAINST (…)` searches texts. -/
def hasTextSearch (d : Dialect) : Bool :=
  d = .generic || d = .mysql

/-! ## Queries -/

def allowsEmptySelect (d : Dialect) : Bool :=
  d = .generic || d = .postgresql

/-- `LIMIT offset, count` is allowed. -/
def hasLimitComma (d : Dialect) : Bool :=
  d != .postgresql

/-- `GROUP BY` may end in `WITH ROLLUP` and the like. -/
def hasGroupModifiers (d : Dialect) : Bool :=
  d = .generic || d = .mysql

/-- `ROLLUP`, `CUBE` and `GROUPING SETS` may stand in `GROUP BY`. -/
def hasGroupingSets (d : Dialect) : Bool :=
  d = .generic || d = .postgresql

/-- `UNNEST` is a table of its own kind. -/
def hasUnnest (d : Dialect) : Bool :=
  d = .generic || d = .postgresql

/-! ## Definitions -/

/-- `INDEX`, `KEY`, `FULLTEXT` and `SPATIAL` declare indexes inside a table definition. -/
def declaresIndexes (d : Dialect) : Bool :=
  d = .generic || d = .mysql

/-- A data type may be followed by brackets, which make it an array. -/
def hasArrayTypes (d : Dialect) : Bool :=
  d = .generic || d = .postgresql

end Dialect

end SqlAudit

import SqlAudit.Render.Format
import SqlAudit.Sql.Dialect

/-! # Commands

What the program can be asked to do, and why a command line asks for none of it.
-/

namespace SqlAudit.CommandLine

structure ReviewRequest where
  /-- The path of the schema. -/
  schema : String
  /-- The path of the script; a single hyphen is the standard input. -/
  queries : String
  dialect : Dialect := .generic
  /-- The current database, in place of the configured one. -/
  database : Option String := none
  /-- Row counts, written `TABLE=ROWS`. -/
  rows : List String := []
  format : Render.Format := .text
  verbose : Bool := false
  noColor : Bool := false

inductive Command where
  | review (request : ReviewRequest)
  | rules (noColor : Bool)

inductive Topic where
  | program
  | review
  | rules
  | help
  deriving DecidableEq, Repr, Inhabited

/-- Why a command line is no command. -/
inductive Refusal where
  | unknownArgument
  /-- A value is missing or not one of those allowed. -/
  | invalidValue
  /-- Something that may be given once is given twice. -/
  | argumentConflict
  /-- A flag is given a value. -/
  | tooManyValues
  | missingRequiredArgument
  | invalidSubcommand
  /-- There are no arguments at all. -/
  | nothingAsked
  /-- Help is asked for. -/
  | help (topic : Topic)
  /-- The version is asked for. -/
  | version
  deriving DecidableEq, Repr, Inhabited

end SqlAudit.CommandLine

import SqlAudit.Text.Ascii
import SqlAudit.Text.Blank
import SqlAudit.Text.Pieces

/-! # Declared types

A declared type is reduced to its base name: capital letters, no arguments and no modifiers, with
the common synonyms folded together. Base names fall into a few families, which decide the literals
they compare well with.
-/

namespace SqlAudit.TypeName

/-- The base name that a phrase of several words stands for, if it is one of the known phrases. -/
def phraseBase : String → Option String
  | "CHARACTER VARYING" | "CHAR VARYING" | "NATIONAL CHARACTER VARYING" => some "VARCHAR"
  | "DOUBLE PRECISION" => some "DOUBLE"
  | _ => none

def wordBase : String → String
  | "INTEGER" | "INT4" => "INT"
  | "INT8" => "BIGINT"
  | "INT2" => "SMALLINT"
  | "BOOL" => "BOOLEAN"
  | "NUMERIC" => "DECIMAL"
  | "CHARACTER" => "CHAR"
  | "FLOAT8" => "DOUBLE"
  | "FLOAT4" => "REAL"
  | "TIMESTAMPTZ" => "TIMESTAMP"
  | word => word

/-- The base name of a declared type: what stands before its arguments, folded as a phrase or else
by its first word. -/
def normalize (declared : String) : String :=
  let words := Text.words (((Text.splitOn '(' (Text.upper declared)).head?).getD "")
  match phraseBase (Text.joinWith " " words) with
  | some base => base
  | none => wordBase (words.head?.getD "")

inductive Family where
  | numeric
  | text
  | temporal
  | other
  deriving DecidableEq, Repr, Inhabited

def numericNames : List String :=
  ["TINYINT", "SMALLINT", "MEDIUMINT", "INT", "BIGINT", "DECIMAL", "DEC", "FLOAT", "DOUBLE", "REAL",
   "NUMBER", "SERIAL", "BIGSERIAL", "SMALLSERIAL"]

def textNames : List String :=
  ["CHAR", "VARCHAR", "NCHAR", "NVARCHAR", "TEXT", "TINYTEXT", "MEDIUMTEXT", "LONGTEXT", "CLOB",
   "STRING", "ENUM", "SET"]

def temporalNames : List String :=
  ["DATE", "DATETIME", "TIMESTAMP", "TIME", "YEAR"]

/-- Types that most engines store outside the row. -/
def largeObjectNames : List String :=
  ["TINYTEXT", "TEXT", "MEDIUMTEXT", "LONGTEXT", "TINYBLOB", "BLOB", "MEDIUMBLOB",
    "LONGBLOB", "CLOB"]

def family (base : String) : Family :=
  if base ∈ numericNames then .numeric
  else if base ∈ textNames then .text
  else if base ∈ temporalNames then .temporal
  else .other

def isLargeObject (base : String) : Bool :=
  base ∈ largeObjectNames

end SqlAudit.TypeName

import SqlAudit.Position
import SqlAudit.Text.Ascii

/-! # Tokens of SQL

A token is a word, a literal or a symbol. Blanks and comments make no tokens; a lexeme is a token
with the place where it stands and whether it touches the token before it.
-/

namespace SqlAudit.Sql

inductive StringKind where
  | single
  | double
  /-- Marked `N`: national characters. -/
  | national
  /-- Marked `E`: with escapes. -/
  | escaped
  /-- Marked `U&`: with character numbers. -/
  | unicode
  /-- Marked `X`, or a number that begins with `0x`. -/
  | hex
  /-- Marked `B`. -/
  | bits
  /-- Marked `B`, in double quotes. -/
  | bitsDouble
  /-- Marked `R`. -/
  | raw
  /-- Marked `R`, in double quotes. -/
  | rawDouble
  deriving DecidableEq, Repr, Inhabited

namespace StringKind

def opening : StringKind → String
  | .single => "'"
  | .double => "\""
  | .national => "N'"
  | .escaped => "E'"
  | .unicode => "U&'"
  | .hex => "X'"
  | .bits => "B'"
  | .bitsDouble => "B\""
  | .raw => "R'"
  | .rawDouble => "R\""

def closing : StringKind → String
  | .double | .bitsDouble | .rawDouble => "\""
  | _ => "'"

end StringKind

def closingQuote (c : Char) : Char :=
  if c = '[' then ']' else c

inductive Token where
  | word (text : String) (quote : Option Char)
  | number (text : String) (long : Bool)
  | string (kind : StringKind) (text : String)
  /-- A string between dollar signs, with its tag. -/
  | dollar (tag text : String)
  /-- A parameter of the statement, as `?` or `$1`. -/
  | parameter (text : String)
  | symbol (text : String)
  /-- An operator that the language does not know. -/
  | operator (text : String)
  /-- A character that begins no token. -/
  | char (c : Char)
  deriving DecidableEq, Repr, Inhabited

namespace Token

/-- The text of a string between dollar signs. -/
def dollarText (tag text : String) : String :=
  "$" ++ tag ++ "$" ++ text ++ "$" ++ tag ++ "$"

/-- The token as messages show it: quotes inside it are not doubled. -/
def text : Token → String
  | .word s none => s
  | .word s (some q) => q.toString ++ s ++ (closingQuote q).toString
  | .number s long => if long then s ++ "L" else s
  | .string kind s => kind.opening ++ s ++ kind.closing
  | .dollar tag s => dollarText tag s
  | .parameter s => s
  | .symbol s => s
  | .operator s => s
  | .char c => c.toString

/-- The word in capitals if it stands without quotes, and nothing for every other token. -/
def key : Token → String
  | .word s none => Text.upper s
  | _ => ""

end Token

/-- A token in its place. -/
structure Lexeme where
  token : Token
  /-- The word in capitals, as keywords are compared. -/
  key : String
  start : Position
  /-- The token touches the one before it. -/
  glued : Bool
  deriving Repr, Inhabited

end SqlAudit.Sql

import SqlAudit.Sql.Token

/-! # Refusals

Why a text is not read as SQL, with the message for it.
-/

namespace SqlAudit.Sql

inductive Refusal where
  /-- Something else was expected at a token, or at the end of the text. -/
  | expected (what : String) (found : Option Lexeme)
  /-- The text is wrong at a position, or at its end. -/
  | wrong (what : String) (place : Option Position)
  /-- The text nests too deeply. -/
  | tooDeep
  deriving Repr, Inhabited

namespace Refusal

def placeText (p : Position) : String :=
  " at Line: " ++ toString p.line ++ ", Column: " ++ toString p.column

def message : Refusal → String
  | .expected what (some lexeme) =>
    "sql parser error: Expected: " ++ what ++ ", found: " ++ lexeme.token.text ++
      placeText lexeme.start
  | .expected what none => "sql parser error: Expected: " ++ what ++ ", found: EOF"
  | .wrong what (some p) => "sql parser error: " ++ what ++ placeText p
  | .wrong what none => "sql parser error: " ++ what
  | .tooDeep => "sql parser error: recursion limit exceeded"

end Refusal

end SqlAudit.Sql

import SqlAudit.Sql.Dialect
import SqlAudit.Sql.Lexer.Fault
import SqlAudit.Text.Blank

/-! # Blanks and comments

`-- …` runs to the end of the line, `/* … */` to its mark; in some dialects such comments nest.
MySQL wants a space after the dashes and takes `#` as well.
-/

namespace SqlAudit.Sql

/-- The characters after a comment that runs to the end of its line. -/
def afterLineComment (d : Dialect) (cs : List Char) : List Char :=
  (cs.dropWhile fun c => c != '\n' && !(c = '\r' && d = .postgresql)).drop 1

/-- The characters after a comment block that has `depth` openings to close, if it is closed. -/
def afterBlockComment (nests : Bool) (depth : Nat) : List Char → Option (List Char)
  | [] => none
  | [_] => none
  | c :: c' :: cs =>
    if nests && c = '/' && c' = '*' then afterBlockComment nests (depth + 1) cs
    else if c = '*' && c' = '/' then
      match depth with
      | 0 | 1 => some cs
      | depth + 1 => afterBlockComment nests depth cs
    else afterBlockComment nests depth (c' :: cs)

/-- The characters after the blank or comment at the front, if there is one. -/
def afterBlank (d : Dialect) : List Char → Except Fault (Option (List Char))
  | '-' :: '-' :: cs =>
    if d != .mysql || cs.head? = some ' ' then .ok (some (afterLineComment d cs)) else .ok none
  | '/' :: '*' :: cs =>
    match afterBlockComment d.nestsComments 1 cs with
    | some rest => .ok (some rest)
    | none => .error ⟨"Unexpected EOF while in a multi-line comment", []⟩
  | '#' :: cs => if d = .mysql then .ok (some (afterLineComment d cs)) else .ok none
  | c :: cs => if Text.isBlank c && !d.isWordStart c then .ok (some cs) else .ok none
  | [] => .ok none

end SqlAudit.Sql

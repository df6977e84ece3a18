import SqlAudit.Sql.Lexer.Blanks
import SqlAudit.Sql.Lexer.Numbers
import SqlAudit.Sql.Lexer.Strings
import SqlAudit.Sql.Lexer.Symbols
import SqlAudit.Sql.Refusal

/-! # From characters to tokens

The text is cut into tokens from left to right. A fault anywhere refuses the whole text.
-/

namespace SqlAudit.Sql

/-- The token at the front of some characters that begin with no blank, given the token that touches
it on the left. -/
def scanToken (d : Dialect) (before : Option Token) (cs : List Char) : Scan :=
  match cs with
  | [] => .ok (.symbol "", [])
  | c :: rest =>
    match c, rest with
    | 'b', '\x27' :: _ | 'B', '\x27' :: _ =>
      if d = .sqlite then scanWord d [c] rest else scanString .bits false rest
    | 'b', '"' :: _ | 'B', '"' :: _ =>
      if d = .sqlite then scanWord d [c] rest else scanString .bitsDouble false rest
    | 'r', '\x27' :: _ | 'R', '\x27' :: _ =>
      if d = .generic then scanString .raw false rest else scanWord d [c] rest
    | 'r', '"' :: _ | 'R', '"' :: _ =>
      if d = .generic then scanString .rawDouble false rest else scanWord d [c] rest
    | 'n', '\x27' :: _ | 'N', '\x27' :: _ => scanString .national d.escapesWithBackslash rest
    | 'e', '\x27' :: _ | 'E', '\x27' :: _ =>
      if d.hasMarkedStrings then scanEscaped c rest else scanWord d [c] rest
    | 'u', '&' :: '\x27' :: more | 'U', '&' :: '\x27' :: more =>
      if d.hasMarkedStrings then scanUnicode ('\x27' :: more) else scanWord d [c] rest
    | 'x', '\x27' :: _ | 'X', '\x27' :: _ => scanString .hex true rest
    | '\x27', _ => scanString .single d.escapesWithBackslash cs
    | _, _ =>
      if d.opensQuotedWord c then scanQuotedWord cs
      else if c = '"' then scanString .double d.escapesWithBackslash cs
      else if c.isDigit || c = '.' then scanNumber d before cs
      else if c = '@' then scanAt d cs
      else if c = '#' then scanSharp d cs
      else if c = '?' && !d.hasQuestionOperators then
        let (digits, rest) := takeRun Text.isDecimalDigit rest
        .ok (.parameter ("?" ++ String.ofList digits), rest)
      else if d.isWordStart c then scanWord d [c] rest
      else if c = '$' then scanDollar d rest
      else scanSymbol d cs

/-- The lexemes of some characters that stand at a position, given the token that touches them on
the left. -/
def lexFrom (d : Dialect) : Nat → Position → Option Token → List Char → Except Refusal (List Lexeme)
  | 0, _, _, _ => .ok []
  | _ + 1, _, _, [] => .ok []
  | fuel + 1, place, before, c :: cs =>
    let taken (rest : List Char) : Position :=
      place.after ((c :: cs).take ((c :: cs).length - rest.length))
    match afterBlank d (c :: cs) with
    | .error fault => .error (.wrong fault.what (some (taken fault.rest)))
    | .ok (some rest) => lexFrom d fuel (taken rest) none rest
    | .ok none =>
      match scanToken d before (c :: cs) with
      | .error fault => .error (.wrong fault.what (some (taken fault.rest)))
      | .ok (token, rest) => do
        let more ← lexFrom d fuel (taken rest) (some token) rest
        pure (⟨token, token.key, place, before.isSome⟩ :: more)

def lex (d : Dialect) (text : String) : Except Refusal (List Lexeme) :=
  let cs := text.toList
  lexFrom d (cs.length + 1) .start none cs

end SqlAudit.Sql

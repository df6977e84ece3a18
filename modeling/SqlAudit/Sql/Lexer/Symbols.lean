import SqlAudit.Sql.Dialect
import SqlAudit.Sql.Lexer.Fault
import SqlAudit.Text.Blank
import SqlAudit.Text.Digit

/-! # Symbols

The longest symbol of the dialect at the front is taken. In PostgreSQL most symbols may be extended
to operators of the user's own.
-/

namespace SqlAudit.Sql

/-- Symbols that never grow into another operator, longer ones first. -/
def fixedSymbols (d : Dialect) : List String :=
  ["::", ":=", "=>", "==", "!!", "^@"]
    ++ (if d = .generic then ["//", "|>"] else [])
    ++ ["(", ")", ",", "+", "*", "/", "=", "!", ":", ";", "\\", "[", "]", "\x7b", "\x7d", "^"]

/-- Symbols that may grow into an operator of the user's own, longer ones first. -/
def openSymbols (d : Dialect) : List String :=
  ["!~~*"]
    ++ (if d = .postgresql then ["<<|", "|>>", "<->"] else [])
    ++ ["->>", "||/", "!~*", "!~~", "<=>", "~~*", "#>>"]
    ++ (if d.hasQuestionOperators then ["?||", "?|", "?&", "?-", "?#", "?"] else [])
    ++ ["->", "|/", "||", "!~", "<=", "<>", "<<", "<@", ">=", ">>", "&&", "~*", "~~", "#-",
        "#>", "@>", "@?", "-", "%", "|", "<", ">", "&", "~", "#", "@"]

/-- The first of the symbols that the characters begin with, and the rest. -/
def takeSymbol (symbols : List String) (cs : List Char) : Option (String × List Char) :=
  match symbols with
  | [] => none
  | s :: symbols =>
    if s.toList.isPrefixOf cs then some (s, cs.drop s.length) else takeSymbol symbols cs

/-- A symbol, grown to an operator of the user's own if operator characters follow. -/
def growSymbol (d : Dialect) (s : String) (cs : List Char) : Token × List Char :=
  let (more, rest) := takeRun d.isOperatorPart cs
  if more.isEmpty then (.symbol s, rest) else (.operator (s ++ String.ofList more), rest)

/-- The symbol at the front. Different from is `<>` however it was written. -/
def scanSymbol (d : Dialect) (cs : List Char) : Scan :=
  match cs with
  | '!' :: '=' :: rest => .ok (.symbol "<>", rest)
  | '<' :: '-' :: rest =>
    if d = .postgresql && rest.head? != some '>' then
      match growSymbol d "<-" rest with
      | (.operator s, rest) => .ok (.operator s, rest)
      | (_, rest) => .error ⟨"Expected a valid binary operator after '<-'", rest⟩
    else symbol cs
  | _ => symbol cs
where
  /-- The longest symbol, or the character alone. -/
  symbol (cs : List Char) : Scan :=
    match takeSymbol (openSymbols d) cs, takeSymbol (fixedSymbols d) cs with
    | some (s, rest), some (s', rest') =>
      if s'.length < s.length then .ok (growSymbol d s rest) else .ok (.symbol s', rest')
    | some (s, rest), none => .ok (growSymbol d s rest)
    | none, some (s, rest) => .ok (.symbol s, rest)
    | none, none =>
      match cs with
      | c :: rest => .ok (.char c, rest)
      | [] => .ok (.symbol "", [])

def scanWord (d : Dialect) (first : List Char) (cs : List Char) : Scan :=
  let (more, rest) := takeRun d.isWordPart cs
  .ok (.word (String.ofList (first ++ more)) none, rest)

/-- The token that begins with `@`. Where `@` begins a word, so does any character after it. -/
def scanAt (d : Dialect) (cs : List Char) : Scan :=
  match cs with
  | '@' :: '@' :: rest =>
    match rest with
    | ' ' :: _ => .ok (.symbol "@@", rest)
    | c :: more =>
      if d.isWordStart '@' then scanWord d ['@', '@', c] more else .ok (growSymbol d "@@" rest)
    | [] => .ok (.symbol "@@", [])
  | '@' :: c :: rest =>
    if c = '>' || c = '?' then scanSymbol d cs
    else if c = ' ' || c = '\x27' || c = '"' || c = '\x60' then .ok (.symbol "@", c :: rest)
    else if d.isWordStart '@' then scanWord d ['@', c] rest
    else .ok (growSymbol d "@" (c :: rest))
  | _ => scanSymbol d cs

/-- The token that begins with `#`, which begins words in the generic dialect. -/
def scanSharp (d : Dialect) (cs : List Char) : Scan :=
  match cs with
  | '#' :: c :: rest =>
    if c = '-' || c = '>' then scanSymbol d cs
    else if c = ' ' then .ok (.symbol "#", c :: rest)
    else if d.isWordStart '#' then scanWord d ['#', c] rest
    else scanSymbol d cs
  | _ => scanSymbol d cs

end SqlAudit.Sql

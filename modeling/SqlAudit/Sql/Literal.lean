import SqlAudit.Sql.Term
import SqlAudit.Text.Hex
import SqlAudit.Text.Natural

/-! # Literals

A literal is a number, a string, a truth value, `NULL` or a parameter. Strings keep the way in which
they were written.
-/

namespace SqlAudit.Sql

/-- The text of a string marked `E`: quotes, backslashes and line breaks are escaped. -/
def escapeMarked (s : String) : String :=
  String.ofList (s.toList.flatMap fun c =>
    match c with
    | '\x27' => ['\\', '\x27']
    | '\\' => ['\\', '\\']
    | '\n' => ['\\', 'n']
    | '\t' => ['\\', 't']
    | '\r' => ['\\', 'r']
    | c => [c])

/-- The text of a string marked `U&`: characters beyond ASCII are numbered. -/
def escapeNumbered (s : String) : String :=
  String.ofList (s.toList.flatMap fun c =>
    if c = '\x27' then ['\x27', '\x27']
    else if c = '\\' then ['\\', '\\']
    else if c.toNat < 128 then [c]
    else if c.toNat < 0x10000 then '\\' :: (Text.hexDigits 4 c.toNat).map Char.toUpper
    else '\\' :: '+' :: (Text.hexDigits 6 c.toNat).map Char.toUpper)

def stringText (kind : StringKind) (s : String) : String :=
  match kind with
  | .single => quoteText '\x27' s
  | .double => quoteText '"' s
  | .escaped => kind.opening ++ escapeMarked s ++ kind.closing
  | .unicode => kind.opening ++ escapeNumbered s ++ kind.closing
  | _ => kind.opening ++ s ++ kind.closing

/-- A string literal. The review sees the text of ordinary strings and leaves the others alone. -/
def stringTerm (kind : StringKind) (s : String) : Term :=
  let text := stringText kind s
  match kind with
  | .single | .double | .national | .escaped => ⟨text, .literal (.string s), .value⟩
  | _ => ⟨text, .other text, .value⟩

open Reader

/-- The strings that follow without anything between them, where such strings are one. -/
def moreStrings (s : String) : Reader String := do
  if (← dialect).joinsStrings then
    grow (fun s => do
      match ← peek with
      | some { token := .string .single t, .. } | some { token := .string .double t, .. } =>
        skip
        pure (some (s ++ t))
      | _ => pure none) s
  else pure s

def value : Reader Term := do
  match ← peek with
  | none => expected "a value"
  | some lexeme =>
    match lexeme.token with
    | .word s quote =>
      match lexeme.key with
      | "TRUE" => skip; pure ⟨"true", .literal (.boolean true), .value⟩
      | "FALSE" => skip; pure ⟨"false", .literal (.boolean false), .value⟩
      | "NULL" => skip; pure ⟨"NULL", .literal .null, .value⟩
      | _ =>
        if quote = some '"' then
          skip
          pure (stringTerm .double s)
        else if quote.isSome then expected "A value?"
        else expected "a concrete value"
    | .number s long =>
      skip
      pure ⟨if long then s ++ "L" else s, .literal (.number s), .number s⟩
    | .string kind s =>
      skip
      if kind = .single || kind = .double then
        pure (stringTerm kind (← moreStrings s))
      else pure (stringTerm kind s)
    | .dollar tag s =>
      skip
      pure ⟨Token.dollarText tag s, .literal (.string s), .value⟩
    | .parameter s =>
      skip
      pure ⟨s, .literal (.placeholder s), .value⟩
    | .symbol s =>
      if s == ":" || s == "@" then
        skip
        match ← peek with
        | some { token := .word name _, glued := true, .. }
        | some { token := .number name false, glued := true, .. } =>
          skip
          pure ⟨s ++ name, .literal (.placeholder (s ++ name)), .value⟩
        | _ => expected "placeholder"
      else expected "a value"
    | _ => expected "a value"

def wholeNumber : Reader Nat := do
  match ← peek with
  | some { token := .number s _, start := place, .. } =>
    match Text.readCount s with
    | some n =>
      skip
      pure n
    | none =>
      refuse (.wrong ("Could not parse '" ++ s ++ "' as u64: " ++
        (if s.toList.all Char.isDigit then "number too large to fit in target type"
         else "invalid digit found in string")) (some place))
  | _ => expected "literal int"

def literalString : Reader String := do
  match ← peek with
  | some { token := .string .single s, .. } | some { token := .string .double s, .. } =>
    skip
    pure s
  | _ => expected "literal string"

/-- A whole number in parentheses, if an opening parenthesis is next. -/
def precision? : Reader (Option Nat) := do
  if ← symbol "(" then
    let n ← wholeNumber
    needSymbol ")"
    pure (some n)
  else pure none

end SqlAudit.Sql

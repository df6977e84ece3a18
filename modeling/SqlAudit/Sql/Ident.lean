import SqlAudit.Sql.Reader
import SqlAudit.Text.Pieces
import SqlAudit.Tree.Name

/-! # Identifiers and names

An identifier is a word or a string in the place of a word. Its text keeps the quotes that were
written.
-/

namespace SqlAudit.Sql

/-- Doubles the quotes in a text. Quotes that are already doubled, or that follow a backslash, stay
as they are; `before` is the character in front. -/
def doubleQuotes (quote : Char) (before : Char) : List Char → List Char
  | [] => []
  | [c] => if c = quote && before != '\\' then [c, c] else [c]
  | c :: c' :: cs =>
    if c = quote then
      if before = '\\' then c :: doubleQuotes quote before (c' :: cs)
      else if c' = quote then c :: c' :: doubleQuotes quote c cs
      else c :: c :: doubleQuotes quote c (c' :: cs)
    else c :: doubleQuotes quote c (c' :: cs)

def quoteText (quote : Char) (s : String) : String :=
  quote.toString ++ String.ofList (doubleQuotes quote '\x00' s.toList) ++ quote.toString

/-- An identifier with the quote it was written in. -/
structure Ident where
  value : String
  quote : Option Char
  deriving DecidableEq, Repr, Inhabited

namespace Ident

def text (i : Ident) : String :=
  match i.quote with
  | none => i.value
  | some '[' => "[" ++ i.value ++ "]"
  | some q => quoteText q i.value

/-- The identifier that a token stands for. Strings are taken as quoted words. -/
def ofToken? : Token → Option Ident
  | .word s q => some ⟨s, q⟩
  | .string .single s => some ⟨s, some '\x27'⟩
  | .string .double s => some ⟨s, some '"'⟩
  | _ => none

end Ident

/-- The parts of a name with dots between them. -/
def namesText (parts : List Ident) : String :=
  Text.joinWith "." (parts.map Ident.text)

def commaText (texts : List String) : String :=
  Text.joinWith ", " texts

def identsText (idents : List Ident) : String :=
  commaText (idents.map Ident.text)

/-- The name of an object, without its quotes. -/
def objectNameOf (parts : List Ident) : ObjectName :=
  ⟨parts.map Ident.value⟩

open Reader

def ident : Reader Ident := do
  match ← peek with
  | some lexeme =>
    match Ident.ofToken? lexeme.token with
    | some i =>
      skip
      pure i
    | none => expected "identifier"
  | none => expected "identifier"

def ident? : Reader (Option Ident) :=
  attempt ident

/-- The name of an object: identifiers with dots between them. -/
def objectName : Reader (List Ident) := do
  separatedFrom ident (symbol ".") (← left)

def identList : Reader (List Ident) := do
  if ← symbol "(" then
    let idents ← commas ident
    needSymbol ")"
    pure idents
  else expected "a list of columns in parentheses"

def identList? (allowEmpty : Bool) : Reader (List Ident) := do
  if ← symbol "(" then
    if allowEmpty then
      if ← symbol ")" then return []
    let idents ← commas ident
    needSymbol ")"
    pure idents
  else pure []

def nameList : Reader (List (List Ident)) := do
  if ← symbol "(" then
    let names ← commas objectName
    needSymbol ")"
    pure names
  else expected "a list of columns in parentheses"

end SqlAudit.Sql

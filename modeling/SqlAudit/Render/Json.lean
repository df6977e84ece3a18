import SqlAudit.Render.Document
import SqlAudit.Text.Hex
import SqlAudit.Text.Pieces

/-! # JSON

Documents as JSON: every field and list item on a line of its own, two blanks further in than what
holds it. In strings, quotes, backslashes and control characters are escaped and everything else
stands for itself.
-/

namespace SqlAudit.Render.Json

def escapeChar (c : Char) : List Char :=
  if c = '"' then ['\\', '"']
  else if c = '\\' then ['\\', '\\']
  else if c = '\x08' then ['\\', 'b']
  else if c = '\x0c' then ['\\', 'f']
  else if c = '\n' then ['\\', 'n']
  else if c = '\r' then ['\\', 'r']
  else if c = '\t' then ['\\', 't']
  else if c.toNat < 0x20 then '\\' :: 'u' :: Text.hexDigits 4 c.toNat
  else [c]

def quoted (s : String) : String :=
  "\"" ++ String.ofList (s.toList.flatMap escapeChar) ++ "\""

def margin (depth : Nat) : String :=
  String.ofList (List.replicate (2 * depth) ' ')

mutual

/-- A document, where the line it starts on belongs to the given depth. -/
def write (depth : Nat) : Document → String
  | .text value => quoted value
  | .number value => toString value
  | .list [] => "[]"
  | .list (item :: rest) =>
    "[\n" ++ margin (depth + 1) ++ write (depth + 1) item ++ writeItems depth rest ++ "\n" ++
      margin depth ++ "]"
  | .record [] => "\x7b\x7d"
  | .record ((key, value) :: rest) =>
    "\x7b\n" ++ margin (depth + 1) ++ quoted key ++ ": " ++ write (depth + 1) value ++
      writeFields depth rest ++ "\n" ++ margin depth ++ "\x7d"

def writeItems (depth : Nat) : List Document → String
  | [] => ""
  | item :: rest =>
    ",\n" ++ margin (depth + 1) ++ write (depth + 1) item ++ writeItems depth rest

def writeFields (depth : Nat) : List (String × Document) → String
  | [] => ""
  | (key, value) :: rest =>
    ",\n" ++ margin (depth + 1) ++ quoted key ++ ": " ++ write (depth + 1) value ++
      writeFields depth rest

end

/-- A document as JSON text, without a line feed at the end. -/
def render (d : Document) : String :=
  write 0 d

end SqlAudit.Render.Json

import SqlAudit.Text.Hex
import SqlAudit.Text.Hidden

/-! # Quoted text in messages

A message shows a text between double quotes, with escapes for whatever could not be told from its
picture.
-/

namespace SqlAudit.Text

/-- The hexadecimal digits of a number, without leading zeros. -/
def hexNumber (n : Nat) : List Char :=
  match (hexDigits 6 n).dropWhile (· = '0') with
  | [] => ['0']
  | digits => digits

def quotedChar (c : Char) : List Char :=
  if c = '"' then ['\\', '"']
  else if c = '\\' then ['\\', '\\']
  else if c = '\n' then ['\\', 'n']
  else if c = '\r' then ['\\', 'r']
  else if c = '\t' then ['\\', 't']
  else if c = '\x00' then ['\\', '0']
  else if isHidden c then ['\\', 'u', '\x7b'] ++ hexNumber c.toNat ++ ['\x7d']
  else [c]

/-- A text between double quotes. -/
def quoted (s : String) : String :=
  "\"" ++ String.ofList (s.toList.flatMap quotedChar) ++ "\""

end SqlAudit.Text

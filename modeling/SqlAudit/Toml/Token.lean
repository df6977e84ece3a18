import SqlAudit.Toml.Fault

/-! # Tokens of TOML

Every character belongs to a token; a token knows its text and its span. A string that is not closed
ends with its line, or with the text if it may have several lines.
-/

namespace SqlAudit.Toml

inductive Kind where
  | dot | equals | comma | openBracket | closeBracket | openBrace | closeBrace
  | blank | newline | comment
  /-- `'…'` -/
  | literal
  /-- `"…"` -/
  | basic
  /-- `'''…'''` -/
  | longLiteral
  /-- Three double quotes on each side. -/
  | longBasic
  /-- Anything else: a bare key, a number, a word. -/
  | atom
  | eof
  deriving DecidableEq, Repr, Inhabited

structure Token where
  kind : Kind
  text : List Char
  span : Span
  deriving Repr, Inhabited

/-- The characters that neither a string nor a comment may hold as they are. -/
def isControl (c : Char) : Bool :=
  (c.toNat < 0x20 && c != '\t') || c.toNat = 0x7f

/-- The length of a string on one line, from its opening quote on. A backslash keeps the next
character from closing it, if backslashes escape. -/
def shortLength (quote : Char) (escapes : Bool) : List Char → Nat
  | [] => 0
  | '\n' :: _ => 0
  | '\r' :: '\n' :: _ => 0
  | '\\' :: c :: cs =>
    if escapes && c != '\n' then 2 + shortLength quote escapes cs
    else 1 + shortLength quote escapes (c :: cs)
  | c :: cs => if c = quote then 1 else 1 + shortLength quote escapes cs

/-- The length of a string on several lines, after its opening quotes. Up to two quotes more may
stand before the closing ones. -/
def longLength (quote : Char) (escapes : Bool) : List Char → Nat
  | [] => 0
  | c :: cs =>
    if c = quote then
      match cs with
      | c₂ :: c₃ :: rest =>
        if c₂ = quote && c₃ = quote then 3 + min 2 (rest.takeWhile (· = quote)).length
        else 1 + longLength quote escapes (c₂ :: c₃ :: rest)
      | rest => 1 + rest.length
    else if escapes && c = '\\' then
      match cs with
      | _ :: rest => 2 + longLength quote escapes rest
      | [] => 1
    else 1 + longLength quote escapes cs

def endsAtom (c : Char) : Bool :=
  ".=,[]\x7b\x7d \t#\r\n".toList.contains c

/-- The kind and the length of the first token. -/
def first : List Char → Kind × Nat
  | [] => (.eof, 0)
  | '.' :: _ => (.dot, 1)
  | '=' :: _ => (.equals, 1)
  | ',' :: _ => (.comma, 1)
  | '[' :: _ => (.openBracket, 1)
  | ']' :: _ => (.closeBracket, 1)
  | '\x7b' :: _ => (.openBrace, 1)
  | '\x7d' :: _ => (.closeBrace, 1)
  | '\r' :: '\n' :: _ => (.newline, 2)
  | '\n' :: _ => (.newline, 1)
  | '\r' :: _ => (.newline, 1)
  | '\x27' :: '\x27' :: '\x27' :: cs => (.longLiteral, 3 + longLength '\x27' false cs)
  | '"' :: '"' :: '"' :: cs => (.longBasic, 3 + longLength '"' true cs)
  | '\x27' :: cs => (.literal, 1 + shortLength '\x27' false cs)
  | '"' :: cs => (.basic, 1 + shortLength '"' true cs)
  | '#' :: cs => (.comment, 1 + (cs.takeWhile fun c => c != '\n' && c != '\r').length)
  | c :: cs =>
    if c = ' ' || c = '\t' then (.blank, 1 + (cs.takeWhile fun c => c = ' ' || c = '\t').length)
    else (.atom, 1 + (cs.takeWhile fun c => !endsAtom c).length)

/-- The tokens of some characters that stand at an offset. The last token is the end of the text. -/
def tokensFrom : Nat → Nat → List Char → List Token
  | 0, offset, _ => [⟨.eof, [], ⟨offset, offset⟩⟩]
  | _ + 1, offset, [] => [⟨.eof, [], ⟨offset, offset⟩⟩]
  | fuel + 1, offset, c :: cs =>
    let (kind, length) := first (c :: cs)
    let stop := offset + length
    ⟨kind, (c :: cs).take length, ⟨offset, stop⟩⟩ :: tokensFrom fuel stop ((c :: cs).drop length)

/-- The tokens of a text. A byte order mark in front counts as a blank. -/
def tokens (source : String) : List Token :=
  match source.toList with
  | '\ufeff' :: cs => ⟨.blank, ['\ufeff'], ⟨0, 1⟩⟩ :: tokensFrom source.length 1 cs
  | cs => tokensFrom (source.length + 1) 0 cs

/-- What is wrong with a comment or a line end by itself. -/
def Token.fault? (t : Token) : Option Fault :=
  match t.kind with
  | .comment =>
    (t.text.findIdx? isControl).map fun i =>
      ⟨"invalid comment character, expected printable characters",
        ⟨t.span.start + i, t.span.start + i⟩⟩
  | .newline =>
    if t.text = ['\r'] then
      some ⟨"carriage return must be followed by newline, expected newline", t.span.behind⟩
    else none
  | _ => none

end SqlAudit.Toml

import SqlAudit.Render.Yaml.Resolve

/-! # Texts in YAML

A text is written plainly where that reads back as the same text, else between single quotes, else
between double quotes with escapes. A text that holds a line feed becomes a literal block when a
block can hold it.
-/

namespace SqlAudit.Render.Yaml

inductive ScalarStyle where
  | plain
  | singleQuoted
  | doubleQuoted
  | literal
  deriving DecidableEq, Repr, Inhabited

def isBreak (c : Char) : Bool :=
  c = '\n' || c = '\r' || c.toNat = 0x85 || c.toNat = 0x2028 || c.toNat = 0x2029

def isPrintable (c : Char) : Bool :=
  let n := c.toNat
  n = 0x0A || (0x20 ≤ n && n ≤ 0x7E) || (0xA0 ≤ n && n ≤ 0xD7FF) ||
    (0xE000 ≤ n && n ≤ 0xFFFD && n ≠ 0xFEFF) || 0x10000 ≤ n

/-- A blank, a tab, a line end or the end of the text. -/
def isGap : Option Char → Bool
  | none => true
  | some c => c = ' ' || c = '\t' || c.toNat = 0 || isBreak c

/-- Characters that a plain text cannot begin with. -/
def indicators : List Char :=
  ['#', ',', '[', ']', '\x7b', '\x7d', '&', '*', '!', '|', '>', '\x27', '"', '%', '@', '\x60']

/-- The beginning of the text has a meaning of its own. -/
def startsSpecial : List Char → Bool
  | '-' :: '-' :: '-' :: _ => true
  | '.' :: '.' :: '.' :: _ => true
  | c :: rest =>
    indicators.contains c || ((c = '?' || c = ':' || c = '-') && isGap rest.head?)
  | [] => false

/-- A colon in front of a gap, or a `#` behind one, after the first character. -/
def holdsIndicator (previous : Char) : List Char → Bool
  | [] => false
  | c :: rest =>
    (c = ':' && isGap rest.head?) || (c = '#' && isGap (some previous)) || holdsIndicator c rest

/-- Some two neighbouring characters satisfy the conditions. -/
def hasPair (first second : Char → Bool) (cs : List Char) : Bool :=
  (cs.zip (cs.drop 1)).any fun pair => first pair.1 && second pair.2

def plainAllowed (cs : List Char) : Bool :=
  cs.head? != some ' ' && cs.getLast? != some ' ' && cs.all isPrintable && !cs.any isBreak &&
    !startsSpecial cs &&
    match cs with
    | c :: rest => !holdsIndicator c rest
    | [] => true

def singleQuotedAllowed (cs : List Char) : Bool :=
  cs.all isPrintable && !hasPair isBreak (· = ' ') cs && !hasPair (· = ' ') isBreak cs

def literalAllowed (cs : List Char) : Bool :=
  cs.all isPrintable && cs.getLast? != some ' ' && !hasPair (· = ' ') isBreak cs

def styleOf (s : String) : ScalarStyle :=
  let cs := s.toList
  if cs.contains '\n' then
    if literalAllowed cs then .literal else .doubleQuoted
  else if !isReserved s && plainAllowed cs then .plain
  else if singleQuotedAllowed cs then .singleQuoted
  else .doubleQuoted

/-- The letter that names a character in an escape, where there is one. -/
def escapeLetter? (c : Char) : Option Char :=
  match c.toNat with
  | 0x00 => some '0'
  | 0x07 => some 'a'
  | 0x08 => some 'b'
  | 0x09 => some 't'
  | 0x0A => some 'n'
  | 0x0B => some 'v'
  | 0x0C => some 'f'
  | 0x0D => some 'r'
  | 0x1B => some 'e'
  | 0x22 => some '"'
  | 0x5C => some '\\'
  | 0x85 => some 'N'
  | 0x2028 => some 'L'
  | 0x2029 => some 'P'
  | _ => none

/-- A character by its number, in two, four or eight digits. -/
def numberEscape (n : Nat) : List Char :=
  let (mark, width) := if n ≤ 0xFF then ('x', 2) else if n ≤ 0xFFFF then ('u', 4) else ('U', 8)
  mark :: (Text.hexDigits width n).map Char.toUpper

def escapeChar (c : Char) : List Char :=
  match escapeLetter? c with
  | some letter => ['\\', letter]
  | none => if isPrintable c then [c] else '\\' :: numberEscape c.toNat

/-- The lines of a text with a margin in front of each line that is not empty; `fresh` says that a
line has just begun. -/
def indentLines (margin : List Char) : Bool → List Char → List Char
  | _, [] => []
  | fresh, c :: rest =>
    if isBreak c then c :: indentLines margin true rest
    else (if fresh then margin else []) ++ c :: indentLines margin false rest

/-- Whether a literal block keeps the line feeds at its end. -/
def chompMark (cs : List Char) : List Char :=
  match cs.reverse with
  | last :: before =>
    if isBreak last then
      match before with
      | [] => ['+']
      | c :: _ => if isBreak c then ['+'] else []
    else ['-']
  | [] => ['-']

/-- The digit that gives the margin of a literal block whose first line does not show it. -/
def marginMark (cs : List Char) : List Char :=
  match cs with
  | c :: _ => if c = ' ' || isBreak c then ['2'] else []
  | [] => []

/-- A literal block, up to the line feed that ends it. -/
def literalBlock (margin cs : List Char) : List Char :=
  let body := indentLines margin true cs
  let closed := if (cs.getLast?.map isBreak).getD false then body else body ++ ['\n']
  ['|'] ++ marginMark cs ++ chompMark cs ++ ['\n'] ++ closed

/-- A text between single quotes, where a quote is written twice and lines behind a line end get the
margin. -/
def singleQuotedText (margin cs : List Char) : List Char :=
  let body :=
    indentLines margin false (cs.flatMap fun c => if c = '\x27' then ['\x27', '\x27'] else [c])
  let last := if (cs.getLast?.map isBreak).getD false then margin else []
  ['\x27'] ++ body ++ last ++ ['\x27']

/-- A text with the line feed behind it, where its lines may begin no further left than the margin.
-/
def scalarLine (margin : List Char) (s : String) : List Char :=
  let cs := s.toList
  match styleOf s with
  | .plain => cs ++ ['\n']
  | .singleQuoted => singleQuotedText margin cs ++ ['\n']
  | .doubleQuoted => ['"'] ++ cs.flatMap escapeChar ++ ['"'] ++ ['\n']
  | .literal => literalBlock margin cs

end SqlAudit.Render.Yaml

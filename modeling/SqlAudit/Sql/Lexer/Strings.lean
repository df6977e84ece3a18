import SqlAudit.Sql.Dialect
import SqlAudit.Sql.Lexer.Fault
import SqlAudit.Text.Digit
import SqlAudit.Text.Hex

/-! # Strings and quoted words

A quote inside a string or a quoted word is written twice. Strings marked `E` know escapes, and
strings marked `U&` character numbers; a string may also stand between two equal dollar marks.
-/

namespace SqlAudit.Sql

/-- The text up to the closing quote, with doubled quotes made one, and the characters after it. -/
def quotedText (quote : Char) : List Char → Option (List Char × List Char)
  | [] => none
  | [c] => if c = quote then some ([], []) else none
  | c :: c' :: cs =>
    if c = quote then
      if c' = quote then (quotedText quote cs).map fun r => (quote :: r.1, r.2)
      else some ([], c' :: cs)
    else (quotedText quote (c' :: cs)).map fun r => (c :: r.1, r.2)

/-- The character that a backslash and a character stand for. -/
def backslashed (c : Char) : Char :=
  match c with
  | '0' => '\x00'
  | 'a' => '\x07'
  | 'b' => '\x08'
  | 'f' => '\x0c'
  | 'n' => '\n'
  | 'r' => '\r'
  | 't' => '\t'
  | 'Z' => '\x1a'
  | c => c

/-- As `quotedText`, where a backslash escapes the next character. The escapes of the wildcards `%`
and `_` keep their backslash, for the pattern in which they stand. -/
def backslashText (quote : Char) : List Char → Option (List Char × List Char)
  | [] => none
  | [c] => if c = quote then some ([], []) else none
  | c :: c' :: cs =>
    if c = quote then
      if c' = quote then (backslashText quote cs).map fun r => (quote :: r.1, r.2)
      else some ([], c' :: cs)
    else if c = '\\' then
      if c' = '%' || c' = '_' then (backslashText quote cs).map fun r => (c :: c' :: r.1, r.2)
      else (backslashText quote cs).map fun r => (backslashed c' :: r.1, r.2)
    else (backslashText quote (c' :: cs)).map fun r => (c :: r.1, r.2)

/-- The string whose opening quote is the first character. -/
def scanString (kind : StringKind) (backslash : Bool) : List Char → Scan
  | [] => .error ⟨"Unterminated string literal", []⟩
  | quote :: cs =>
    match if backslash then backslashText quote cs else quotedText quote cs with
    | some (s, rest) => .ok (.string kind (String.ofList s), rest)
    | none => .error ⟨"Unterminated string literal", quote :: cs⟩

/-- The quoted word whose opening quote is the first character. -/
def scanQuotedWord : List Char → Scan
  | [] => .error ⟨"", []⟩
  | quote :: cs =>
    match quotedText (closingQuote quote) cs with
    | some (s, rest) => .ok (.word (String.ofList s) (some quote), rest)
    | none =>
      .error ⟨"Expected close delimiter '" ++ (closingQuote quote).toString ++ "' before EOF.",
        quote :: cs⟩

/-! ## Character numbers -/

def digitsIn (base : Nat) (cs : List Char) : Nat :=
  cs.foldl (fun n c => n * base + (Text.hexValue? c).getD 0) 0

/-- The character with a number, unless the number is none of a character. -/
def charOfNumber? (n : Nat) : Option Char :=
  if n.isValidChar then some (Char.ofNat n) else none

/-- The character that an escape of a string marked `E` stands for, from the character after the
backslash on. A zero character is refused. -/
def escapedChar? : List Char → Option (Char × List Char)
  | [] => none
  | 'b' :: cs => some ('\x08', cs)
  | 'f' :: cs => some ('\x0c', cs)
  | 'n' :: cs => some ('\n', cs)
  | 'r' :: cs => some ('\r', cs)
  | 't' :: cs => some ('\t', cs)
  | 'u' :: cs => numbered 4 cs
  | 'U' :: cs => numbered 8 cs
  | 'x' :: cs =>
    let digits := (cs.take 2).takeWhile Text.isHexDigit
    if digits.isEmpty then some ('x', cs) else ascii (digitsIn 16 digits) (cs.drop digits.length)
  | c :: cs =>
    if isOctal c then
      let digits := c :: (cs.take 2).takeWhile isOctal
      ascii (digitsIn 8 digits % 256) (cs.drop (digits.length - 1))
    else some (c, cs)
where
  /-- The character is an octal digit. -/
  isOctal (c : Char) : Bool := '0' ≤ c && c ≤ '7'
  /-- The character numbered by exactly so many digits. -/
  numbered (count : Nat) (cs : List Char) : Option (Char × List Char) :=
    let digits := cs.take count
    if digits.length = count && digits.all Text.isHexDigit then
      match charOfNumber? (digitsIn 16 digits) with
      | some c => if c = '\x00' then none else some (c, cs.drop count)
      | none => none
    else none
  /-- The character of ASCII with a number. -/
  ascii (n : Nat) (rest : List Char) : Option (Char × List Char) :=
    if 0 < n ∧ n < 128 then some (Char.ofNat n, rest) else none

/-- The text of a string marked `E`, after its opening quote. -/
def escapedText : Nat → List Char → Option (List Char × List Char)
  | 0, _ => none
  | _ + 1, [] => none
  | fuel + 1, '\x27' :: '\x27' :: cs => (escapedText fuel cs).map fun r => ('\x27' :: r.1, r.2)
  | _ + 1, '\x27' :: cs => some ([], cs)
  | fuel + 1, '\\' :: cs =>
    match escapedChar? cs with
    | some (c, rest) => (escapedText fuel rest).map fun r => (c :: r.1, r.2)
    | none => none
  | fuel + 1, c :: cs => (escapedText fuel cs).map fun r => (c :: r.1, r.2)

/-- The string marked `E`; `mark` is the mark as written and `cs` begins with the opening quote. -/
def scanEscaped (mark : Char) (cs : List Char) : Scan :=
  match escapedText (cs.length + 1) (cs.drop 1) with
  | some (s, rest) => .ok (.string .escaped (String.ofList s), rest)
  | none => .error ⟨"Unterminated encoded string literal", mark :: cs⟩

/-- The character with the number that the first digits give. -/
def numberedChar (count : Nat) (cs : List Char) : Except Fault (Char × List Char) :=
  let digits := (cs.take count).takeWhile Text.isHexDigit
  let rest := cs.drop digits.length
  if digits.length = count then
    match charOfNumber? (digitsIn 16 digits) with
    | some c => .ok (c, rest)
    | none =>
      .error ⟨"Invalid unicode character: "
        ++ String.ofList (Nat.toDigits 16 (digitsIn 16 digits)), rest⟩
  else
    match rest with
    | [] => .error ⟨"Unexpected EOF while parsing hex digit in escaped unicode string.", []⟩
    | c :: rest => .error ⟨"Invalid hex digit in escaped unicode string: " ++ c.toString, rest⟩

/-- The text of a string marked `U&`, after its opening quote. -/
def unicodeText : Nat → List Char → Except Fault (List Char × List Char)
  | 0, cs => .error ⟨"Unterminated unicode encoded string literal", cs⟩
  | _ + 1, [] => .error ⟨"Unterminated unicode encoded string literal", []⟩
  | fuel + 1, '\x27' :: '\x27' :: cs => do
    let r ← unicodeText fuel cs
    pure ('\x27' :: r.1, r.2)
  | _ + 1, '\x27' :: cs => .ok ([], cs)
  | fuel + 1, '\\' :: '\\' :: cs => do
    let r ← unicodeText fuel cs
    pure ('\\' :: r.1, r.2)
  | fuel + 1, '\\' :: '+' :: cs => do
    let (c, rest) ← numberedChar 6 cs
    let r ← unicodeText fuel rest
    pure (c :: r.1, r.2)
  | fuel + 1, '\\' :: cs => do
    let (c, rest) ← numberedChar 4 cs
    let r ← unicodeText fuel rest
    pure (c :: r.1, r.2)
  | fuel + 1, c :: cs => do
    let r ← unicodeText fuel cs
    pure (c :: r.1, r.2)

/-- The string marked `U&`; `cs` begins with the opening quote. -/
def scanUnicode (cs : List Char) : Scan := do
  let (s, rest) ← unicodeText (cs.length + 1) (cs.drop 1)
  pure (.string .unicode (String.ofList s), rest)

/-! ## Dollar signs -/

/-- The text up to two dollar signs, and the characters after them. -/
def twoDollarText : List Char → Option (List Char × List Char)
  | [] => none
  | [_] => none
  | c :: c' :: cs =>
    if c = '$' && c' = '$' then some ([], cs)
    else (twoDollarText (c' :: cs)).map fun r => (c :: r.1, r.2)

/-- The text up to a mark, and the characters after the mark. -/
def textUpTo (mark : List Char) : List Char → Option (List Char × List Char)
  | [] => none
  | c :: cs =>
    if mark.isPrefixOf (c :: cs) then some ([], (c :: cs).drop mark.length)
    else (textUpTo mark cs).map fun r => (c :: r.1, r.2)

/-- The token that begins with a dollar sign; `cs` is what follows the sign. -/
def scanDollar (d : Dialect) (cs : List Char) : Scan :=
  match cs with
  | '$' :: cs' =>
    if d.hasDollarNames then named cs
    else
      match twoDollarText cs' with
      | some (s, rest) => .ok (.dollar "" (String.ofList s), rest)
      | none => .error ⟨"Unterminated dollar-quoted string", []⟩
  | _ => named cs
where
  /-- A parameter, or a string between marks with a tag. -/
  named (cs : List Char) : Scan :=
    let (name, rest) := takeRun (fun c =>
      Text.isLetter c || Text.isDecimalDigit c || c = '_' || (d.hasDollarNames && c = '$')) cs
    match rest with
    | '$' :: rest' =>
      if d.hasDollarNames then .ok (.parameter ("$" ++ String.ofList name), rest)
      else
        match textUpTo ('$' :: name ++ ['$']) rest' with
        | some (s, rest) => .ok (.dollar (String.ofList name) (String.ofList s), rest)
        | none => .error ⟨"Unterminated dollar-quoted, expected $", []⟩
    | _ => .ok (.parameter ("$" ++ String.ofList name), rest)

end SqlAudit.Sql

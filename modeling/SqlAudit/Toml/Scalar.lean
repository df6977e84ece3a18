import SqlAudit.Text.Hex
import SqlAudit.Text.Natural
import SqlAudit.Toml.Date
import SqlAudit.Toml.Line

/-! # Scalars of TOML

What a key or a value written without brackets means: a text, a number, a boolean or a date.
-/

namespace SqlAudit.Toml

/-- A value without parts. -/
inductive Scalar where
  | string (value : String)
  | integer (value : Int)
  | float (value : Float)
  | boolean (value : Bool)
  /-- A date, a time or both, as it was written. -/
  | date (written : String)

namespace Scalar

/-- A fault at an offset behind a position. -/
def faultAt (what : String) (start offset length : Nat) : Fault :=
  ⟨what, ⟨start + offset, start + offset + length⟩⟩

/-! ## Strings -/

/-- The expected continuations of a backslash. -/
def escapeFault : String :=
  "missing escaped value, expected \x60b\x60, \x60f\x60, \x60n\x60, \x60r\x60, " ++
    "\x60\\\x60, \x60\"\x60, \x60u\x60, \x60U\x60"

/-- The character that stands for itself after a backslash. -/
def escaped? : Char → Option Char
  | 'b' => some '\x08'
  | 't' => some '\t'
  | 'n' => some '\n'
  | 'f' => some '\x0c'
  | 'r' => some '\r'
  | '"' => some '"'
  | '\\' => some '\\'
  | _ => none

def codePoint? (digits : List Char) : Option Char :=
  let n := digits.foldl (fun n c => 16 * n + (Text.hexValue? c).getD 0) 0
  if n < 0xd800 || (0xdfff < n && n < 0x110000) then some (Char.ofNat n) else none

/-- The text of a basic string between its quotes; `start` is where the characters stand, and `long`
tells whether it may have several lines. -/
def basicText : Nat → Bool → Nat → List Char → Except Fault (List Char)
  | 0, _, _, _ => .ok []
  | _ + 1, _, _, [] => .ok []
  | fuel + 1, long, start, '\\' :: cs =>
    let hex (width : Nat) (cs : List Char) : Except Fault (List Char) := do
      let digits := (cs.takeWhile Text.isHexDigit).take width
      if digits.length = width then
        match codePoint? digits with
        | some c => pure (c :: (← basicText fuel long (start + 2 + width) (cs.drop width)))
        | none => throw (faultAt "invalid value, expected unicode hexadecimal value" start 2 width)
      else
        throw (faultAt "too few unicode value digits, expected unicode hexadecimal value" start 2
          digits.length)
    match cs with
    | 'u' :: rest => hex 4 rest
    | 'U' :: rest => hex 8 rest
    | [] => throw (faultAt escapeFault start 1 0)
    | c :: rest =>
      match escaped? c with
      | some e => do pure (e :: (← basicText fuel long (start + 2) rest))
      | none =>
        let blank := cs.takeWhile fun c => c = ' ' || c = '\t' || c = '\r' || c = '\n'
        if long && blank.contains '\n' then
          basicText fuel long (start + 1 + blank.length) (cs.drop blank.length)
        else throw (faultAt escapeFault start 1 0)
  | fuel + 1, long, start, c :: cs => do
    if isControl c && !(long && (c = '\n' || (c = '\r' && cs.head? = some '\n'))) then
      throw (faultAt
        (if long then "invalid multi-line basic string, expected printable characters"
        else "invalid basic string, expected non-double-quote visible characters, \x60\\\x60")
        start 0 1)
    else pure (c :: (← basicText fuel long (start + 1) cs))

/-- A literal string holds its characters as they are. -/
def literalText (long : Bool) : Nat → List Char → Except Fault (List Char)
  | _, [] => .ok []
  | start, c :: cs => do
    if isControl c && !(long && (c = '\n' || (c = '\r' && cs.head? = some '\n'))) then
      throw (faultAt
        (if long then "invalid multi-line literal string, expected printable characters"
        else "invalid literal string, expected non-single-quote visible characters")
        start 0 1)
    else pure (c :: (← literalText long (start + 1) cs))

/-- Without a line end at the start, and how long that was. -/
def dropLineEnd : List Char → List Char × Nat
  | '\r' :: '\n' :: cs => (cs, 2)
  | '\n' :: cs => (cs, 1)
  | cs => (cs, 0)

/-- The characters between quotes, if the closing ones are there. -/
def between (quote : List Char) (cs : List Char) : Option (List Char) :=
  let inner := cs.drop quote.length
  if quote.length ≤ inner.length && inner.drop (inner.length - quote.length) = quote then
    some (inner.take (inner.length - quote.length))
  else none

def stringText (raw : Raw) : Except Fault String := do
  let missing (what quote : String) : Fault :=
    ⟨what ++ ", expected \x60" ++ quote ++ "\x60", raw.span.behind⟩
  let start := raw.span.start
  let found ← match raw.kind with
    | .basic =>
      match between ['"'] raw.text with
      | some cs => basicText (cs.length + 1) false (start + 1) cs
      | none => throw (missing "invalid basic string" "\"")
    | .longBasic =>
      match between ['"', '"', '"'] raw.text with
      | some cs =>
        let (cs, dropped) := dropLineEnd cs
        basicText (cs.length + 1) true (start + 3 + dropped) cs
      | none => throw (missing "invalid multi-line basic string" "\"")
    | .literal =>
      match between ['\x27'] raw.text with
      | some cs => literalText false (start + 1) cs
      | none => throw (missing "invalid literal string" "\x27")
    | .longLiteral =>
      match between ['\x27', '\x27', '\x27'] raw.text with
      | some cs =>
        let (cs, dropped) := dropLineEnd cs
        literalText true (start + 3 + dropped) cs
      | none => throw (missing "invalid multi-line literal string" "\x27")
    | _ => pure raw.text
  pure (String.ofList found)

/-! ## Keys -/

def isBareKeyChar (c : Char) : Bool :=
  c.isAlphanum || c = '-' || c = '_'

def keyText (raw : Raw) : Except Fault String :=
  let wanted := ", expected letters, numbers, \x60-\x60, \x60_\x60"
  if raw.kind = .atom then
    if raw.text.isEmpty then .error ⟨"unquoted keys cannot be empty" ++ wanted, raw.span⟩
    else
      let good := (raw.text.takeWhile isBareKeyChar).length
      if good = raw.text.length then .ok (String.ofList raw.text)
      else .error (faultAt ("invalid unquoted key" ++ wanted) raw.span.start good 0)
  else stringText raw

/-! ## Numbers and dates -/

/-- Every underscore stands between two digits. -/
def underscoresInside (isDigit : Char → Bool) : List Char → Bool
  | [] => true
  | [c] => c != '_'
  | a :: b :: cs =>
    (a != '_' || isDigit b) && (b != '_' || isDigit a) && underscoresInside isDigit (b :: cs)

/-- Digits with underscores between them. -/
def areDigits (isDigit : Char → Bool) (cs : List Char) : Bool :=
  !cs.isEmpty && cs.all (fun c => isDigit c || c = '_') && cs.head? != some '_' &&
    underscoresInside isDigit cs

/-- The value of digits with underscores in a base. -/
def digitsIn (base : Nat) (cs : List Char) : Nat :=
  (cs.filter (· != '_')).foldl (fun n c => base * n + (Text.hexValue? c).getD 0) 0

/-- More than one digit, and the first is zero. -/
def hasLeadingZero : List Char → Bool
  | '0' :: _ :: _ => true
  | _ => false

/-- The double nearest to `digits * 10 ^ exponent`. Far outside the range of doubles the exponent
does not matter. -/
def nearest (digits : Nat) (exponent : Int) : Float :=
  let size := (toString digits).length
  if digits = 0 then 0.0
  else if 400 < (size : Int) + exponent then 1.0 / 0.0
  else if (size : Int) + exponent < -400 then 0.0
  else if 0 ≤ exponent then Float.ofScientific digits false exponent.toNat
  else Float.ofScientific digits true (-exponent).toNat

/-- Reads a number with a point or an exponent, without its sign. -/
def float? (cs : List Char) : Option Float :=
  let whole := cs.takeWhile fun c => c != '.' && c != 'e' && c != 'E'
  let rest := cs.drop whole.length
  let places := match rest with
    | '.' :: more => some (more.takeWhile fun c => c != 'e' && c != 'E')
    | _ => none
  let rest := rest.drop ((places.map fun p => p.length + 1).getD 0)
  let exponent : Option Int := match rest with
    | [] => some 0
    | _ :: '+' :: more => if areDigits Char.isDigit more then some (digitsIn 10 more) else none
    | _ :: '-' :: more =>
      if areDigits Char.isDigit more then some (-(digitsIn 10 more : Int)) else none
    | _ :: more => if areDigits Char.isDigit more then some (digitsIn 10 more) else none
  let fraction := places.getD []
  if areDigits Char.isDigit whole && !hasLeadingZero whole &&
      places.all (areDigits Char.isDigit) then
    exponent.map fun e =>
      nearest (digitsIn 10 (whole ++ fraction)) (e - ((fraction.filter (· != '_')).length : Int))
  else none

/-- What a date is known by: a dash or a colon behind the first digits. -/
def isDateLike (cs : List Char) : Bool :=
  let behind := cs.dropWhile fun c => c.isDigit || c = '_'
  behind.length < cs.length && (behind.head? = some '-' || behind.head? = some ':')

def number (raw : Raw) : Except Fault Scalar :=
  let cs := raw.text
  let negative := cs.head? = some '-'
  let body := if negative || cs.head? = some '+' then cs.drop 1 else cs
  let signed (n : Nat) : Int := if negative then -(n : Int) else n
  let based (what : String) (base : Nat) (digits : List Char) : Except Fault Scalar :=
    let isDigit (c : Char) : Bool := (Text.hexValue? c).any (· < base)
    if body.length = cs.length && areDigits isDigit digits then
      .ok (.integer (digitsIn base digits))
    else .error ⟨"invalid " ++ what ++ " number", raw.span⟩
  match body with
  | ['i', 'n', 'f'] => .ok (.float (if negative then -(1.0 / 0.0) else 1.0 / 0.0))
  | ['n', 'a', 'n'] => .ok (.float (0.0 / 0.0))
  | '0' :: 'x' :: digits => based "hexadecimal" 16 digits
  | '0' :: 'o' :: digits => based "octal" 8 digits
  | '0' :: 'b' :: digits => based "binary" 2 digits
  | _ =>
    if body.length = cs.length && isDateLike cs then
      match Date.fault? cs with
      | none => .ok (.date (String.ofList cs))
      | some reason => .error ⟨reason, raw.span⟩
    else if body.any fun c => c = '.' || c = 'e' || c = 'E' then
      match float? body with
      | some f => .ok (.float (if negative then -f else f))
      | none => .error ⟨"invalid floating-point number", raw.span⟩
    else if areDigits Char.isDigit body && !hasLeadingZero body then
      .ok (.integer (signed (digitsIn 10 body)))
    else .error ⟨"invalid integer number", raw.span⟩

def bare (raw : Raw) : Except Fault Scalar :=
  let word (what text : String) (value : Scalar) : Except Fault Scalar :=
    if String.ofList raw.text = text then .ok value
    else .error ⟨"invalid " ++ what ++ ", expected \x60" ++ text ++ "\x60", raw.span⟩
  match raw.text with
  | [] => .error ⟨"string values must be quoted, expected literal string", raw.span⟩
  | c :: _ =>
    if c.isDigit || c = '+' || c = '-' || c = '_' || c = '.' then number raw
    else if c = 't' || c = 'T' then word "boolean" "true" (.boolean true)
    else if c = 'f' || c = 'F' then word "boolean" "false" (.boolean false)
    else if c = 'i' || c = 'I' then word "float" "inf" (.float (1.0 / 0.0))
    else if c = 'n' || c = 'N' then word "float" "nan" (.float (0.0 / 0.0))
    else .error ⟨"string values must be quoted, expected literal string", raw.span⟩

/-- Reads a value that was written without brackets. -/
def ofRaw (raw : Raw) : Except Fault Scalar :=
  if raw.kind = .atom then bare raw else (stringText raw).map .string

end Scalar

end SqlAudit.Toml

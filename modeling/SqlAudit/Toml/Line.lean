import SqlAudit.Toml.Token

/-! # Lines of TOML

A text is a list of table headers and entries. Here only its form is read: keys and values keep the
text they were written in.
-/

namespace SqlAudit.Toml

/-- A key or a value as it was written. -/
structure Raw where
  kind : Kind
  text : List Char
  span : Span
  deriving Repr, Inhabited

mutual

/-- A value as it was written. -/
inductive RawValue where
  | scalar (raw : Raw)
  | array (items : List RawValue) (span : Span)
  | table (entries : List RawEntry) (span : Span)

structure RawEntry where
  key : List Raw
  value : RawValue

end

inductive Line where
  /-- `[key]`, or `[[key]]` for a new table of an array. -/
  | header (key : List Raw) (isArray : Bool) (span : Span)
  | entry (e : RawEntry)

/-- What is read from tokens, with the tokens that are left. -/
abbrev Read (α : Type) : Type := List Token → Except Fault (α × List Token)

def spanOf (ts : List Token) : Span :=
  (ts.head?.map Token.span).getD ⟨0, 0⟩

def kindOf (ts : List Token) : Kind :=
  (ts.head?.map Token.kind).getD .eof

def skipBlank (ts : List Token) : List Token :=
  ts.dropWhile fun t => t.kind = .blank

/-- The tokens without blanks, comments and line ends in front. -/
def skipLines (ts : List Token) : List Token :=
  ts.dropWhile fun t => t.kind = .blank || t.kind = .comment || t.kind = .newline

/-- The tokens from the next line end on. -/
def toLineEnd (ts : List Token) : List Token :=
  ts.dropWhile fun t => t.kind != .newline && t.kind != .eof

def isKey (k : Kind) : Bool :=
  k = .atom || k = .literal || k = .basic || k = .longLiteral || k = .longBasic

/-- An empty key or value in front of the next token. -/
def nothing (ts : List Token) : Raw :=
  ⟨.atom, [], (spanOf ts).before⟩

/-- A dotted key, and whether all its parts are there. A missing part is an empty one. -/
def key : Nat → List Token → (List Raw × Bool) × List Token
  | 0, ts => (([], true), ts)
  | fuel + 1, ts =>
    let ts := skipBlank ts
    match ts with
    | t :: rest =>
      if isKey t.kind then
        let here : Raw := ⟨t.kind, t.text, t.span⟩
        let rest := skipBlank rest
        if kindOf rest = .dot then
          let ((more, whole), rest) := key fuel rest.tail
          ((here :: more, whole), rest)
        else (([here], true), rest)
      else (([nothing ts], false), ts)
    | [] => (([nothing ts], false), ts)

/-- A scalar that begins with an atom or a dot: all that touches it belongs to it, and a time may
follow a date after a space. -/
def scalarRun : Nat → List Token → List Token × List Token
  | 0, ts => ([], ts)
  | fuel + 1, ts =>
    match ts with
    | t :: rest =>
      if t.kind = .atom || t.kind = .dot then
        let (more, rest) := scalarRun fuel rest
        (t :: more, rest)
      else ([], ts)
    | [] => ([], [])

def isDate (cs : List Char) : Bool :=
  cs.length = 10 && (cs.drop 4).head? = some '-' && (cs.drop 7).head? = some '-' &&
    (cs.take 4).all Char.isDigit

def bareScalar (ts : List Token) : Raw × List Token :=
  let (found, rest) := scalarRun ts.length ts
  let text := found.flatMap Token.text
  let start := spanOf ts
  let stop := ((found.getLast?).map Token.span).getD start
  match rest with
  | ⟨.blank, [' '], _⟩ :: t :: more =>
    if isDate text && t.kind = .atom && t.text.head?.any Char.isDigit then
      let (time, rest) := scalarRun ts.length (t :: more)
      let stop := ((time.getLast?).map Token.span).getD stop
      (⟨.atom, text ++ [' '] ++ time.flatMap Token.text, start.through stop⟩, rest)
    else (⟨.atom, text, start.through stop⟩, rest)
  | _ => (⟨.atom, text, start.through stop⟩, rest)

mutual

def value : Nat → Read RawValue
  | 0, ts => .error ⟨"recursion limit exceeded", spanOf ts⟩
  | fuel + 1, ts =>
    match kindOf ts with
    | .openBracket => arrayItems fuel (spanOf ts) [] true ts.tail
    | .openBrace => tableEntries fuel (spanOf ts) [] false ts.tail
    | .literal | .basic | .longLiteral | .longBasic =>
      match ts with
      | t :: rest => .ok (.scalar ⟨t.kind, t.text, t.span⟩, rest)
      | [] => .ok (.scalar (nothing ts), ts)
    | .atom | .dot =>
      let (raw, rest) := bareScalar ts
      .ok (.scalar raw, rest)
    | .equals => .error ⟨"extra \x60=\x60, expected nothing", spanOf ts⟩
    | .closeBracket => .error ⟨"missing array opening, expected \x60[\x60", (spanOf ts).before⟩
    | .closeBrace =>
      .error ⟨"missing inline table opening, expected \x60\x7b\x60", (spanOf ts).before⟩
    | .comma | .blank | .newline | .comment | .eof => .ok (.scalar (nothing ts), ts)

/-- The items of an array after its opening bracket; `ready` says that a value may come. -/
def arrayItems : Nat → Span → List RawValue → Bool → Read RawValue
  | 0, _, _, _, ts => .error ⟨"recursion limit exceeded", spanOf ts⟩
  | fuel + 1, opening, items, ready, ts =>
    let ts := skipLines ts
    match kindOf ts with
    | .eof => .error ⟨"unclosed array, expected \x60]\x60", spanOf ts⟩
    | .closeBracket => .ok (.array items.reverse (opening.through (spanOf ts)), ts.tail)
    | .comma =>
      if ready then .error ⟨"extra comma in array, expected value", spanOf ts⟩
      else arrayItems fuel opening items true ts.tail
    | .equals => .error ⟨"unexpected \x60=\x60 in array, expected value, \x60]\x60", spanOf ts⟩
    | .closeBrace => .error ⟨"unclosed array, expected \x60]\x60", (spanOf ts).before⟩
    | _ =>
      if ready then do
        let (v, rest) ← value fuel ts
        arrayItems fuel opening (v :: items) false rest
      else .error ⟨"missing comma between array elements, expected \x60,\x60", (spanOf ts).before⟩

/-- The entries of a table in braces after the opening one; `more` says that a comma came last. -/
def tableEntries : Nat → Span → List RawEntry → Bool → Read RawValue
  | 0, _, _, _, ts => .error ⟨"recursion limit exceeded", spanOf ts⟩
  | fuel + 1, opening, entries, more, ts =>
    let ts := skipBlank ts
    match kindOf ts with
    | .closeBrace =>
      if more then
        .error ⟨"trailing commas are not supported in inline tables, expected nothing",
          (spanOf ts).before⟩
      else .ok (.table entries.reverse (opening.through (spanOf ts)), ts.tail)
    | .eof => .error ⟨"unclosed inline table, expected \x60\x7d\x60", spanOf ts⟩
    | .newline | .comment =>
      .error ⟨"newlines are unsupported in inline tables, expected nothing", spanOf ts⟩
    | .comma =>
      if more || entries.isEmpty then
        .error ⟨"extra comma in inline table, expected value", (spanOf ts).before⟩
      else tableEntries fuel opening entries true ts.tail
    | _ =>
      if entries.isEmpty || more then do
        let ((name, _), rest) := key ts.length ts
        let rest := skipBlank rest
        if kindOf rest = .equals then
          let (v, rest) ← value fuel (skipBlank rest.tail)
          tableEntries fuel opening (⟨name, v⟩ :: entries) false rest
        else .error ⟨"key with no value, expected \x60=\x60", (spanOf rest).before⟩
      else .error ⟨"missing comma between inline table entries, expected \x60,\x60",
        (spanOf ts).before⟩

end

/-- Nothing but blanks and a comment up to the end of the line. -/
def lineEnd (ts : List Token) : Except Fault (List Token) :=
  let ts := skipBlank ts
  let ts := ts.dropWhile fun t => t.kind = .comment
  match kindOf ts with
  | .newline | .eof => .ok ts
  | _ => .error ⟨"unexpected key or value, expected newline, \x60#\x60", (spanOf ts).before⟩

/-- A header, from its opening bracket on. -/
def header (ts : List Token) : Except Fault (Line × List Token) :=
  let opening := spanOf ts
  let rest := ts.tail
  let isArray := kindOf rest = .openBracket
  let rest := if isArray then rest.tail else rest
  let ((name, whole), rest) := key ts.length rest
  let rest := skipBlank rest
  let line (span : Span) : Line := .header name isArray (opening.through span)
  if kindOf rest = .closeBracket then
    let close := spanOf rest
    let rest := rest.tail
    if isArray then
      if kindOf rest = .closeBracket then (lineEnd rest.tail).map (line (spanOf rest), ·)
      else .error ⟨"unclosed array table, expected \x60]\x60", (spanOf rest).before⟩
    else (lineEnd rest).map (line close, ·)
  else if whole then .error ⟨"unclosed table, expected \x60]\x60", (spanOf rest).before⟩
  else .ok (line (spanOf rest), toLineEnd rest)

def entry (ts : List Token) : Except Fault (Line × List Token) := do
  let (name, rest) := if kindOf ts = .equals then ([nothing ts], ts) else
    let ((name, _), rest) := key ts.length ts
    (name, skipBlank rest)
  if kindOf rest = .equals then
    let (v, rest) ← value ts.length (skipBlank rest.tail)
    let rest ← lineEnd rest
    pure (.entry ⟨name, v⟩, rest)
  else .error ⟨"key with no value, expected \x60=\x60", (spanOf rest).before⟩

def linesFrom : Nat → List Token → Except Fault (List Line)
  | 0, _ => .ok []
  | fuel + 1, ts => do
    let ts := skipLines ts
    match kindOf ts with
    | .eof => pure []
    | .closeBracket => .error ⟨"missing table open, expected \x60[\x60", (spanOf ts).before⟩
    | .openBracket =>
      let (line, rest) ← header ts
      pure (line :: (← linesFrom fuel rest))
    | _ =>
      let (line, rest) ← entry ts
      pure (line :: (← linesFrom fuel rest))

/-- The first comment or line end that is wrong by itself: where it begins, and its fault. -/
def firstSpoiled (ts : List Token) : Option (Nat × Fault) :=
  ts.findSome? fun t => t.fault?.map (t.span.start, ·)

/-- The lines of a text. Of two faults the one that comes first is told. -/
def lines (source : String) : Except Fault (List Line) :=
  let ts := tokens source
  match firstSpoiled ts, linesFrom ts.length ts with
  | none, found => found
  | some (_, fault), .ok _ => .error fault
  | some (start, fault), .error other =>
    .error (if other.span.start ≤ start then other else fault)

end SqlAudit.Toml

import SqlAudit.Sql.Dialect
import SqlAudit.Sql.Refusal
import SqlAudit.Text.Pieces

/-! # Readers

A reader takes lexemes from the front and gives a value with the lexemes that are left, or a
refusal. It sees the dialect, and whether it stands among the options of a column, where `NOT NULL`
and `COLLATE` end an expression.

`keyword` and `symbol` take what they name if it is next and say whether it was. The readers with
`need` in front refuse a text without it, those with `at` in front take nothing, and a reader whose
name ends in a question mark gives nothing if there is nothing for it.

Lists are read with as much fuel as there are lexemes. Every round takes at least one lexeme, so the
fuel never ends before the text does.
-/

namespace SqlAudit.Sql

/-- What a reader knows beside the lexemes. -/
structure Mode where
  dialect : Dialect
  /-- The reader stands among the options of a column. -/
  inColumn : Bool
  deriving Repr, Inhabited

/-- A reader of a value. -/
def Reader (α : Type) : Type :=
  Mode → List Lexeme → Except Refusal (α × List Lexeme)

namespace Reader

variable {α β : Type}

@[inline] def give (a : α) : Reader α :=
  fun _ rest => .ok (a, rest)

@[inline] def andThen (p : Reader α) (f : α → Reader β) : Reader β :=
  fun mode rest =>
    match p mode rest with
    | .ok (a, rest) => f a mode rest
    | .error r => .error r

instance : Monad Reader where
  pure := give
  bind := andThen

def refuse (r : Refusal) : Reader α :=
  fun _ _ => .error r

/-- Refuses the text because something else was expected where the reader stands. -/
def expected (what : String) : Reader α :=
  fun _ rest => .error (.expected what rest.head?)

/-- Refuses the text, with the position where the reader stands. -/
def wrong (what : String) : Reader α :=
  fun _ rest => .error (.wrong what (rest.head?.map Lexeme.start))

def dialect : Reader Dialect :=
  fun mode rest => .ok (mode.dialect, rest)

/-- The reader stands among the options of a column. -/
def inColumn : Reader Bool :=
  fun mode rest => .ok (mode.inColumn, rest)

/-- Reads as among the options of a column, or not. -/
def within (column : Bool) (p : Reader α) : Reader α :=
  fun mode rest => p { mode with inColumn := column } rest

def left : Reader Nat :=
  fun _ rest => .ok (rest.length, rest)

def peek : Reader (Option Lexeme) :=
  fun _ rest => .ok (rest.head?, rest)

/-- The lexeme after `n` others, which is left in place. -/
def peekAt (n : Nat) : Reader (Option Lexeme) :=
  fun _ rest => .ok (rest[n]?, rest)

/-- The keyword after `n` lexemes, empty if no unquoted word stands there. -/
def keyAt (n : Nat) : Reader String :=
  fun _ rest => .ok ((rest[n]?.map Lexeme.key).getD "", rest)

def next : Reader (Option Lexeme) :=
  fun _ rest => .ok (rest.head?, rest.tail)

def skip : Reader Unit :=
  fun _ rest => .ok ((), rest.tail)

/-- Runs a reader for its value only. -/
def ahead (p : Reader α) : Reader α :=
  fun mode rest =>
    match p mode rest with
    | .ok (a, _) => .ok (a, rest)
    | .error r => .error r

/-- Tries a reader; if it refuses, nothing is taken. Only too deep a nesting refuses the text for
good. -/
def attempt (p : Reader α) : Reader (Option α) :=
  fun mode rest =>
    match p mode rest with
    | .ok (a, rest) => .ok (some a, rest)
    | .error .tooDeep => .error .tooDeep
    | .error _ => .ok (none, rest)

/-- Runs a reader that may give nothing; then nothing is taken. -/
def retract (p : Reader (Option α)) : Reader (Option α) :=
  fun mode rest =>
    match p mode rest with
    | .ok (some a, more) => .ok (some a, more)
    | .ok (none, _) => .ok (none, rest)
    | .error r => .error r

/-- Runs a test only where a condition holds. -/
def only (condition : Bool) (p : Reader Bool) : Reader Bool :=
  if condition then p else give false

/-- Tries a reader and keeps its refusal. -/
def outcome (p : Reader α) : Reader (Except Refusal α) :=
  fun mode rest =>
    match p mode rest with
    | .ok (a, rest) => .ok (.ok a, rest)
    | .error r => .ok (.error r, rest)

/-! ## Keywords -/

def atKeyword (key : String) : Reader Bool :=
  fun _ rest =>
    match rest with
    | lexeme :: _ => .ok (lexeme.key == key, rest)
    | [] => .ok (false, rest)

def keyword (key : String) : Reader Bool :=
  fun _ rest =>
    match rest with
    | lexeme :: more => if lexeme.key == key then .ok (true, more) else .ok (false, rest)
    | [] => .ok (false, rest)

/-- The lexemes after some keywords, if they begin with them. -/
def afterKeywords : List String → List Lexeme → Option (List Lexeme)
  | [], rest => some rest
  | _ :: _, [] => none
  | key :: keys, lexeme :: rest => if lexeme.key == key then afterKeywords keys rest else none

/-- Takes keywords in a row if all of them are next. -/
def keywords (keys : List String) : Reader Bool :=
  fun _ rest =>
    match afterKeywords keys rest with
    | some more => .ok (true, more)
    | none => .ok (false, rest)

/-- Takes one of some keywords if it is next. -/
def oneOf (keys : List String) : Reader (Option String) :=
  fun _ rest =>
    match rest with
    | lexeme :: more =>
      if keys.contains lexeme.key then .ok (some lexeme.key, more) else .ok (none, rest)
    | [] => .ok (none, rest)

/-- Takes the first of some phrases of keywords that is next. -/
def oneOfPhrases : List (List String) → Reader (Option String)
  | [] => pure none
  | keys :: more => do
    if ← keywords keys then pure (some (Text.joinWith " " keys)) else oneOfPhrases more

def atOneOf (keys : List String) : Reader Bool :=
  fun _ rest => .ok (rest.head?.any fun lexeme => keys.contains lexeme.key, rest)

def needKeyword (key : String) : Reader Unit := do
  if ← keyword key then pure () else expected key

/-- Takes keywords in a row, which have to be next. -/
def needKeywords : List String → Reader Unit
  | [] => pure ()
  | key :: keys => do
    needKeyword key
    needKeywords keys

def needOneOf (keys : List String) : Reader String := do
  match ← oneOf keys with
  | some key => pure key
  | none =>
    expected ("one of " ++ match keys with
      | [] => ""
      | key :: more => more.foldl (fun text k => text ++ " or " ++ k) key)

/-! ## Symbols -/

def isSymbol (s : String) (lexeme : Lexeme) : Bool :=
  match lexeme.token with
  | .symbol t => t == s
  | _ => false

def atSymbol (s : String) : Reader Bool :=
  fun _ rest => .ok (rest.head?.any (isSymbol s), rest)

def symbol (s : String) : Reader Bool :=
  fun _ rest =>
    match rest with
    | lexeme :: more => if isSymbol s lexeme then .ok (true, more) else .ok (false, rest)
    | [] => .ok (false, rest)

def needSymbol (s : String) : Reader Unit := do
  if ← symbol s then pure () else expected s

def parenthesised (p : Reader α) : Reader α := do
  needSymbol "("
  let a ← p
  needSymbol ")"
  pure a

/-! ## Lists -/

/-- Values as long as a reader gives one. -/
def manyFrom (p : Reader (Option α)) : Nat → Reader (List α)
  | 0 => pure []
  | fuel + 1 => do
    match ← p with
    | some a =>
      let more ← manyFrom p fuel
      pure (a :: more)
    | none => pure []

def many (p : Reader (Option α)) : Reader (List α) := do
  manyFrom p ((← left) + 1)

/-- Changes a value as long as a reader gives a new one. -/
def growFrom (p : α → Reader (Option α)) : Nat → α → Reader α
  | 0, a => pure a
  | fuel + 1, a => do
    match ← p a with
    | some b => growFrom p fuel b
    | none => pure a

def grow (p : α → Reader (Option α)) (a : α) : Reader α := do
  growFrom p ((← left) + 1) a

/-- One value or more, where `more` takes what stands between two of them and says whether another
follows. -/
def separatedFrom (p : Reader α) (more : Reader Bool) : Nat → Reader (List α)
  | 0 => do
    let a ← p
    pure [a]
  | fuel + 1 => do
    let a ← p
    if ← more then
      let rest ← separatedFrom p more fuel
      pure (a :: rest)
    else pure [a]

/-- One value or more, with commas between them. -/
def commas (p : Reader α) : Reader (List α) := do
  separatedFrom p (symbol ",") (← left)

/-- As `commas`, but an opening that `closed` recognises ends the list even after a comma. -/
def commasUntil (closed : Reader Bool) (p : Reader α) : Reader (List α) := do
  let more : Reader Bool := do
    if ← symbol "," then
      let stop ← ahead closed
      pure !stop
    else pure false
  separatedFrom p more (← left)

/-- Values with commas between them, or none if the closing symbol is next. -/
def commas0 (closing : String) (p : Reader α) : Reader (List α) := do
  if ← atSymbol closing then pure [] else commas p

end Reader

end SqlAudit.Sql

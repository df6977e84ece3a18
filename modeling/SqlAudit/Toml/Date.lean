import SqlAudit.Text.Natural

/-! # Dates of TOML

A date, a time of day, or a date with a time and perhaps an offset from universal time. A text with
the right form is still refused if it names no day of the calendar or no time of the clock.
-/

namespace SqlAudit.Toml.Date

/-- A run of digits, or one other character. -/
inductive Piece where
  | digits (ds : List Char)
  | mark (c : Char)
  deriving DecidableEq, Repr, Inhabited

def pieces : List Char → List Piece
  | [] => []
  | c :: cs =>
    match c.isDigit, pieces cs with
    | true, .digits ds :: rest => .digits (c :: ds) :: rest
    | true, rest => .digits [c] :: rest
    | false, rest => .mark c :: rest

/-- Takes pieces from the front, or says why the text is no date. -/
abbrev Reading (α : Type) : Type := StateT (List Piece) (Except String) α

def wrong {α : Type} (what expected : String) : Reading α :=
  throw ("invalid " ++ what ++ ", expected " ++ expected)

def check (holds : Bool) (what expected : String) : Reading Unit :=
  unless holds do wrong what expected

def digits (what expected : String) : Reading (List Char) := do
  match ← get with
  | .digits ds :: rest => set rest; pure ds
  | _ => wrong what expected

/-- Takes one of some characters if it is next. -/
def mark? (cs : List Char) : Reading (Option Char) := do
  match ← get with
  | .mark c :: rest => if cs.contains c then set rest; pure (some c) else pure none
  | _ => pure none

def mark (c : Char) (what expected : String) : Reading Unit := do
  if (← mark? [c]).isNone then wrong what expected

/-- The number of days in a month; a year is a leap year by the Gregorian rule. -/
def daysIn (year month : Nat) : Nat :=
  if month = 2 then
    if year % 4 = 0 && (year % 100 != 0 || year % 400 = 0) then 29 else 28
  else if month = 4 || month = 6 || month = 9 || month = 11 then 30
  else 31

/-- A date behind the first dash. -/
def monthAndDay (year : List Char) : Reading Unit := do
  let month ← digits "date" "month"
  mark '-' "date" "\x60-\x60 (MM-DD)"
  let day ← digits "date" "day"
  check (year.length = 4) "date" "a four-digit year (YYYY)"
  check (month.length = 2) "date" "a two-digit month (MM)"
  check (day.length = 2) "date" "a two-digit day (DD)"
  check (1 ≤ Text.digitsValue month && Text.digitsValue month ≤ 12) "date" "month between 01 and 12"
  let last := daysIn (Text.digitsValue year) (Text.digitsValue month)
  check (1 ≤ Text.digitsValue day && Text.digitsValue day ≤ last) "date"
    ("day between 01 and " ++ toString last)

/-- A time of day. A second may be 60, for the leap second. -/
def time : Reading Unit := do
  let hour ← digits "time" "hour"
  mark ':' "time" "\x60:\x60 (HH:MM)"
  let minute ← digits "time" "minute"
  mark ':' "time" "\x60:\x60 (MM:SS)"
  let second ← digits "time" "second"
  if (← mark? ['.']).isSome then
    let _ ← digits "time" "nanosecond"
  check (hour.length = 2) "time" "a two-digit hour (HH)"
  check (minute.length = 2) "time" "a two-digit minute (MM)"
  check (second.length = 2) "time" "a two-digit second (SS)"
  check (Text.digitsValue hour ≤ 23) "time" "hour between 00 and 23"
  check (Text.digitsValue minute ≤ 59) "time" "minute between 00 and 59"
  check (Text.digitsValue second ≤ 60) "time" "second between 00 and 60"

/-- An offset from universal time, if the text goes on. -/
def offset? : Reading Unit := do
  if (← get).isEmpty then return
  if (← mark? ['Z', 'z']).isSome then return
  if (← mark? ['+', '-']).isNone then wrong "offset" "\x60Z\x60, +OFFSET, -OFFSET"
  let hours ← digits "offset" "hour"
  mark ':' "offset" "\x60:\x60 (HH:MM)"
  let minutes ← digits "offset" "minute"
  check (hours.length = 2) "offset" "a two-digit hour (HH)"
  check (minutes.length = 2) "offset" "a two-digit minute (MM)"
  check (Text.digitsValue hours ≤ 23) "offset" "hours between 00 and 23"
  check (Text.digitsValue minutes ≤ 59) "offset" "minutes between 00 and 59"

/-- A date, a time, or both. -/
def moment : Reading Unit := do
  let whole ← get
  let first ← digits "datetime" "year or hour"
  match ← mark? ['-', ':'] with
  | some '-' =>
    monthAndDay first
    unless (← get).isEmpty do
      if (← mark? ['T', 't', ' ']).isNone then
        wrong "date-time" "\x60T\x60 between date and time"
      time
      offset?
  | some _ =>
    -- the first digits were those of the hour
    set whole
    time
  | none => wrong "datetime" "\x60-\x60 (YYYY-MM) or \x60:\x60 (HH:MM)"
  unless (← get).isEmpty do throw "invalid datetime"

/-- Why a text is no date, or `none` if it is one. -/
def fault? (cs : List Char) : Option String :=
  match moment.run (pieces cs) with
  | .ok _ => none
  | .error reason => some reason

end SqlAudit.Toml.Date
